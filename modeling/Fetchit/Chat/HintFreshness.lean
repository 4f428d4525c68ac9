import Fetchit.Chat.Cards
import Fetchit.Lib.Run

/-! The relays of one contact. An in-band hint replaces them when its epoch is above the watermark
of the card; an import brings relays of its own, stamped or not, but once the card has a watermark
the merge keeps what is there. -/
namespace Fetchit.Chat
open Lib.Run StoredContactCard

inductive CardUpdate where
  | hint (relays : List String) (hintEpochMs : Nat) (fault : Option ChatError)
  | imported (card : StoredContactCard) (fault : Option ChatError)

def CardUpdate.epoch : CardUpdate → Option Nat
  | .hint _ hintEpochMs _ => some hintEpochMs
  | .imported card _ => card.lastHintEpochMs

def CardUpdate.hints (crypto : ChatCrypto) : CardUpdate → Option RendezvousHintsV1
  | .hint relays _ _ => some ⟨relays.map (migrateKnownBareIpRelay crypto)⟩
  | .imported card _ => card.rendezvousHints

section
variable (crypto : ChatCrypto) (contact : String)

def updateStep (contacts : Contacts) : CardUpdate → Contacts
  | .hint relays hintEpochMs fault =>
    (applyRelayHint crypto contacts contact relays hintEpochMs fault).2
  | .imported card fault =>
    (saveImported { card with agentIdHex := contact } contacts fault).2

def storedCard (contacts : Contacts) : Option StoredContactCard :=
  (load contacts contact).toOption.join

def watermark (found : Option StoredContactCard) : Option Nat := found.bind (·.lastHintEpochMs)

def withinCaps (relays : List String) : Bool :=
  !(relays.isEmpty || relays.length > maxHintRelays ||
    relays.any (·.utf8ByteSize > maxHintUrlLen))

def hinted (relays : List String) (hintEpochMs : Nat) (card : StoredContactCard) :
    StoredContactCard :=
  if hintEpochMs ≤ card.lastHintEpochMs.getD 0 then card
  else { card with
    rendezvousHints := some ⟨relays.map (migrateKnownBareIpRelay crypto)⟩
    lastHintEpochMs := some hintEpochMs }

def cardStep (found : Option StoredContactCard) : CardUpdate → Option StoredContactCard
  | .hint relays hintEpochMs fault =>
    if withinCaps relays && fault.isNone then found.map (hinted crypto relays hintEpochMs)
    else found
  | .imported card fault =>
    if fault.isNone then some (({ card with agentIdHex := contact }).mergeFound found) else found

/-- An update above the watermark takes effect: a hint keeps to the limits, finds a card and is
written, and a stamped import is the first to set a watermark. -/
def Timely (found : Option StoredContactCard) : CardUpdate → Prop
  | .hint relays hintEpochMs fault => hintEpochMs ≤ (watermark found).getD 0 ∨
      withinCaps relays = true ∧ fault = none ∧ found ≠ none
  | .imported card fault => ∀ stamp ∈ card.lastHintEpochMs,
      (∃ epoch ∈ watermark found, stamp ≤ epoch) ∨ watermark found = none ∧ fault = none

end

instance decidableTimely (found : Option StoredContactCard) (update : CardUpdate) :
    Decidable (Timely found update) := by
  unfold Timely
  split <;> infer_instance

section
variable {crypto : ChatCrypto} {contact : String}

def Readable (contact : String) (contacts : Contacts) (found : Option StoredContactCard) : Prop :=
  load contacts contact = .ok found ∧ ∀ card ∈ found, card.agentIdHex = contact

variable {contacts : Contacts} {found : Option StoredContactCard} {updates : List CardUpdate}

theorem Readable.storedCard (h : Readable contact contacts found) :
    storedCard contact contacts = found := by
  rw [Chat.storedCard, h.1]
  rfl

theorem Readable.insert (own : card.agentIdHex = contact) :
    Readable contact (contacts.insert contact (.ok card)) (some card) := by
  refine ⟨?_, ?_⟩
  · rw [load_insert, if_pos rfl]
  · intro other mem
    cases mem
    exact own

theorem Readable.step (h : Readable contact contacts found) (update : CardUpdate) :
    Readable contact (updateStep crypto contact contacts update)
      (cardStep crypto contact found update) := by
  cases update with
  | hint relays hintEpochMs fault =>
    unfold updateStep cardStep applyRelayHint
    dsimp only
    split
    · rename_i beyond
      have out : withinCaps relays = false := by
        simp only [withinCaps, beyond, Bool.not_true]
      rw [out]
      exact h
    · rename_i within
      have kept : withinCaps relays = true := by
        simp only [withinCaps, within, Bool.not_false]
      rw [kept, h.1]
      cases found with
      | none => cases fault <;> exact h
      | some card =>
        have own : card.agentIdHex = contact := h.2 card rfl
        by_cases old : hintEpochMs ≤ card.lastHintEpochMs.getD 0
        · cases fault <;> simpa [hinted, old] using h
        · cases fault with
          | some error => simpa [old] using h
          | none =>
            simp only [old, own, Option.map_some, hinted]
            exact .insert rfl
  | imported card fault =>
    simp only [updateStep, saveImported, h.1]
    cases fault with
    | some error => exact h
    | none =>
      have own := agentIdHex_mergeFound { card with agentIdHex := contact } found
      simp only [save, own]
      exact .insert own

theorem Readable.run :
    ∀ {contacts : Contacts} {found : Option StoredContactCard}, Readable contact contacts found →
      Readable contact (run (updateStep crypto contact) contacts updates)
        (run (cardStep crypto contact) found updates) := by
  induction updates with
  | nil =>
    intro contacts found h
    exact h
  | cons update updates ih =>
    intro contacts found h
    exact ih (h.step update)

theorem Readable.meets :
    ∀ {contacts : Contacts} {found : Option StoredContactCard}, Readable contact contacts found →
      (Meets (updateStep crypto contact)
          (fun contacts => condition (Chat.storedCard contact contacts))
        contacts updates ↔ Meets (cardStep crypto contact) condition found updates) := by
  induction updates with
  | nil =>
    intro contacts found h
    exact Iff.rfl
  | cons update updates ih =>
    intro contacts found h
    rw [meets_cons, meets_cons, h.storedCard, ih (h.step update)]

def Rises (earlier later : Option Nat) : Prop := ∀ e ∈ earlier, ∃ e' ∈ later, e ≤ e'

theorem Rises.refl (mark : Option Nat) : Rises mark mark := fun e mem => ⟨e, mem, Nat.le_refl e⟩

theorem Rises.trans (h : Rises first second) (h' : Rises second third) : Rises first third := by
  intro e mem
  obtain ⟨e', mem', le⟩ := h e mem
  obtain ⟨e'', mem'', le'⟩ := h' e' mem'
  exact ⟨e'', mem'', le.trans le'⟩

theorem Rises.getD_le (h : Rises earlier later) :
    earlier.getD 0 ≤ later.getD 0 := by
  cases earlier with
  | none => exact Nat.zero_le _
  | some e =>
    obtain ⟨e', mem, le⟩ := h e rfl
    rw [Option.mem_def.mp mem]
    exact le

theorem lastHintEpochMs_mergeFound (card : StoredContactCard) (found : Option StoredContactCard) :
    (card.mergeFound found).lastHintEpochMs = (watermark found).or card.lastHintEpochMs := by
  cases found <;> rfl

theorem rises_hinted (relays : List String) (hintEpochMs : Nat) (card : StoredContactCard) :
    Rises card.lastHintEpochMs (hinted crypto relays hintEpochMs card).lastHintEpochMs := by
  unfold hinted
  split
  · exact .refl _
  · rename_i above
    intro e mem
    rw [Option.mem_def.mp mem, Option.getD_some] at above
    exact ⟨hintEpochMs, rfl, by omega⟩

theorem rises_cardStep (crypto : ChatCrypto) (contact : String)
    (found : Option StoredContactCard) (update : CardUpdate) :
    Rises (watermark found) (watermark (cardStep crypto contact found update)) := by
  cases update with
  | hint relays hintEpochMs fault =>
    unfold cardStep
    dsimp only
    split
    · cases found with
      | none => exact .refl _
      | some card => exact rises_hinted relays hintEpochMs card
    · exact .refl _
  | imported card fault =>
    unfold cardStep
    dsimp only
    split
    · intro e mem
      refine ⟨e, ?_, Nat.le_refl e⟩
      show lastHintEpochMs _ = some e
      rw [lastHintEpochMs_mergeFound, Option.mem_def.mp mem, Option.some_or]
    · exact .refl _

theorem rises_run : ∀ found : Option StoredContactCard,
    Rises (watermark found) (watermark (run (cardStep crypto contact) found updates)) := by
  induction updates with
  | nil =>
    intro found
    exact .refl _
  | cons update updates ih =>
    intro found
    exact (rises_cardStep crypto contact found update).trans (ih _)

def Sourced (crypto : ChatCrypto) (seen : List CardUpdate) (found : Option StoredContactCard) :
    Prop :=
  ∀ card ∈ found, ∀ epoch ∈ card.lastHintEpochMs, ∃ update ∈ seen,
    update.epoch = some epoch ∧ update.hints crypto = card.rendezvousHints

def Newest (seen : List CardUpdate) (found : Option StoredContactCard) : Prop :=
  ∀ update ∈ seen, ∀ epoch ∈ update.epoch, epoch ≤ (watermark found).getD 0

theorem Sourced.step (h : Sourced crypto seen found) (update : CardUpdate) :
    Sourced crypto (seen ++ [update]) (cardStep crypto contact found update) := by
  have earlier : Sourced crypto (seen ++ [update]) found := by
    intro card mem epoch stamped
    obtain ⟨source, there, sameEpoch, sameHints⟩ := h card mem epoch stamped
    exact ⟨source, List.mem_append_left _ there, sameEpoch, sameHints⟩
  have last : update ∈ seen ++ [update] := List.mem_append_right _ List.mem_cons_self
  cases update with
  | hint relays hintEpochMs fault =>
    unfold cardStep
    dsimp only
    split
    · intro card mem epoch stamped
      obtain ⟨before, found_eq, rfl⟩ := Option.map_eq_some_iff.mp mem
      unfold hinted at stamped ⊢
      split at stamped
      · rename_i old
        rw [if_pos old]
        exact earlier before found_eq epoch stamped
      · rename_i above
        rw [if_neg above]
        exact ⟨_, last, stamped, rfl⟩
    · exact earlier
  | imported card fault =>
    unfold cardStep
    dsimp only
    split
    · intro merged mem epoch stamped
      cases mem
      cases found with
      | none => exact ⟨_, last, stamped, rfl⟩
      | some existing =>
        cases mark : existing.lastHintEpochMs with
        | none =>
          simp only [mergeFound, merge, mark] at stamped ⊢
          exact ⟨_, last, stamped, rfl⟩
        | some kept =>
          simp only [mergeFound, merge, mark] at stamped ⊢
          exact earlier existing rfl epoch (mark.trans stamped)
    · exact earlier

theorem epoch_le_of_timely (timely : Timely found update) :
    ∀ epoch ∈ update.epoch, epoch ≤ (watermark (cardStep crypto contact found update)).getD 0 := by
  intro epoch mem
  have rises := (rises_cardStep crypto contact found update).getD_le
  cases update with
  | hint relays hintEpochMs fault =>
    cases mem
    rcases timely with old | ⟨within, written, there⟩
    · omega
    · cases found with
      | none => exact absurd rfl there
      | some card =>
        simp only [cardStep, within, written, Option.isNone_none, Bool.and_self, if_true,
          Option.map_some, hinted]
        split
        · assumption
        · exact Nat.le_refl _
  | imported card fault =>
    rcases timely epoch mem with ⟨mark, set, le⟩ | ⟨unset, written⟩
    · rw [Option.mem_def.mp set, Option.getD_some] at rises
      omega
    · simp only [cardStep, written, Option.isNone_none, if_true, watermark, Option.bind_some]
      rw [lastHintEpochMs_mergeFound, unset]
      have stamped : card.lastHintEpochMs = some epoch := mem
      rw [stamped]
      exact Nat.le_refl _

theorem Newest.step (h : Newest seen found) (timely : Timely found update) :
    Newest (seen ++ [update]) (cardStep crypto contact found update) := by
  intro other mem epoch has
  rcases List.mem_append.mp mem with before | this
  · have rises := (rises_cardStep crypto contact found update).getD_le
    have below := h other before epoch has
    omega
  · cases List.mem_singleton.mp this
    exact epoch_le_of_timely timely epoch has

theorem latest_run :
    ∀ {seen : List CardUpdate} {found : Option StoredContactCard}, Sourced crypto seen found →
      Newest seen found → Meets (cardStep crypto contact) Timely found updates →
      Sourced crypto (seen ++ updates) (run (cardStep crypto contact) found updates) ∧
        Newest (seen ++ updates) (run (cardStep crypto contact) found updates) := by
  induction updates with
  | nil =>
    intro seen found sourced newest _
    rw [List.append_nil]
    exact ⟨sourced, newest⟩
  | cons update updates ih =>
    intro seen found sourced newest timely
    have next := ih (sourced.step update) (newest.step timely.1) timely.2
    rwa [List.append_assoc] at next

end

/-- The watermark of a contact never falls. While every update above it takes effect, the stored
relays are those of an update with the greatest epoch so far. -/
theorem relay_hints_latest (crypto : ChatCrypto) (contact : String) (contacts : Contacts)
    (new : load contacts contact = .ok none) (updates : List CardUpdate) :
    (∀ later, Rises
      (watermark (storedCard contact (run (updateStep crypto contact) contacts updates)))
      (watermark
        (storedCard contact (run (updateStep crypto contact) contacts (updates ++ later))))) ∧
    (Meets (updateStep crypto contact) (fun contacts => Timely (storedCard contact contacts))
        contacts updates →
      ∀ card ∈ storedCard contact (run (updateStep crypto contact) contacts updates),
        ∀ epoch ∈ card.lastHintEpochMs,
          (∃ update ∈ updates, update.epoch = some epoch ∧
            update.hints crypto = card.rendezvousHints) ∧
          ∀ update ∈ updates, ∀ presented ∈ update.epoch, presented ≤ epoch) := by
  have readable : Readable contact contacts none := ⟨new, fun card mem => nomatch mem⟩
  refine ⟨?_, ?_⟩
  · intro later
    rw [readable.run.storedCard, readable.run.storedCard, run_append]
    exact rises_run _
  · intro timely
    rw [readable.meets] at timely
    rw [readable.run.storedCard]
    have sourced : Sourced crypto [] none := fun card mem => nomatch mem
    have newest : Newest [] none := by
      intro update mem
      cases mem
    have latest := latest_run sourced newest timely
    intro card mem epoch stamped
    refine ⟨latest.1 card mem epoch stamped, ?_⟩
    intro update there presented has
    have below := latest.2 update there presented has
    rw [watermark, Option.mem_def.mp mem, Option.bind_some, Option.mem_def.mp stamped] at below
    exact below

def plainChat : ChatCrypto :=
  idealChat [] ⟨"", "", 0, [], none⟩ ⟨none, "", 0, none, none, none, none, none⟩ ⟨"", 0⟩

def pairedCard (relays : List String) (stamp : Option Nat) : StoredContactCard :=
  ⟨"c", "", "", none, some ⟨relays⟩, stamp, none⟩

def hintRun : List CardUpdate :=
  [.imported (pairedCard ["a"] none) none, .hint ["b"] 7 none, .hint ["a"] 5 none]

theorem newest_hint_kept :
    storedCard "c" (run (updateStep plainChat "c") ∅ hintRun) = some (pairedCard ["b"] (some 7)) ∧
      (∃ update ∈ hintRun, update.epoch = some 7 ∧ update.hints plainChat = some ⟨["b"]⟩) ∧
      ∀ update ∈ hintRun, ∀ presented ∈ update.epoch, presented ≤ 7 := by
  have stored : storedCard "c" (run (updateStep plainChat "c") ∅ hintRun) =
      some (pairedCard ["b"] (some 7)) := by
    decide +kernel
  have latest := (relay_hints_latest plainChat "c" ∅ rfl hintRun).2 (by decide +kernel)
  exact ⟨stored, latest (pairedCard ["b"] (some 7)) stored 7 rfl⟩

/-- A pair record newer than the last hint does not replace the relays of that hint. -/
theorem newer_import_ignored :
    storedCard "c" (run (updateStep plainChat "c") ∅ [.imported (pairedCard ["a"] none) none,
        .hint ["b"] 7 none, .imported (pairedCard ["n"] (some 9)) none]) =
      some (pairedCard ["b"] (some 7)) ∧
    (CardUpdate.imported (pairedCard ["n"] (some 9)) none).epoch = some 9 := by
  decide +kernel

end Fetchit.Chat
