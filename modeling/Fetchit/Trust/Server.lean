import Mathlib.Data.List.Induction
import Fetchit.Lib.Run
import Fetchit.Trust.Storage

/-! The trust service under concurrent requests. An admin request changes the lists under the
write lock and then saves them under a read lock, which other saves may share: each creates the one
temporary file, writes it and renames it. A denylist request reads the entries and then the
version. -/
namespace Fetchit.Trust
open Lib Lib.Run Lib.Outcome

inductive AdminRequest where
  | deny (kind : EntryKind) (value : String) (reason : ReportKind)
  | revoke (kind : EntryKind) (value : String)
  deriving DecidableEq

def AdminRequest.change (now : Nat) : AdminRequest → Except String Change
  | .deny kind value reason => do
      let target ← TargetIdentity.tryNew kind value
      .ok (.deny ⟨target, now, reason⟩)
  | .revoke kind value => do
      let target ← TargetIdentity.tryNew kind value
      .ok (.revoke target)

structure IssuerSigner where
  scheme : IssuerScheme
  secretKey : Bytes
  keyId : String

def signedDenylist (signer : IssuerSigner) (kind : EntryKind) (entries : List DenylistEntry)
    (etag : String) (now : Nat) : Except String DenylistResponse := do
  let signBytes ← signer.scheme.encode ⟨etag, now, kind, entries⟩
  let sig ← (signer.scheme.sign signer.secretKey signBytes).mapError (issuerKeyError "")
  .ok ⟨etag, now, kind, entries, Text.hexEncode sig, signer.keyId⟩

/-- A change that took effect in memory; the serial counts them all. -/
structure Mutation where
  serial : Nat
  change : Change
  deriving DecidableEq

/-- A denylist request that has read its entries. `known` are the changes that had been answered
with success, `made` is the number of changes made so far. -/
structure Reading where
  kind : EntryKind
  entries : List DenylistEntry
  known : List Mutation
  made : Nat
  deriving DecidableEq

structure Published where
  response : DenylistResponse
  known : List Mutation
  made : Nat
  deriving DecidableEq

/-- What a file holds: nothing yet, a part of a write that failed, or a snapshot. -/
inductive Content where
  | empty
  | torn
  | whole (snapshot : Snapshot)
  deriving DecidableEq

/-- What the service starts with; it does not start on a torn file. -/
def Content.load : Content → Option Snapshot
  | .empty => some .default
  | .torn => none
  | .whole snapshot => some snapshot

/-- Where the file that a save has opened is linked now. -/
inductive Link where
  | tmp
  | path
  | unlinked
  deriving DecidableEq

inductive SavePhase where
  | locked
  | created (file : Link)
  | written
  deriving DecidableEq

/-- The temporary file has been renamed, and what was in its place is gone. -/
def SavePhase.renamed : SavePhase → SavePhase
  | .created .tmp => .created .path
  | .created .path => .created .unlinked
  | phase => phase

/-- A save that holds its read lock, with the bytes that it writes. -/
structure Save where
  mutation : Mutation
  bytes : Snapshot
  phase : SavePhase
  deriving DecidableEq

structure Service where
  up : Bool
  memory : Snapshot
  path : Content
  tmp : Option Content
  log : List Mutation
  saving : List Mutation
  saves : List Save
  answered : List Mutation
  reading : List Reading
  published : List Published
  deriving DecidableEq

def Service.fresh : Service :=
  ⟨true, .default, .whole .default, none, [], [], [], [], [], []⟩

/-- An operation of a save on the file system goes well or not. -/
inductive ServiceEvent where
  | admin (request : AdminRequest) (now : Nat)
  | lock (index : Nat)
  | persist (index : Nat) (done : Bool)
  | read (kind : EntryKind)
  | publish (index : Nat) (now : Nat)
  | restart (saved : Bool)
  deriving DecidableEq

/-- The write lock is not given while a save holds a read lock. -/
def Service.mutate (service : Service) (change : Change) : Service :=
  if service.saves ≠ [] then service
  else
    let mutation : Mutation := ⟨service.log.length, change⟩
    { service with
      memory := service.memory.apply change
      log := mutation :: service.log
      saving := service.saving ++ [mutation] }

def Service.lock (service : Service) (index : Nat) : Service :=
  match service.saving[index]? with
  | none => service
  | some mutation =>
    { service with
      saving := service.saving.eraseIdx index
      saves := service.saves ++ [⟨mutation, service.memory, .locked⟩] }

def Service.put (service : Service) (content : Content) : Link → Service
  | .tmp => { service with tmp := some content }
  | .path => { service with path := content }
  | .unlinked => service

/-- One operation of a save. What fails is answered with an error; the change stays in memory. -/
def Service.persist (service : Service) (index : Nat) (done : Bool) : Service :=
  match service.saves[index]? with
  | none => service
  | some save =>
    let rest := service.saves.eraseIdx index
    let next := fun phase => service.saves.set index { save with phase := phase }
    match save.phase, done with
    -- creating the file truncates one that another save has created
    | .locked, true => { service with tmp := some .empty, saves := next (.created .tmp) }
    | .created file, true => { service.put (.whole save.bytes) file with saves := next .written }
    | .created file, false => { service.put .torn file with saves := rest }
    | .written, true =>
      match service.tmp with
      | none => { service with saves := rest }
      | some content =>
        { service with
          path := content
          tmp := none
          saves := rest.map fun save => { save with phase := save.phase.renamed }
          answered := save.mutation :: service.answered }
    | _, false => { service with saves := rest }

def Service.read (service : Service) (kind : EntryKind) : Service :=
  { service with
    reading := service.reading ++
      [⟨kind, service.memory.denylistFor kind, service.answered, service.log.length⟩] }

def Service.publish (signer : IssuerSigner) (service : Service) (index now : Nat) : Service :=
  match service.reading[index]? with
  | none => service
  | some reading =>
    let rest := service.reading.eraseIdx index
    match signedDenylist signer reading.kind reading.entries service.memory.etag now with
    | .ok response =>
      { service with
        reading := rest
        published := ⟨response, reading.known, reading.made⟩ :: service.published }
    | .error _ => { service with reading := rest }

/-- The service loads the file and saves it once, or does not come up. -/
def Service.restart (service : Service) (saved : Bool) : Service :=
  let stopped := { service with up := false, saving := [], saves := [], reading := [] }
  match service.path.load with
  | none => stopped
  | some snapshot =>
    if saved then
      { stopped with up := true, memory := snapshot, path := .whole snapshot, tmp := none }
    else stopped

def serviceStep (signer : IssuerSigner) (service : Service) : ServiceEvent → Service
  | .restart saved => service.restart saved
  | event =>
    if service.up then
      match event with
      | .admin request now =>
        match request.change now with
        | .ok change => service.mutate change
        | .error _ => service
      | .lock index => service.lock index
      | .persist index done => service.persist index done
      | .read kind => service.read kind
      | .publish index now => service.publish signer index now
      | .restart _ => service
    else service

def Service.Coherent (service : Service) : Prop :=
  ∀ first ∈ service.published, ∀ second ∈ service.published,
    first.response.kind = second.response.kind → first.response.etag = second.response.etag →
      first.response.entries = second.response.entries

instance (service : Service) : Decidable service.Coherent := by
  unfold Service.Coherent
  infer_instance

def Change.Shown (change : Change) (kind : EntryKind) (entries : List DenylistEntry) : Prop :=
  change.target.kind = kind →
    match change.leaves with
    | some entry => entry ∈ entries
    | none => ∀ entry ∈ entries, entry.target ≠ change.target

instance (change : Change) (kind : EntryKind) (entries : List DenylistEntry) :
    Decidable (change.Shown kind entries) := by
  unfold Change.Shown
  split <;> infer_instance

/-- A change is reflected when the entries show it, or a change of the same target that was made
after it and before the entries were read. -/
def Mutation.Reflected (log : List Mutation) (made : Nat) (kind : EntryKind)
    (entries : List DenylistEntry) (mutation : Mutation) : Prop :=
  ∃ later ∈ log, mutation.serial ≤ later.serial ∧ later.serial < made ∧
    later.change.target = mutation.change.target ∧ later.change.Shown kind entries

instance (log : List Mutation) (made : Nat) (kind : EntryKind) (entries : List DenylistEntry)
    (mutation : Mutation) : Decidable (mutation.Reflected log made kind entries) := by
  unfold Mutation.Reflected
  infer_instance

/-- Every response reflects the changes that were answered with success before its request. -/
def Service.Reflecting (service : Service) : Prop :=
  ∀ published ∈ service.published, ∀ mutation ∈ published.known,
    mutation.Reflected service.log published.made published.response.kind
      published.response.entries

instance (service : Service) : Decidable service.Reflecting := by
  unfold Service.Reflecting
  infer_instance

/-- No request is between its two reads when a change is made, and the counter can count it; a
restart finds in the file what was in memory. -/
def Quiet (service : Service) : ServiceEvent → Prop
  | .admin request now => (request.change now).isOk = true →
      service.reading = [] ∧ service.memory.etagSeq < maxU64
  | .restart _ => service.path = .whole service.memory
  | _ => True

/-- A save starts when no other is under way. -/
def Apart (service : Service) : ServiceEvent → Prop
  | .lock _ => service.saves = []
  | _ => True

instance (service : Service) (event : ServiceEvent) : Decidable (Quiet service event) := by
  unfold Quiet
  split <;> infer_instance

instance (service : Service) (event : ServiceEvent) : Decidable (Apart service event) := by
  unfold Apart
  split <;> infer_instance

variable {signer : IssuerSigner} {service : Service} {snapshot : Snapshot}

theorem signedDenylist_ok (h : signedDenylist signer kind entries etag now = .ok response) :
    response.kind = kind ∧ response.entries = entries ∧ response.etag = etag := by
  simp only [signedDenylist, bind_eq_ok] at h
  obtain ⟨_, _, _, _, h⟩ := h
  cases h
  exact ⟨rfl, rfl, rfl⟩

/-- The versions published so far are at most the current one, and the current one shows what is
in memory. -/
structure Versioned (service : Service) : Prop where
  reading : ∀ reading ∈ service.reading,
    reading.entries = service.memory.denylistFor reading.kind
  published : ∀ published ∈ service.published, ∃ seq ≤ service.memory.etagSeq,
    published.response.etag = etagText seq ∧ (seq = service.memory.etagSeq →
      published.response.entries = service.memory.denylistFor published.response.kind)
  coherent : service.Coherent

theorem Versioned.fresh : Versioned .fresh := by
  refine ⟨?_, ?_, ?_⟩
  · intro reading mem
    cases mem
  · intro published mem
    cases mem
  · intro first mem
    cases mem

/-- A save changes nothing that readers see. -/
theorem persist_same (service : Service) (index : Nat) (done : Bool) :
    let after := service.persist index done
    after.memory = service.memory ∧ after.reading = service.reading ∧
      after.published = service.published := by
  unfold Service.persist
  dsimp only
  split
  · exact ⟨rfl, rfl, rfl⟩
  split
  · exact ⟨rfl, rfl, rfl⟩
  · cases ‹Link› <;> exact ⟨rfl, rfl, rfl⟩
  · cases ‹Link› <;> exact ⟨rfl, rfl, rfl⟩
  · split <;> exact ⟨rfl, rfl, rfl⟩
  · exact ⟨rfl, rfl, rfl⟩

theorem Versioned.of_same (versioned : Versioned service) {after : Service}
    (memory : after.memory = service.memory)
    (reading : ∀ mem ∈ after.reading, mem ∈ service.reading)
    (published : after.published = service.published) : Versioned after := by
  refine ⟨?_, ?_, ?_⟩
  · intro request mem
    rw [memory]
    exact versioned.reading request (reading request mem)
  · rw [memory, published]
    exact versioned.published
  · unfold Service.Coherent
    rw [published]
    exact versioned.coherent

theorem Versioned.mutate (versioned : Versioned service) (change : Change)
    (idle : service.reading = []) (room : service.memory.etagSeq < maxU64) :
    Versioned (service.mutate change) := by
  unfold Service.mutate
  split
  · exact versioned
  have next : (service.memory.apply change).etagSeq = service.memory.etagSeq + 1 := by
    rw [etagSeq_apply]
    omega
  refine ⟨?_, ?_, versioned.coherent⟩
  · intro reading mem
    have there : reading ∈ service.reading := mem
    rw [idle] at there
    cases there
  · intro published mem
    obtain ⟨seq, le, same, _⟩ := versioned.published published mem
    refine ⟨seq, by dsimp only; omega, same, ?_⟩
    dsimp only
    omega

theorem Versioned.publish (versioned : Versioned service) (signer : IssuerSigner)
    (index now : Nat) : Versioned (service.publish signer index now) := by
  have fewer : ∀ reading ∈ service.reading.eraseIdx index,
      reading.entries = service.memory.denylistFor reading.kind := by
    intro reading mem
    exact versioned.reading reading (List.mem_of_mem_eraseIdx mem)
  unfold Service.publish
  split
  · exact versioned
  · rename_i reading found
    have entries := versioned.reading reading (List.mem_of_getElem? found)
    split
    · rename_i response signed
      obtain ⟨kind, shown, etag⟩ := signedDenylist_ok signed
      have current : response.entries = service.memory.denylistFor response.kind := by
        rw [shown, kind, entries]
      have agrees : ∀ other ∈ service.published, other.response.kind = response.kind →
          other.response.etag = response.etag → other.response.entries = response.entries := by
        intro other mem sameKind sameEtag
        obtain ⟨seq, _, text, shows⟩ := versioned.published other mem
        rw [text, etag] at sameEtag
        rw [shows (etagText_inj sameEtag), sameKind, current]
      refine ⟨fewer, ?_, ?_⟩
      · intro published mem
        rcases List.mem_cons.mp mem with rfl | mem
        · exact ⟨service.memory.etagSeq, le_refl _, etag, fun _ => current⟩
        · exact versioned.published published mem
      · intro first mem second mem' sameKind sameEtag
        rcases List.mem_cons.mp mem with rfl | mem <;> rcases List.mem_cons.mp mem' with rfl | mem'
        · rfl
        · exact (agrees second mem' sameKind.symm sameEtag.symm).symm
        · exact agrees first mem sameKind sameEtag
        · exact versioned.coherent first mem second mem' sameKind sameEtag
    · exact ⟨fewer, versioned.published, versioned.coherent⟩

theorem Versioned.step (versioned : Versioned service) (quiet : Quiet service event) :
    Versioned (serviceStep signer service event) := by
  unfold serviceStep
  split
  · rename_i saved
    have same : service.path = .whole service.memory := quiet
    unfold Service.restart
    rw [same]
    dsimp only [Content.load]
    split <;> exact versioned.of_same rfl (fun _ mem => nomatch mem) rfl
  split
  · split
    · rename_i request now _ _
      split
      · rename_i change accepted
        have room := quiet (by rw [accepted]; rfl)
        exact versioned.mutate change room.1 room.2
      · exact versioned
    · unfold Service.lock
      split <;> exact versioned.of_same rfl (fun _ mem => mem) rfl
    · obtain ⟨memory, reading, published⟩ := persist_same service _ _
      exact versioned.of_same memory (fun _ mem => reading ▸ mem) published
    · refine ⟨?_, versioned.published, versioned.coherent⟩
      intro reading mem
      rcases List.mem_append.mp mem with mem | mem
      · exact versioned.reading reading mem
      · rw [List.mem_singleton.mp mem]
        rfl
    · exact versioned.publish signer _ _
    · exact versioned
  · exact versioned

def Snapshot.Filed (snapshot : Snapshot) : Prop :=
  ∀ kind key entry, (snapshot.list kind).get? key = some entry → entry.target = ⟨kind, key⟩

theorem Snapshot.Filed.apply (filed : snapshot.Filed) (change : Change) :
    (snapshot.apply change).Filed := by
  intro kind key entry found
  have decided := entry_apply snapshot change ⟨kind, key⟩
  unfold Snapshot.entry at decided
  rw [decided] at found
  split at found
  · rename_i own
    cases change with
    | deny new =>
      cases found
      exact own.symm
    | revoke target => cases found
  · exact filed kind key entry found

theorem shown_of_entry (filed : snapshot.Filed) {change : Change} (kind : EntryKind)
    (stands : snapshot.entry change.target = change.leaves) :
    change.Shown kind (snapshot.denylistFor kind) := by
  rintro rfl
  split
  · rename_i entry leaves
    rw [leaves] at stands
    exact List.mem_map.mpr ⟨_, SortedMap.get?_eq_some.mp stands, rfl⟩
  · rename_i leaves
    rw [leaves] at stands
    intro entry mem same
    obtain ⟨⟨key, value⟩, listed, rfl⟩ := List.mem_map.mp mem
    have found := SortedMap.get?_eq_some.mpr listed
    have own := filed _ _ _ found
    have key_eq : change.target.value = key := by
      rw [← same, own]
    unfold Snapshot.entry at stands
    rw [key_eq, found] at stands
    cases stands

def Mutation.Held (log : List Mutation) (snapshot : Snapshot) (mutation : Mutation) : Prop :=
  ∃ later ∈ log, mutation.serial ≤ later.serial ∧
    later.change.target = mutation.change.target ∧
    snapshot.entry later.change.target = later.change.leaves

theorem Mutation.Held.grow {mutation : Mutation}
    (held : mutation.Held log snapshot) (new : Mutation) : mutation.Held (new :: log) snapshot := by
  obtain ⟨later, mem, rest⟩ := held
  exact ⟨later, List.mem_cons_of_mem _ mem, rest⟩

theorem Mutation.Reflected.grow {mutation : Mutation}
    (reflected : mutation.Reflected log made kind entries) (new : Mutation) :
    mutation.Reflected (new :: log) made kind entries := by
  obtain ⟨later, mem, rest⟩ := reflected
  exact ⟨later, List.mem_cons_of_mem _ mem, rest⟩

/-- The one save under way has the bytes of what is in memory, and writes them to the temporary
file. -/
structure Save.Sound (memory : Snapshot) (tmp : Option Content) (log : List Mutation)
    (save : Save) : Prop where
  bytes : save.bytes = memory
  held : save.mutation.Held log memory
  created : ∀ file, save.phase = .created file → file = .tmp
  written : save.phase = .written → tmp = some (.whole memory)

/-- What memory and file hold of the changes, and what readers saw of them. -/
structure Kept (service : Service) : Prop where
  serials : ∀ mutation ∈ service.log, mutation.serial < service.log.length
  memoryFiled : service.memory.Filed
  saved : ∃ disk, service.path = .whole disk ∧ disk.Filed ∧
    ∀ mutation ∈ service.answered, mutation.Held service.log disk
  saves : service.saves = [] ∨ ∃ save, service.saves = [save] ∧
    save.Sound service.memory service.tmp service.log
  saving : ∀ mutation ∈ service.saving, mutation.Held service.log service.memory
  answered : ∀ mutation ∈ service.answered, mutation.Held service.log service.memory
  reading : ∀ reading ∈ service.reading, ∀ mutation ∈ reading.known,
    mutation.Reflected service.log reading.made reading.kind reading.entries
  reflecting : service.Reflecting

theorem filed_default : Snapshot.default.Filed := by
  intro kind key entry found
  cases kind <;> cases found

/-- After any admin requests an entry is what the last change of its target has left. -/
theorem last_change_stands (changes : List Change) (target : TargetIdentity) :
    (run Snapshot.apply .default changes).entry target =
      (changes.filter (·.target = target)).getLast?.bind Change.leaves := by
  induction changes using List.reverseRecOn with
  | nil =>
    obtain ⟨kind, value⟩ := target
    cases kind <;> rfl
  | append_singleton changes change ih =>
    rw [run_append, run_cons, run_nil, entry_apply, ih, List.filter_append]
    by_cases own : target = change.target
    · simp [own]
    · simp [own, Ne.symm own]

theorem Kept.fresh : Kept .fresh where
  serials := List.forall_mem_nil _
  memoryFiled := filed_default
  saved := ⟨.default, rfl, filed_default, List.forall_mem_nil _⟩
  saves := .inl rfl
  saving := List.forall_mem_nil _
  answered := List.forall_mem_nil _
  reading := List.forall_mem_nil _
  reflecting := List.forall_mem_nil _

section
variable (kept : Kept service)
include kept

theorem Kept.mutate (change : Change) :
    Kept (service.mutate change) := by
  unfold Service.mutate
  split
  · exact kept
  rename_i idle
  have still : ∀ mutation : Mutation, mutation.Held service.log service.memory →
      mutation.Held (⟨service.log.length, change⟩ :: service.log)
        (service.memory.apply change) := by
    rintro mutation ⟨later, mem, after, same, stands⟩
    by_cases own : later.change.target = change.target
    · refine ⟨_, List.mem_cons_self, ?_, own.symm.trans same, ?_⟩
      · exact after.trans (kept.serials later mem).le
      · rw [entry_apply, if_pos rfl]
    · refine ⟨later, List.mem_cons_of_mem _ mem, after, same, ?_⟩
      rw [entry_apply, if_neg own]
      exact stands
  refine ⟨?_, kept.memoryFiled.apply change, ?_, .inl (not_not.mp idle), ?_, ?_, ?_, ?_⟩
  · intro mutation mem
    rcases List.mem_cons.mp mem with rfl | mem
    · exact Nat.lt_succ_self _
    · exact (kept.serials mutation mem).trans (Nat.lt_succ_self _)
  · obtain ⟨disk, path, filed, saved⟩ := kept.saved
    exact ⟨disk, path, filed, fun mutation mem => (saved mutation mem).grow _⟩
  · intro mutation mem
    rcases List.mem_append.mp mem with mem | mem
    · exact still mutation (kept.saving mutation mem)
    · rw [List.mem_singleton.mp mem]
      refine ⟨_, List.mem_cons_self, le_refl _, rfl, ?_⟩
      rw [entry_apply, if_pos rfl]
  · intro mutation mem
    exact still mutation (kept.answered mutation mem)
  · intro reading mem mutation known
    exact (kept.reading reading mem mutation known).grow _
  · intro published mem mutation known
    exact (kept.reflecting published mem mutation known).grow _

theorem Kept.lock (index : Nat) (apart : service.saves = []) : Kept (service.lock index) := by
  unfold Service.lock
  split
  · exact kept
  · rename_i mutation found
    refine { kept with
      saves := .inr ⟨⟨mutation, service.memory, .locked⟩, by simp [apart], ?_⟩
      saving := fun other mem => kept.saving other (List.mem_of_mem_eraseIdx mem) }
    exact ⟨rfl, kept.saving mutation (List.mem_of_getElem? found), nofun, nofun⟩

theorem Kept.persist (index : Nat) (done : Bool) : Kept (service.persist index done) := by
  unfold Service.persist
  cases found : service.saves[index]? with
  | none => exact kept
  | some save =>
    rcases kept.saves with none | ⟨only, alone, sound⟩
    · rw [none] at found
      cases found
    rw [alone] at found ⊢
    obtain ⟨rfl, rfl⟩ : index = 0 ∧ only = save := by
      cases index with
      | zero => exact ⟨rfl, Option.some.inj found⟩
      | succ index => cases found
    obtain ⟨mutation, bytes, phase⟩ := only
    have failed (tmp : Option Content) : Kept { service with tmp := tmp, saves := [] } :=
      { kept with saves := .inl rfl }
    cases phase with
    | locked =>
      cases done with
      | false => exact failed _
      | true => exact { kept with saves := .inr ⟨_, rfl, sound.bytes, sound.held, by simp, nofun⟩ }
    | created file =>
      cases sound.created file rfl
      cases done with
      | false => exact failed _
      | true =>
        refine { kept with saves := .inr ⟨_, rfl, sound.bytes, sound.held, nofun, fun _ => ?_⟩ }
        exact congrArg (some ∘ Content.whole) sound.bytes
    | written =>
      cases done with
      | false => exact failed _
      | true =>
        have all : ∀ other ∈ mutation :: service.answered,
            other.Held service.log service.memory := by
          intro other mem
          rcases List.mem_cons.mp mem with rfl | mem
          · exact sound.held
          · exact kept.answered other mem
        dsimp only
        rw [sound.written rfl]
        exact { kept with
          saves := .inl rfl
          saved := ⟨service.memory, rfl, kept.memoryFiled, all⟩
          answered := all }

theorem Kept.read (kind : EntryKind) :
    Kept (service.read kind) := by
  refine { kept with reading := ?_ }
  intro reading mem mutation known
  rcases List.mem_append.mp mem with mem | mem
  · exact kept.reading reading mem mutation known
  · rw [List.mem_singleton.mp mem] at known ⊢
    obtain ⟨later, mem, after, same, stands⟩ := kept.answered mutation known
    exact ⟨later, mem, after, kept.serials later mem, same,
      shown_of_entry kept.memoryFiled kind stands⟩

theorem Kept.publish (signer : IssuerSigner) (index now : Nat) :
    Kept (service.publish signer index now) := by
  have fewer : ∀ reading ∈ service.reading.eraseIdx index, ∀ mutation ∈ reading.known,
      mutation.Reflected service.log reading.made reading.kind reading.entries := by
    intro reading mem
    exact kept.reading reading (List.mem_of_mem_eraseIdx mem)
  unfold Service.publish
  split
  · exact kept
  · rename_i reading found
    split
    · rename_i response signed
      obtain ⟨kind, shown, _⟩ := signedDenylist_ok signed
      refine { kept with reading := fewer, reflecting := ?_ }
      intro published mem mutation known
      rcases List.mem_cons.mp mem with rfl | mem
      · rw [kind, shown]
        exact kept.reading reading (List.mem_of_getElem? found) mutation known
      · exact kept.reflecting published mem mutation known
    · exact { kept with reading := fewer }

theorem Kept.restart (saved : Bool) : Kept (service.restart saved) := by
  obtain ⟨disk, path, filed, answered⟩ := kept.saved
  unfold Service.restart
  rw [path]
  dsimp only [Content.load]
  split
  · exact ⟨kept.serials, filed, ⟨disk, rfl, filed, answered⟩, .inl rfl, List.forall_mem_nil _,
      answered, List.forall_mem_nil _, kept.reflecting⟩
  · exact { kept with
      saved := ⟨disk, rfl, filed, answered⟩
      saves := .inl rfl
      saving := List.forall_mem_nil _
      reading := List.forall_mem_nil _ }

theorem Kept.step (apart : Apart service event) :
    Kept (serviceStep signer service event) := by
  unfold serviceStep
  split
  · exact kept.restart _
  split
  · split
    · split
      · exact kept.mutate _
      · exact kept
    · exact kept.lock _ apart
    · exact kept.persist _ _
    · exact kept.read _
    · exact kept.publish signer _ _
    · exact kept
  · exact kept

end

/-- While every change is made between requests and every restart finds it saved, responses of one
version agree. While no two saves overlap, every response reflects the changes that were answered
with success before its request. -/
theorem responses_coherent_of_quiet (signer : IssuerSigner) (events : List ServiceEvent) :
    (Meets (serviceStep signer) Quiet .fresh events →
      (run (serviceStep signer) .fresh events).Coherent) ∧
    (Meets (serviceStep signer) Apart .fresh events →
      (run (serviceStep signer) .fresh events).Reflecting) := by
  constructor
  · intro quiet
    have versions : ∀ service event, Versioned service → Quiet service event →
        Versioned (serviceStep signer service event) := by
      intro service event
      exact Versioned.step
    exact (run_invariant Versioned versions events _ Versioned.fresh quiet).coherent
  · intro apart
    have keeps : ∀ service event, Kept service → Apart service event →
        Kept (serviceStep signer service event) := by
      intro service event kept apart
      exact kept.step apart
    exact (run_invariant Kept keeps events _ Kept.fresh apart).reflecting

def exampleSigner : IssuerSigner := ⟨exampleScheme, [9], "issuer"⟩

def exampleDeny (value : String) : ServiceEvent := .admin (.deny .relayUrl value .spam) 0

def saveAlone : List ServiceEvent :=
  [.lock 0, .persist 0 true, .persist 0 true, .persist 0 true]

def publishes (now : Nat) : List ServiceEvent := [.read .relayUrl, .publish 0 now]

theorem quiet_requests_coherent :
    let events := exampleDeny "wss://a" :: saveAlone ++ publishes 1 ++ [.restart true] ++
      exampleDeny "wss://b" :: saveAlone ++ publishes 2
    let final := run (serviceStep exampleSigner) .fresh events
    final.published.map (·.response.entries.length) = [2, 1] ∧ final.Coherent ∧
      final.Reflecting := by
  intro events final
  have quiet : Meets (serviceStep exampleSigner) Quiet .fresh events := by
    decide +kernel
  have apart : Meets (serviceStep exampleSigner) Apart .fresh events := by
    decide +kernel
  obtain ⟨coherent, reflecting⟩ := responses_coherent_of_quiet exampleSigner events
  exact ⟨by decide +kernel, coherent quiet, reflecting apart⟩

/-- The second save creates the temporary file anew before the first renames it. -/
def overlappingSaves : List ServiceEvent :=
  [exampleDeny "wss://a", exampleDeny "wss://b", .lock 0, .lock 0, .persist 0 true,
    .persist 0 true, .persist 1 true, .persist 0 true]

/-- A change between the two reads of a request gives its old entries the new version. So does a
restart after a failed save: the version of the lost change is used again. And of two saves that
overlap the first is answered with success and leaves an empty file: after a restart the list is
empty. -/
theorem split_read_incoherent :
    ¬ (run (serviceStep exampleSigner) .fresh
      ([.read .relayUrl, exampleDeny "wss://a"] ++ saveAlone ++ .publish 0 1 ::
        publishes 2)).Coherent ∧
    ¬ (run (serviceStep exampleSigner) .fresh
      ([exampleDeny "wss://a", .lock 0, .persist 0 false] ++ publishes 1 ++ .restart true ::
        exampleDeny "wss://b" :: saveAlone ++ publishes 2)).Coherent ∧
    ¬ (run (serviceStep exampleSigner) .fresh
      (overlappingSaves ++ .restart true :: publishes 1)).Reflecting := by
  decide +kernel

end Fetchit.Trust
