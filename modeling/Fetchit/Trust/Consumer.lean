import Fetchit.Lib.Run
import Fetchit.Trust.Index
import Fetchit.Trust.Signing

/-! The denylist consumer: refreshes over the network, the cache files that survive a restart,
and the index that answers lookups. -/
namespace Fetchit.Trust
open Lib Lib.Run Lib.Outcome

inductive TrustError where
  | http (reason : String)
  | decode (reason : String)
  | badSignature (reason : String)
  | io (reason : String)
  deriving DecidableEq

def allKinds : List EntryKind := [.xorName, .agentId, .relayUrl, .actorUrl]

theorem mem_allKinds (kind : EntryKind) : kind ∈ allKinds := by
  cases kind <;> decide

def kindQueryStr : EntryKind → String
  | .xorName => "xor_name"
  | .agentId => "agent_id"
  | .relayUrl => "relay_url"
  | .actorUrl => "actor_url"

def kindName : EntryKind → String
  | .xorName => "XorName"
  | .agentId => "AgentId"
  | .relayUrl => "RelayUrl"
  | .actorUrl => "ActorUrl"

/-- `caches` tells whether a cache directory is configured. -/
structure ConsumerConfig where
  scheme : IssuerScheme
  decode : Bytes → Except String DenylistResponse
  issuerPublicKey : Bytes
  fetchUrlBase : String
  caches : Bool

/-- `inForce` records for each kind the response that the index reflects. -/
structure ConsumerState where
  indexes : DenylistIndexes
  files : EntryKind → Option Bytes
  sent : List Delta
  inForce : EntryKind → Option DenylistResponse

def ConsumerState.boot (files : EntryKind → Option Bytes) : ConsumerState :=
  ⟨.empty, files, [], fun _ => none⟩

def DenylistResponse.values (response : DenylistResponse) : List String :=
  response.entries.map fun entry => entry.target.value

section
variable (config : ConsumerConfig)

def accept (kind : EntryKind) (bytes : Bytes) : Except TrustError DenylistResponse := do
  let response ← (config.decode bytes).mapError .decode
  require (response.kind = kind) (.decode ("response kind " ++ kindName response.kind ++
    " does not match requested " ++ kindName kind))
  (verifySignature config.scheme response config.issuerPublicKey).mapError .badSignature
  .ok response

def denylistUrl (kind : EntryKind) : String :=
  config.fetchUrlBase ++ "/denylist?kind=" ++ kindQueryStr kind

def fetch (client : String → Except TrustError Bytes) (kind : EntryKind) :
    Except TrustError (Bytes × DenylistResponse) := do
  let bytes ← client (denylistUrl config kind)
  let response ← accept config kind bytes
  .ok (bytes, response)

def ConsumerState.swap (state : ConsumerState) (kind : EntryKind) (response : DenylistResponse) :
    ConsumerState :=
  { state with
    indexes := (state.indexes.replace kind response.values).2
    inForce := Function.update state.inForce kind (some response) }

def ConsumerState.writeKind (state : ConsumerState) (kind : EntryKind) (bytes : Bytes) :
    ConsumerState :=
  { state with files := Function.update state.files kind (some bytes) }

def ConsumerState.notify (state : ConsumerState) (delta : Delta) : ConsumerState :=
  if delta.added ≠ ∅ ∨ delta.removed ≠ ∅ then { state with sent := state.sent ++ [delta] }
  else state

/-- `written` tells whether the cache write succeeds; a failed one is only logged. -/
def refreshOne (client : String → Except TrustError Bytes) (written : EntryKind → Bool)
    (state : ConsumerState) (kind : EntryKind) : Except TrustError Unit × ConsumerState :=
  match fetch config client kind with
  | .error error => (.error error, state)
  | .ok (bytes, response) =>
    let swapped := state.swap kind response
    let saved := if config.caches && written kind then swapped.writeKind kind bytes else swapped
    (.ok (), saved.notify (state.indexes.replace kind response.values).1)

structure Progress where
  lastErr : Option TrustError
  anyOk : Bool
  state : ConsumerState

def Progress.next (client : String → Except TrustError Bytes) (written : EntryKind → Bool)
    (progress : Progress) (kind : EntryKind) : Progress :=
  match refreshOne config client written progress.state kind with
  | (.ok (), state) => { progress with anyOk := true, state := state }
  | (.error error, state) => { progress with lastErr := some error, state := state }

def refresh (client : String → Except TrustError Bytes) (written : EntryKind → Bool)
    (state : ConsumerState) : Except TrustError Unit × ConsumerState :=
  let progress := allKinds.foldl (Progress.next config client written) ⟨none, false, state⟩
  (if progress.anyOk then .ok ()
    else .error (progress.lastErr.getD (.http "no kinds refreshed")), progress.state)

def loadOne (readable : EntryKind → Bool) (state : ConsumerState) (kind : EntryKind) :
    ConsumerState :=
  match (if readable kind then state.files kind else none) with
  | none => state
  | some bytes =>
    match accept config kind bytes with
    | .ok response => state.swap kind response
    | .error _ => state

def loadCacheBlocking (readable : EntryKind → Bool) (state : ConsumerState) : ConsumerState :=
  if config.caches then allKinds.foldl (loadOne config readable) state else state

inductive ConsumerEvent where
  | refresh (client : String → Except TrustError Bytes) (written : EntryKind → Bool)
  | restart (readable : EntryKind → Bool)

def consumerStep (state : ConsumerState) : ConsumerEvent → ConsumerState
  | .refresh client written => (refresh config client written state).2
  | .restart readable => loadCacheBlocking config readable (.boot state.files)

end

structure KindView where
  indexed : Finset String
  file : Option Bytes
  inForce : Option DenylistResponse

def ConsumerState.view (state : ConsumerState) (kind : EntryKind) : KindView :=
  ⟨state.indexes.bucket kind, state.files kind, state.inForce kind⟩

def KindView.swap (view : KindView) (response : DenylistResponse) : KindView :=
  { view with indexed := lowered response.values, inForce := some response }

variable {config : ConsumerConfig}

section
variable (state : ConsumerState) (kind other : EntryKind)

theorem view_swap (response : DenylistResponse) :
    (state.swap kind response).view other =
      if other = kind then (state.view other).swap response else state.view other := by
  by_cases same : other = kind
  · subst same
    simp [ConsumerState.view, ConsumerState.swap, DenylistIndexes.replace, KindView.swap]
  · simp [ConsumerState.view, ConsumerState.swap, DenylistIndexes.replace, same]

theorem view_writeKind (bytes : Bytes) :
    (state.writeKind kind bytes).view other =
      if other = kind then { state.view other with file := some bytes } else state.view other := by
  by_cases same : other = kind
  · subst same
    simp [ConsumerState.view, ConsumerState.writeKind]
  · simp [ConsumerState.view, ConsumerState.writeKind, same]

end

@[simp] theorem view_notify (state : ConsumerState) (delta : Delta) (kind : EntryKind) :
    (state.notify delta).view kind = state.view kind := by
  unfold ConsumerState.notify
  split <;> rfl

section
variable (config : ConsumerConfig)

def KindView.refreshed (client : String → Except TrustError Bytes) (written : EntryKind → Bool)
    (kind : EntryKind) (view : KindView) : KindView :=
  match fetch config client kind with
  | .error _ => view
  | .ok (bytes, response) =>
    if config.caches && written kind then { view.swap response with file := some bytes }
    else view.swap response

def KindView.loaded (readable : EntryKind → Bool) (kind : EntryKind) (view : KindView) :
    KindView :=
  match (if readable kind then view.file else none) with
  | none => view
  | some bytes =>
    match accept config kind bytes with
    | .ok response => view.swap response
    | .error _ => view

end

section
variable (client : String → Except TrustError Bytes) (written : EntryKind → Bool)
  (state : ConsumerState)

theorem view_refreshOne (kind other : EntryKind) :
    (refreshOne config client written state kind).2.view other =
      if other = kind then (state.view other).refreshed config client written other
      else state.view other := by
  unfold refreshOne KindView.refreshed
  by_cases same : other = kind
  · subst same
    rw [if_pos rfl]
    cases fetch config client other with
    | error error => rfl
    | ok found =>
      rw [view_notify]
      split
      · rw [view_writeKind, if_pos rfl, view_swap, if_pos rfl]
      · rw [view_swap, if_pos rfl]
  · rw [if_neg same]
    split
    · rfl
    · rw [view_notify]
      split
      · rw [view_writeKind, if_neg same, view_swap, if_neg same]
      · rw [view_swap, if_neg same]

theorem view_refresh (kind : EntryKind) :
    (refresh config client written state).2.view kind =
      (state.view kind).refreshed config client written kind := by
  have own : ∀ (progress : Progress) (kind other : EntryKind),
      (progress.next config client written kind).state.view other =
        if other = kind then (progress.state.view other).refreshed config client written other
        else progress.state.view other := by
    intro progress kind other
    rw [← view_refreshOne]
    unfold Progress.next
    split <;> rename_i heq <;> rw [heq]
  exact view_run (fun (progress : Progress) kind => progress.state.view kind)
    (KindView.refreshed config client written) own (by decide) (mem_allKinds kind)
    ⟨none, false, state⟩

end

section
variable (readable : EntryKind → Bool) (state : ConsumerState)

theorem view_loadOne (kind other : EntryKind) :
    (loadOne config readable state kind).view other =
      if other = kind then (state.view other).loaded config readable other
      else state.view other := by
  unfold loadOne KindView.loaded
  by_cases same : other = kind
  · subst same
    simp only [ConsumerState.view]
    split
    · rfl
    · rename_i bytes _
      cases accept config other bytes with
      | error error => rfl
      | ok response =>
        have swapped := view_swap state other other response
        rwa [if_pos rfl] at swapped
  · rw [if_neg same]
    split
    · rfl
    · split
      · rw [view_swap, if_neg same]
      · rfl

theorem view_loadCache (kind : EntryKind)
    (caches : config.caches = true) :
    (loadCacheBlocking config readable state).view kind =
      (state.view kind).loaded config readable kind := by
  unfold loadCacheBlocking
  rw [if_pos caches]
  exact view_run ConsumerState.view _ (view_loadOne readable) (by decide) (mem_allKinds kind) state

end

/-- The index shows the response in force, and its file holds it. -/
structure KindView.Settled (config : ConsumerConfig) (kind : EntryKind) (view : KindView) :
    Prop where
  indexed : ∀ response, view.inForce = some response → view.indexed = lowered response.values
  saved : ∀ response, view.inForce = some response →
    ∃ bytes, view.file = some bytes ∧ accept config kind bytes = .ok response

def KindView.NotOlder (before after : KindView) : Prop :=
  ∀ old, before.inForce = some old →
    ∃ new, after.inForce = some new ∧ old.generatedAtMs ≤ new.generatedAtMs

theorem KindView.NotOlder.trans {first second third : KindView} (h : first.NotOlder second)
    (h' : second.NotOlder third) : first.NotOlder third := by
  intro old held
  obtain ⟨middle, held', le⟩ := h old held
  obtain ⟨new, held'', le'⟩ := h' middle held'
  exact ⟨new, held'', le.trans le'⟩

theorem KindView.NotOlder.refl (view : KindView) : view.NotOlder view := by
  intro old held
  exact ⟨old, held, le_refl _⟩

section
variable (config : ConsumerConfig)

/-- There is a cache; a refresh can write it, and a restart can read it. -/
def CacheKept : ConsumerEvent → Prop
  | .refresh _ written => config.caches = true ∧ ∀ kind, written kind = true
  | .restart readable => config.caches = true ∧ ∀ kind, readable kind = true

/-- The bytes are a list of the kind that the issuer has signed. -/
def Genuine (issued : DenylistToSign → Prop) (kind : EntryKind) (bytes : Bytes)
    (response : DenylistResponse) : Prop :=
  config.decode bytes = .ok response ∧ response.kind = kind ∧ issued response.toSign

/-- In a refresh the network serves a list that the issuer has signed. -/
def Serves (issued : DenylistToSign → Prop) (kind : EntryKind) (response : DenylistResponse) :
    ConsumerEvent → Prop
  | .refresh client _ => ∃ bytes, client (denylistUrl config kind) = .ok bytes ∧
      Genuine config issued kind bytes response
  | .restart _ => False

/-- The signed list is no newer than those which the network serves. -/
def Precedes (issued : DenylistToSign → Prop) (kind : EntryKind) (old : DenylistResponse)
    (events : List ConsumerEvent) : Prop :=
  ∀ event ∈ events, ∀ new, Serves config issued kind new event →
    old.generatedAtMs ≤ new.generatedAtMs

/-- The lists of the issuer come in the order of their times: the one in the cache file, and then
those which the network serves. What the issuer has not signed comes as it may. -/
def InOrder (issued : DenylistToSign → Prop) (kind : EntryKind) (file : Option Bytes)
    (events : List ConsumerEvent) : Prop :=
  (∀ bytes ∈ file, ∀ old, Genuine config issued kind bytes old →
    Precedes config issued kind old events) ∧
  events.Pairwise fun first second => ∀ old, Serves config issued kind old first →
    Precedes config issued kind old [second]

end

variable {kind : EntryKind}

theorem fetch_accepted (h : fetch config client kind = .ok (bytes, response)) :
    client (denylistUrl config kind) = .ok bytes ∧ accept config kind bytes = .ok response := by
  simp only [fetch, bind_eq_ok] at h
  obtain ⟨body, served, found, accepted, h⟩ := h
  cases h
  exact ⟨served, accepted⟩

theorem KindView.file_loaded (readable : EntryKind → Bool) (view : KindView) :
    (view.loaded config readable kind).file = view.file := by
  unfold KindView.loaded
  split
  · rfl
  · split <;> rfl

theorem KindView.Settled.of_none {view : KindView} (nothing : view.inForce = none) :
    view.Settled config kind := by
  constructor
  all_goals
    intro response held
    rw [nothing] at held
    cases held

theorem KindView.settled_swap {view : KindView}
    (there : view.file = some bytes) (accepted : accept config kind bytes = .ok response) :
    (view.swap response).Settled config kind := by
  constructor
  · intro other held
    cases held
    rfl
  · intro other held
    cases held
    exact ⟨bytes, there, accepted⟩

theorem KindView.Settled.reload {view booted : KindView}
    (settled : view.Settled config kind) (file : booted.file = view.file)
    (nothing : booted.inForce = none) (reads : readable kind = true) :
    (booted.loaded config readable kind).Settled config kind ∧
      view.NotOlder (booted.loaded config readable kind) := by
  unfold KindView.loaded
  rw [if_pos reads]
  split
  · rename_i missing
    refine ⟨.of_none nothing, ?_⟩
    intro old held
    obtain ⟨bytes, there, _⟩ := settled.saved old held
    rw [← file, missing] at there
    cases there
  · rename_i bytes there
    have same : ∀ old, view.inForce = some old → accept config kind bytes = .ok old := by
      intro old held
      obtain ⟨saved, there', accepted⟩ := settled.saved old held
      rw [← file, there] at there'
      cases there'
      exact accepted
    cases accepted : accept config kind bytes with
    | error error =>
      refine ⟨.of_none nothing, ?_⟩
      intro old held
      have contrary := same old held
      rw [accepted] at contrary
      cases contrary
    | ok response =>
      refine ⟨settled_swap there accepted, ?_⟩
      intro old held
      have agreed := same old held
      rw [accepted] at agreed
      cases agreed
      exact ⟨response, rfl, le_refl _⟩

section
variable {issued : DenylistToSign → Prop} (unforgeable : ∀ response,
  verifySignature config.scheme response config.issuerPublicKey = .ok () →
    issued response.toSign)
include unforgeable

theorem genuine_of_accept (accepted : accept config kind bytes = .ok response) :
    Genuine config issued kind bytes response := by
  simp only [accept, bind_eq_ok, mapError_eq_ok, require_eq_ok, decide_eq_true_eq] at accepted
  obtain ⟨found, decoded, _, same, _, verified, done⟩ := accepted
  cases done
  exact ⟨decoded, same, unforgeable _ verified⟩

theorem settled_step (kept : CacheKept config event)
    (settled : (state.view kind).Settled config kind)
    (ordered : InOrder config issued kind (state.files kind) (event :: events)) :
    let after := consumerStep config state event
    (after.view kind).Settled config kind ∧ (state.view kind).NotOlder (after.view kind) ∧
      InOrder config issued kind (after.files kind) events := by
  have rest : InOrder config issued kind (state.files kind) events :=
    ⟨fun bytes mem old genuine later listed =>
      ordered.1 bytes mem old genuine later (List.mem_cons_of_mem _ listed),
      (List.pairwise_cons.mp ordered.2).2⟩
  cases event with
  | refresh client written =>
    obtain ⟨caches, written⟩ := kept
    intro after
    have view : after.view kind = (state.view kind).refreshed config client _ kind :=
      view_refresh client _ state kind
    have file : after.files kind = (after.view kind).file := rfl
    rw [file, view]
    unfold KindView.refreshed
    cases fetched : fetch config client kind with
    | error error => exact ⟨settled, .refl _, rest⟩
    | ok found =>
      obtain ⟨bytes, response⟩ := found
      obtain ⟨served, accepted⟩ := fetch_accepted fetched
      have genuine := genuine_of_accept unforgeable accepted
      have saved : { state.view kind with file := some bytes }.file = some bytes := rfl
      simp only [caches, written, Bool.and_self, if_true]
      refine ⟨KindView.settled_swap saved accepted, ?_, ?_, rest.2⟩
      · intro old held
        obtain ⟨filed, there, accepted'⟩ := settled.saved old held
        exact ⟨response, rfl, ordered.1 filed there old (genuine_of_accept unforgeable accepted')
          _ List.mem_cons_self response ⟨bytes, served, genuine⟩⟩
      · rintro _ ⟨⟩ old genuine' later listed
        cases Except.ok.inj (genuine'.1.symm.trans genuine.1)
        exact (List.pairwise_cons.mp ordered.2).1 later listed response ⟨bytes, served, genuine⟩
          later (List.mem_singleton_self _)
  | restart readable =>
    obtain ⟨caches, readable⟩ := kept
    intro after
    have view : after.view kind =
        ((ConsumerState.boot state.files).view kind).loaded config _ kind :=
      view_loadCache _ _ kind caches
    have file : after.files kind = (after.view kind).file := rfl
    rw [file, view, KindView.file_loaded, ← and_assoc]
    exact ⟨settled.reload rfl rfl (readable kind), rest⟩

theorem settled_run (kind : EntryKind) (events later : List ConsumerEvent) :
    ∀ state, (∀ event ∈ events, CacheKept config event) → (state.view kind).Settled config kind →
      InOrder config issued kind (state.files kind) (events ++ later) →
      let final := run (consumerStep config) state events
      (final.view kind).Settled config kind ∧ (state.view kind).NotOlder (final.view kind) ∧
        InOrder config issued kind (final.files kind) later := by
  induction events with
  | nil =>
    intro state _ settled ordered
    exact ⟨settled, .refl _, ordered⟩
  | cons event events ih =>
    intro state kept settled ordered
    obtain ⟨next, notOlder, rest⟩ :=
      settled_step unforgeable (kept event List.mem_cons_self) settled ordered
    obtain ⟨last, notOlder', ordered'⟩ :=
      ih _ (fun event mem => kept event (List.mem_cons_of_mem _ mem)) next rest
    exact ⟨last, notOlder.trans notOlder', ordered'⟩

end

/-- While the cache is kept and the lists that the issuer has signed are served in order, whatever
else is served, the list in force is never replaced by an older one, and every entry of it is
blocked. -/
theorem inForce_never_older (config : ConsumerConfig) (issued : DenylistToSign → Prop)
    (unforgeable : ∀ response,
      verifySignature config.scheme response config.issuerPublicKey = .ok () →
        issued response.toSign)
    (files : EntryKind → Option Bytes) (events later : List ConsumerEvent)
    (kept : ∀ event ∈ events ++ later, CacheKept config event) (kind : EntryKind)
    (ordered : InOrder config issued kind (files kind) (events ++ later)) (old : DenylistResponse)
    (held : (run (consumerStep config) (.boot files) events).inForce kind = some old) :
    ∃ new, (run (consumerStep config) (.boot files) (events ++ later)).inForce kind = some new ∧
      old.generatedAtMs ≤ new.generatedAtMs ∧
      ∀ entry ∈ new.entries, (run (consumerStep config) (.boot files)
        (events ++ later)).indexes.isBlocked kind entry.target.value = true := by
  obtain ⟨settled, _, ordered'⟩ := settled_run unforgeable kind events later (.boot files)
    (fun event mem => kept event (List.mem_append_left _ mem)) (.of_none rfl) ordered
  obtain ⟨last, notOlder, _⟩ := settled_run unforgeable kind later [] _
    (fun event mem => kept event (List.mem_append_right _ mem)) settled
    (by rwa [List.append_nil])
  rw [← run_append] at last notOlder
  obtain ⟨new, inForce, le⟩ := notOlder old held
  refine ⟨new, inForce, le, ?_⟩
  intro entry mem
  have indexed : (run (consumerStep config) (.boot files) (events ++ later)).indexes.bucket kind =
      lowered new.values := last.indexed new inForce
  have listed : Text.asciiLower entry.target.value ∈ lowered new.values := by
    unfold lowered DenylistResponse.values
    rw [List.mem_toFinset, List.map_map]
    exact List.mem_map.mpr ⟨entry, mem, rfl⟩
  unfold DenylistIndexes.isBlocked
  rw [decide_eq_true_eq, indexed]
  exact listed

/-! The issuer has signed a list of time 1 and one of time 2 that names an agent. -/

def listedScheme : IssuerScheme :=
  { exampleScheme with
    verify := fun publicKey message signature =>
      .ok (signature == publicKey ++ message && (message == [1] || message == [2])) }

def exampleDecode : Bytes → Except String DenylistResponse
  | [time] => .ok ⟨"e", time.toNat, .agentId,
      if time = 1 then [] else [⟨⟨.agentId, "aa"⟩, 0, .spam⟩], Text.hexEncode [9, time], "issuer"⟩
  | _ => .error "expected one byte"

def exampleConsumer : ConsumerConfig := ⟨listedScheme, exampleDecode, [9], "v1", true⟩

def exampleRefresh (time : UInt8) (written : Bool) : ConsumerEvent :=
  .refresh (fun url => if url = "v1/denylist?kind=agent_id" then .ok [time]
    else .error (.http "status 404")) fun _ => written

def issuedTimes (toSign : DenylistToSign) : Prop :=
  UInt8.ofNat toSign.generatedAtMs = 1 ∨ UInt8.ofNat toSign.generatedAtMs = 2

theorem issued_of_listedScheme (response : DenylistResponse)
    (verified : verifySignature exampleConsumer.scheme response exampleConsumer.issuerPublicKey =
      .ok ()) : issuedTimes response.toSign := by
  simp only [verifySignature, signingBytes, exampleConsumer, listedScheme, exampleScheme,
    bind_eq_ok, mapError_eq_ok, require_eq_ok] at verified
  obtain ⟨_, _, _, _, _, _, message, encoded, valid, checked, rfl⟩ := verified
  cases encoded
  simpa [issuedTimes, -List.cons_append] using (Bool.and_eq_true_iff.mp (Except.ok.inj checked)).2

theorem time_of_serves (serves : Serves exampleConsumer issuedTimes kind response
      (exampleRefresh time written)) :
    response.generatedAtMs = time.toNat ∧ (time = 1 ∨ time = 2) := by
  obtain ⟨bytes, served, decoded, _, issued⟩ := serves
  dsimp only at served
  split at served
  · cases served
    cases decoded
    simpa [issuedTimes, DenylistResponse.toSign] using issued
  · cases served

/-- A list of time 9 that the issuer has not signed does no harm. -/
theorem newer_list_in_force :
    let later := [exampleRefresh 9 true, .restart fun _ => true, exampleRefresh 2 true]
    let state := run (consumerStep exampleConsumer) (.boot fun _ => none)
      ([exampleRefresh 1 true] ++ later)
    ∃ new, state.inForce .agentId = some new ∧ 1 ≤ new.generatedAtMs ∧
      ∀ entry ∈ new.entries, state.indexes.isBlocked .agentId entry.target.value = true := by
  intro later state
  have kept : ∀ event ∈ [exampleRefresh 1 true] ++ later, CacheKept exampleConsumer event := by
    simp [later, CacheKept, exampleRefresh, exampleConsumer]
  have ordered : InOrder exampleConsumer issuedTimes .agentId none
      ([exampleRefresh 1 true] ++ later) := by
    refine ⟨nofun, ?_⟩
    simp only [later, List.cons_append, List.nil_append, List.pairwise_cons, List.mem_cons,
      List.not_mem_nil, or_false, forall_eq_or_imp, forall_eq, List.Pairwise.nil, false_imp_iff,
      implies_true, and_true]
    refine ⟨⟨?_, ?_, ?_⟩, ⟨?_, ?_⟩, ?_⟩
    all_goals
      intro old first event mem new second
      cases List.mem_singleton.mp mem
    · exact absurd (time_of_serves second).2 (by decide)
    · exact second.elim
    · rw [(time_of_serves first).1, (time_of_serves second).1]
      decide
    · exact second.elim
    · exact absurd (time_of_serves first).2 (by decide)
    · exact first.elim
  have held : (run (consumerStep exampleConsumer) (.boot fun _ => none)
      [exampleRefresh 1 true]).inForce .agentId =
        some ⟨"e", 1, .agentId, [], Text.hexEncode [9, 1], "issuer"⟩ := by
    decide +kernel
  exact inForce_never_older exampleConsumer issuedTimes issued_of_listedScheme (fun _ => none)
    [exampleRefresh 1 true] later kept .agentId ordered _ held

/-- A replayed list of time 1 replaces the list of time 2 and unblocks its entry; so does a
restart when the list of time 2 could not be saved. -/
theorem replayed_list_unblocks :
    let newer := run (consumerStep exampleConsumer) (.boot fun _ => none)
      [exampleRefresh 1 true, exampleRefresh 2 false]
    let replayed := consumerStep exampleConsumer newer (exampleRefresh 1 true)
    let restarted := consumerStep exampleConsumer newer (.restart fun _ => true)
    newer.indexes.isBlocked .agentId "aa" = true ∧
      (newer.inForce .agentId).map DenylistResponse.generatedAtMs = some 2 ∧
      (replayed.inForce .agentId).map DenylistResponse.generatedAtMs = some 1 ∧
      replayed.indexes.isBlocked .agentId "aa" = false ∧
      (restarted.inForce .agentId).map DenylistResponse.generatedAtMs = some 1 ∧
      restarted.indexes.isBlocked .agentId "aa" = false := by
  decide +kernel

end Fetchit.Trust
