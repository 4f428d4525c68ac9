import Fetchit.Vault.Rekey

/-! A switch of the vault that is cut short and run again. A file that was converted before is
skipped, as long as the second run has the keys of the first; but every run draws a new key. -/
namespace Fetchit.Vault
open Lib Lib.Outcome Lib.Pass Chat

section Files

variable {Actor : Type} (suite : Suite) (codec : ActorCodec Actor) (env : RekeyEnv)

/-- The files before and after every file operation of a switch. A file is replaced by a rename,
and the temporary file before it is not one that the switch lists. -/
def rekeyTrace (old : MasterKey) (new : Custody) (disk : Disk) : List Disk :=
  let conversations := listEncFiles env.root (·.inConversationsDir) disk
  thenTrace (trace (rekeyFcv1File suite env old new) disk conversations)
    (pass (rekeyFcv1File suite env old new) disk conversations) fun disk =>
      let actors := listEncFiles env.root (·.inFediDir) disk
      thenTrace (trace (rekeyActorFile suite codec env old new) disk actors)
        (rekeyFediDir suite codec env old new disk) fun disk =>
          if (disk.lookup .identity).isSome then
            [(rekeyFcv1File suite env old new disk .identity).2]
          else []

def openEither (old new : MasterKey) (path : VaultPath) (file : Option Bytes) :
    Except ChatError Bytes :=
  match openFile suite old path file with
  | .ok plaintext => .ok plaintext
  | .error _ => openFile suite new path file

end Files

section Resumption

variable {Actor : Type} {suite : Suite} {codec : ActorCodec Actor} {env again : RekeyEnv}
  {old : MasterKey} {new : Custody} {path : VaultPath} {before middle after : Option Bytes}

/-- What is sealed under one key does not open as something else under the other. -/
def Separates (suite : Suite) (new old : MasterKey) : Prop :=
  ∀ nonce plaintext aad ciphertext other,
    suite.aeadSeal new nonce plaintext aad = .ok ciphertext →
      suite.aeadOpen old nonce ciphertext aad = .ok other → other = plaintext

/-- Both the keys and those derived from them are told apart, and whether a plaintext can be sealed
does not depend on the nonce. -/
structure Sound (suite : Suite) (old new : MasterKey) : Prop where
  direct : Separates suite new old
  derived : Separates suite (suite.deriveFediVaultKey new) (suite.deriveFediVaultKey old)
  anyNonce : ∀ key nonce other plaintext aad ciphertext,
    suite.aeadSeal key nonce plaintext aad = .ok ciphertext →
      ∃ ciphertext, suite.aeadSeal key other plaintext aad = .ok ciphertext

variable {plaintext : Bytes}

section
variable (sound : Sound suite old new.master) (sealed : SealedAs suite new path plaintext after)
include sound sealed

theorem SealedAs.unique (opens : openFile suite old path after = .ok other) : other = plaintext := by
  obtain ⟨nonce, bytes, written, rfl⟩ := sealed
  unfold sealFile at written
  unfold openFile at opens
  cases family : path.family with
  | none =>
    rw [family] at written opens
    obtain ⟨ciphertext, sealed, read⟩ := openVault_written written
    exact sound.direct _ _ _ _ _ sealed ((read old).symm.trans opens)
  | some family =>
    rw [family] at written opens
    obtain ⟨ciphertext, sealed, read⟩ := openFedi_written written
    exact sound.derived _ _ _ _ _ sealed ((read old).symm.trans opens)

theorem SealedAs.anew (nonce : Nonce) :
    ∃ bytes, sealFile suite new path plaintext nonce = .ok bytes := by
  obtain ⟨first, bytes, written, _⟩ := sealed
  unfold sealFile at written ⊢
  cases family : path.family with
  | none =>
    rw [family] at written
    obtain ⟨ciphertext, sealed, _⟩ := openVault_written written
    obtain ⟨ciphertext, sealed⟩ := sound.anyNonce _ _ nonce _ _ _ sealed
    exact ⟨_, bind_eq_ok.mpr ⟨ciphertext, sealed, rfl⟩⟩
  | some family =>
    rw [family] at written
    obtain ⟨ciphertext, sealed, _⟩ := openFedi_written written
    obtain ⟨ciphertext, sealed⟩ := sound.anyNonce _ _ nonce _ _ _ sealed
    exact ⟨_, bind_eq_ok.mpr ⟨ciphertext, sealed, rfl⟩⟩

end

def Alike (suite : Suite) (new : Custody) (path : VaultPath) (one other : Option Bytes) : Prop :=
  other = one ∨
    ∃ plaintext, SealedAs suite new path plaintext one ∧ SealedAs suite new path plaintext other

theorem Resealed.alike (sound : Sound suite old new.master)
    (once : Resealed suite codec old new path before whole)
    (begun : middle = before ∨ Resealed suite codec old new path before middle)
    (rest : Resealed suite codec old new path middle after) : Alike suite new path whole after := by
  have fromStart (whole : Option Bytes) (once : Resealed suite codec old new path before whole)
      (after : Option Bytes) (rest : Resealed suite codec old new path before after) :
      Alike suite new path whole after := by
    cases once with
    | rewritten plaintext readable opens anew =>
      cases rest with
      | rewritten other readable' opens' anew' =>
        rw [opens] at opens'
        cases opens'
        exact .inr ⟨plaintext, anew, anew'⟩
      | migrated other readable' shut anew' => exact absurd opens (shut plaintext)
    | migrated plaintext readable shut anew =>
      cases rest with
      | rewritten other readable' opens' anew' => exact absurd opens' (shut other)
      | migrated => exact .inl rfl
  rcases begun with rfl | begun
  · exact fromStart whole once after rest
  · cases begun with
    | migrated => exact fromStart whole once after rest
    | rewritten plaintext readable opens anew =>
      cases once with
      | migrated other readable' shut anew' => exact absurd opens (shut plaintext)
      | rewritten other readable' opens' anew' =>
        rw [opens] at opens'
        cases opens'
        cases rest with
        | migrated => exact .inr ⟨plaintext, anew', anew⟩
        | rewritten other readable'' opens'' anew'' =>
          cases anew.unique sound opens''
          exact .inr ⟨plaintext, anew', anew''⟩

theorem Resealed.openEither (sound : Sound suite old new.master)
    (resealed : Resealed suite codec old new path before after)
    (opens : openEither suite old new.master path before = .ok plaintext) :
    openEither suite old new.master path after = .ok plaintext := by
  cases resealed with
  | migrated => exact opens
  | rewritten held readable opens' anew =>
    unfold Vault.openEither at opens ⊢
    rw [opens'] at opens
    cases opens
    cases reads : openFile suite old path after with
    | error error => exact anew.opens
    | ok other => rw [anew.unique sound reads]

theorem Resealed.present (resealed : Resealed suite codec old new path before after) :
    before.isSome = true ∧ after.isSome = true := by
  have opened {key : MasterKey} {file : Option Bytes} {plaintext : Bytes}
      (opens : openFile suite key path file = .ok plaintext) : file.isSome = true := by
    cases file with
    | none => exact (openFile_none _ _ _ _ opens).elim
    | some bytes => rfl
  cases resealed with
  | rewritten plaintext readable opens anew => exact ⟨opened opens, opened anew.opens⟩
  | migrated plaintext readable shut anew => exact ⟨opened anew, opened anew⟩

/-- A visit of the file succeeds. -/
structure Ready (suite : Suite) (codec : ActorCodec Actor) (again : RekeyEnv) (old : MasterKey)
    (new : Custody) (path : VaultPath) (file : Option Bytes) : Prop where
  seals : ∀ plaintext, openFile suite old path file = .ok plaintext →
    ∃ bytes, sealFile suite new path plaintext (again.nonce path) = .ok bytes
  skips : (∀ plaintext, openFile suite old path file ≠ .ok plaintext) →
    ∃ plaintext, openFile suite new.master path file = .ok plaintext ∧
      Readable codec path plaintext

section
variable (sound : Sound suite old new.master)
  (resealed : Resealed suite codec old new path before after)
include sound resealed

theorem Resealed.ready_before :
    Ready suite codec again old new path before := by
  cases resealed with
  | rewritten plaintext readable opens anew =>
    constructor
    · intro other opens'
      rw [opens] at opens'
      cases opens'
      exact anew.anew sound _
    · exact fun shut => absurd opens (shut plaintext)
  | migrated plaintext readable shut anew =>
    exact ⟨fun other opens => absurd opens (shut other), fun _ => ⟨plaintext, anew, readable⟩⟩

theorem Resealed.ready_after :
    Ready suite codec again old new path after := by
  cases resealed with
  | migrated plaintext readable shut anew =>
    exact (Resealed.migrated plaintext readable shut anew).ready_before sound
  | rewritten plaintext readable opens anew =>
    constructor
    · intro other opens'
      rw [anew.unique sound opens']
      exact anew.anew sound _
    · exact fun _ => ⟨plaintext, anew.opens, readable⟩

end

theorem Resealed.filed (sound : Sound suite old new.master)
    (filed : Filed suite codec old handle before)
    (resealed : Resealed suite codec old new (.actorIdentity handle) before after) :
    Filed suite codec old handle after := by
  cases resealed with
  | migrated => exact filed
  | rewritten plaintext readable opens anew =>
    intro other opens'
    rw [anew.unique sound opens']
    exact filed plaintext opens

theorem replaceFile_quiet (quiet : again.fault visited = none) :
    replaceFile again visited path disk (.ok bytes) = (.ok (), disk.insert path bytes) := by
  unfold replaceFile
  rw [quiet]

theorem rekeyFcv1File_succeeds (quiet : ∀ path, again.fault path = none)
    (chat : path.family = none) (ready : Ready suite codec again old new path (disk.lookup path)) :
    ∃ count after, rekeyFcv1File suite again old new disk path = (.ok count, after) := by
  unfold rekeyFcv1File
  cases opens : openFromPath suite old (disk.lookup path) with
  | ok plaintext =>
    obtain ⟨bytes, sealed⟩ := ready.seals plaintext ((openFile_chat chat ..).trans opens)
    rw [sealFile_chat chat] at sealed
    dsimp only
    rw [sealed, replaceFile_quiet (quiet path)]
    exact ⟨_, _, rfl⟩
  | error error =>
    obtain ⟨plaintext, anew, _⟩ := ready.skips fun plaintext opens' => by
      rw [openFile_chat chat, opens] at opens'
      cases opens'
    rw [openFile_chat chat] at anew
    rw [anew]
    exact ⟨_, _, rfl⟩

theorem rekeyActorFile_succeeds (quiet : ∀ path, again.fault path = none)
    (expected : ActorFile suite codec old path (disk.lookup path))
    (ready : Ready suite codec again old new path (disk.lookup path)) :
    ∃ count after, rekeyActorFile suite codec again old new disk path = (.ok count, after) := by
  obtain ⟨handle, rfl, present, filed⟩ := expected
  simp only [rekeyActorFile]
  cases loaded : loadActorIdentity suite codec old disk handle with
  | ok found =>
    obtain ⟨plaintext, actor, rfl, decoded, opens⟩ := opens_of_loadActorIdentity present loaded
    obtain ⟨_, decoded', own, encoded⟩ := filed plaintext opens
    rw [decoded] at decoded'
    cases decoded'
    obtain ⟨bytes, sealed⟩ := ready.seals plaintext opens
    have saved : saveActorIdentity suite codec again (.actorIdentity handle) disk actor new.master =
        (.ok (), disk.insert (.actorIdentity handle) bytes) := by
      unfold saveActorIdentity
      rw [encoded, own]
      exact (congrArg _ sealed).trans (replaceFile_quiet (quiet _))
    dsimp only
    rw [saved]
    exact ⟨_, _, rfl⟩
  | error error =>
    obtain ⟨plaintext, anew, readable⟩ := ready.skips (filed.shut present loaded)
    obtain ⟨actor, decoded⟩ := readable rfl
    have reads : loadActorIdentity suite codec new.master disk handle = .ok (some actor) := by
      rw [loadActorIdentity_of_present present, anew, ok_bind, decoded]
      rfl
    rw [reads]
    exact ⟨_, _, rfl⟩

end Resumption

/-! The whole switch. -/

section Switch

variable {Actor : Type} {suite : Suite} {codec : ActorCodec Actor} {env again : RekeyEnv}
  {old : MasterKey} {new : Custody} {disk middle after : Disk}

variable {error : ChatError}

theorem replaceFile_error
    (failed : replaceFile env visited path disk sealed = (.error error, after)) :
    after = disk := by
  unfold replaceFile at failed
  split at failed <;> cases failed <;> rfl

theorem rekeyFcv1File_error
    (failed : rekeyFcv1File suite env old new disk path = (.error error, after)) :
    after = disk := by
  unfold rekeyFcv1File at failed
  split at failed
  · dsimp only at failed
    split at failed
    · rename_i failed'
      cases failed
      exact replaceFile_error failed'
    · cases failed
  · split at failed
    · cases failed
    · cases failed
      rfl

theorem rekeyActorFile_error
    (failed : rekeyActorFile suite codec env old new disk path = (.error error, after)) :
    after = disk := by
  cases path with
  | actorIdentity handle =>
    simp only [rekeyActorFile] at failed
    split at failed
    · split at failed
      · rename_i failed'
        cases failed
        exact replaceFile_error failed'
      · cases failed
    · cases failed
    · split at failed
      · cases failed
      · cases failed
        rfl
  | _ => cases failed

theorem begun_identity
    (reached : middle ∈ if (disk.lookup .identity).isSome then
      [(rekeyFcv1File suite env old new disk .identity).2] else []) :
    Begun (Resealed suite codec old new) (· == .identity) disk middle := by
  split at reached
  · rename_i present
    rw [List.mem_singleton.mp reached]
    rcases visited : rekeyFcv1File suite env old new disk .identity with ⟨result, after⟩
    cases result with
    | error error =>
      rw [rekeyFcv1File_error visited]
      exact fun path => .inl rfl
    | ok count => exact (sweeps_identity ((if_pos present).trans visited)).begun
  · cases reached

theorem begun_of_mem_rekeyTrace
    (filed : ∀ handle, Filed suite codec old handle (disk.lookup (.actorIdentity handle)))
    (reached : middle ∈ rekeyTrace suite codec env old new disk) :
    Begun (Resealed suite codec old new) (·.rekeyed) disk middle := by
  rcases mem_thenTrace.mp reached with early | ⟨_, converted, conversations, later⟩
  · have begun : Begun (Resealed suite codec old new) (·.inConversationsDir) disk middle :=
      begun_of_mem_trace visits_chat (lists_listEncFiles ..)
        (fun _ inDir _ => family_of_conversation inDir) rekeyFcv1File_error early
    refine begun.mono ?_
    intro path inDir
    unfold VaultPath.rekeyed
    rw [inDir, Bool.true_or, Bool.true_or]
  · have first : Sweeps (Resealed suite codec old new) (·.inConversationsDir) disk converted :=
      sweeps_conversations conversations
    have filed' := filed_after_conversations filed first
    rcases mem_thenTrace.mp later with early | ⟨_, last, actors, identity⟩
    · have second : Begun (Resealed suite codec old new) (·.inFediDir) converted middle :=
        begun_of_mem_trace visits_actor (lists_listEncFiles ..)
          (fun _ inDir present => actorFile_of_inFediDir filed' inDir present) rekeyActorFile_error
          early
      refine (first.then_begun second fun _ => inFediDir_of_inConversationsDir).mono ?_
      intro path inDir
      unfold VaultPath.rekeyed
      rw [inDir, Bool.true_or]
    · have before := first.trans (sweeps_actors filed' actors) fun _ =>
        inFediDir_of_inConversationsDir
      exact before.then_begun (begun_identity identity) fun _ => not_identity_of_inDir

theorem inConversationsDir_of_inFediDir {path : VaultPath} (inDir : path.inFediDir = true) :
    path.inConversationsDir = false := by
  cases path with
  | actorIdentity handle => rfl
  | _ => cases inDir

theorem rekeyStoreFiles_succeeds (quiet : ∀ path, again.fault path = none)
    (filed : ∀ handle, Filed suite codec old handle (disk.lookup (.actorIdentity handle)))
    (ready : ∀ path, path.rekeyed = true → (disk.lookup path).isSome = true →
      Ready suite codec again old new path (disk.lookup path)) :
    ∃ count after, rekeyStoreFiles suite codec again old new disk = (.ok count, after) := by
  have chat : Visits (rekeyFcv1File suite again old new) _ (Resealed suite codec old new) :=
    visits_chat
  obtain ⟨count, middle, conversations⟩ := sweep_succeeds chat
    (lists_listEncFiles again.root (·.inConversationsDir) disk)
    (fun _ inDir _ => family_of_conversation inDir)
    (fun family ready => rekeyFcv1File_succeeds quiet family ready)
    (fun path inDir => ready path (by simp [VaultPath.rekeyed, inDir]))
  have first : Sweeps (Resealed suite codec old new) (·.inConversationsDir) disk middle :=
    sweeps_conversations conversations
  have filed' := filed_after_conversations filed first
  obtain ⟨more, last, actors⟩ := sweep_succeeds visits_actor
    (lists_listEncFiles again.root (·.inFediDir) middle)
    (fun _ inDir present => actorFile_of_inFediDir filed' inDir present)
    (fun expected ready => rekeyActorFile_succeeds quiet expected ready)
    (fun path inDir => by
      rw [(first path).2 (.inl (inConversationsDir_of_inFediDir inDir))]
      exact ready path (by simp [VaultPath.rekeyed, inDir]))
  have second : Sweeps (Resealed suite codec old new)
      (fun path => path.inConversationsDir || path.inFediDir) disk last :=
    first.trans (sweeps_actors filed' actors) fun _ => inFediDir_of_inConversationsDir
  have identity : ∃ some after,
      (if (last.lookup .identity).isSome then rekeyFcv1File suite again old new last .identity
        else (.ok 0, last)) = (.ok some, after) := by
    split
    · rename_i present
      have ready' : Ready suite codec again old new .identity (last.lookup .identity) := by
        rw [(second .identity).2 (.inl rfl)] at present ⊢
        exact ready .identity rfl present
      exact rekeyFcv1File_succeeds quiet rfl ready'
    · exact ⟨0, last, rfl⟩
  obtain ⟨own, after, converted⟩ := identity
  refine ⟨count + (more + own), after, ?_⟩
  unfold rekeyStoreFiles
  dsimp only
  rw [conversations]
  have actors' : rekeyFediDir suite codec again old new middle = (.ok more, last) := actors
  unfold andThen
  dsimp only
  rw [actors']
  dsimp only
  rw [converted]

section Resumed

variable (sound : Sound suite old new.master)
  (filed : ∀ handle, Filed suite codec old handle (disk.lookup (.actorIdentity handle)))
include sound filed

theorem filed_of_begun (begun : Begun (Resealed suite codec old new) (·.rekeyed) disk middle)
    (handle : String) : Filed suite codec old handle (middle.lookup (.actorIdentity handle)) := by
  rcases begun (.actorIdentity handle) with same | ⟨_, done⟩
  · rw [same]
    exact filed handle
  · exact done.filed sound (filed handle)

theorem resumed_store {whole : Disk} (quiet : ∀ path, again.fault path = none)
    (once : rekeyStoreFiles suite codec env old new disk = (.ok count, whole))
    (reached : middle ∈ rekeyTrace suite codec env old new disk) :
    ∃ more after, rekeyStoreFiles suite codec again old new middle = (.ok more, after) ∧
      ∀ path, Alike suite new path (whole.lookup path) (after.lookup path) := by
  have begun := begun_of_mem_rekeyTrace filed reached
  have sweeps := sweeps_rekeyStoreFiles filed once
  have filed' := filed_of_begun sound filed begun
  have ready (path : VaultPath) (rekeyed : path.rekeyed = true)
      (present : (middle.lookup path).isSome = true) :
      Ready suite codec again old new path (middle.lookup path) := by
    rcases begun path with same | ⟨_, done⟩
    · rw [same] at present ⊢
      exact ((sweeps path).1 rekeyed present).ready_before sound
    · exact done.ready_after sound
  obtain ⟨more, after, ran⟩ := rekeyStoreFiles_succeeds quiet filed' ready
  have sweeps' := sweeps_rekeyStoreFiles filed' ran
  refine ⟨more, after, ran, ?_⟩
  intro path
  by_cases unvisited : path.rekeyed = false ∨ disk.lookup path = none
  · -- neither run writes the file
    have same : middle.lookup path = disk.lookup path := by
      rcases begun path with same | ⟨rekeyed, done⟩
      · exact same
      · rcases unvisited with outside | absent
        · cases outside.symm.trans rekeyed
        · rw [absent] at done
          cases done.present.1
    rw [← same] at unvisited
    exact .inl (((sweeps' path).2 unvisited).trans
      (same.trans ((sweeps path).2 (same ▸ unvisited)).symm))
  · rw [not_or, Bool.not_eq_false, ← ne_eq, ← Option.isSome_iff_ne_none] at unvisited
    have either : middle.lookup path = disk.lookup path ∨
        Resealed suite codec old new path (disk.lookup path) (middle.lookup path) :=
      (begun path).imp id And.right
    have present : (middle.lookup path).isSome = true := by
      rcases either with same | done
      · rw [same]
        exact unvisited.2
      · exact done.present.2
    exact ((sweeps path).1 unvisited.1 unvisited.2).alike sound either
      ((sweeps' path).1 unvisited.1 present)

end Resumed

theorem rekeyTo_of_keys (present : (state.disk.lookup .identity).isSome = true)
    (resolved : resolveMasterKey suite env state.keyring (state.disk.lookup .identity)
      currentPassphrase = (.ok found, unlocked))
    (chosen : newCustody suite env unlocked newPassphrase = (.ok new, keyring)) :
    rekeyTo suite codec env state currentPassphrase newPassphrase =
      ((rekeyStoreFiles suite codec env found.master new state.disk).1,
        ⟨(rekeyStoreFiles suite codec env found.master new state.disk).2, keyring⟩) := by
  obtain ⟨identity, there⟩ := Option.isSome_iff_exists.mp present
  rw [there] at resolved
  simp only [rekeyTo, there, resolved, chosen]

/-- An interruption loses no file, and a second run with the keys of the first succeeds and leaves
the files as one run would have left them, up to the nonces. -/
theorem interrupted_rekey_resumes (suite : Suite) (codec : ActorCodec Actor) (env again : RekeyEnv)
    (state whole interrupted : VaultState) (currentPassphrase newPassphrase : Option String)
    (old new found : Custody) (unlocked keyring unlocked' keyring' : Option String) (count : Nat)
    (present : (state.disk.lookup .identity).isSome = true)
    (resolved : resolveMasterKey suite env state.keyring (state.disk.lookup .identity)
      currentPassphrase = (.ok old, unlocked))
    (chosen : newCustody suite env unlocked newPassphrase = (.ok new, keyring))
    (filed : ∀ handle,
      Filed suite codec old.master handle (state.disk.lookup (.actorIdentity handle)))
    (sound : Sound suite old.master new.master)
    (done : rekeyTo suite codec env state currentPassphrase newPassphrase = (.ok count, whole))
    (reached : interrupted.disk ∈ rekeyTrace suite codec env old.master new state.disk)
    (resolvedAgain : resolveMasterKey suite again interrupted.keyring
      (interrupted.disk.lookup .identity) currentPassphrase = (.ok found, unlocked'))
    (sameOld : found.master = old.master)
    (sameNew : newCustody suite again unlocked' newPassphrase = (.ok new, keyring'))
    (quiet : ∀ path, again.fault path = none) :
    (∀ path plaintext,
      openEither suite old.master new.master path (state.disk.lookup path) = .ok plaintext →
        openEither suite old.master new.master path (interrupted.disk.lookup path) =
          .ok plaintext) ∧
    ∃ more after,
      rekeyTo suite codec again interrupted currentPassphrase newPassphrase = (.ok more, after) ∧
      ∀ path, Alike suite new path (whole.disk.lookup path) (after.disk.lookup path) := by
  have once : rekeyTo suite codec env state currentPassphrase newPassphrase = _ :=
    rekeyTo_of_keys present resolved chosen
  rw [done] at once
  have begun := begun_of_mem_rekeyTrace filed reached
  have present' : (interrupted.disk.lookup .identity).isSome = true := by
    rcases begun .identity with same | ⟨_, converted⟩
    · rw [same]
      exact present
    · exact converted.present.2
  constructor
  · intro path plaintext opens
    rcases begun path with same | ⟨_, converted⟩
    · rw [same]
      exact opens
    · exact converted.openEither sound opens
  · have ran : rekeyStoreFiles suite codec env old.master new state.disk =
        (.ok count, whole.disk) := Prod.ext (congrArg Prod.fst once).symm
          (congrArg (·.2.disk) once).symm
    obtain ⟨more, after, resumed, alike⟩ := resumed_store sound filed quiet ran reached
    refine ⟨more, ⟨after, keyring'⟩, ?_, alike⟩
    rw [rekeyTo_of_keys present' resolvedAgain sameNew, sameOld, resumed]

end Switch

/-! A switch that is cut short after the first of three files. -/

def saltedSuite : Suite :=
  { prefixSuite with
    argon2 := fun passphrase salt =>
      .ok (Vector.replicate 32 (UInt8.ofNat passphrase.length * salt.toList.headD 0)) }

theorem sound_saltedSuite (old new : MasterKey) : Sound saltedSuite old new := by
  have separates (new old : MasterKey) : Separates saltedSuite new old := by
    intro nonce plaintext aad ciphertext other sealed opens
    cases sealed
    simp only [saltedSuite, prefixSuite] at opens
    split at opens
    · cases opens
      simp
    · cases opens
  exact ⟨separates new old, separates new old, fun _ _ _ _ _ _ _ => ⟨_, rfl⟩⟩

def targetCustody : Custody := ⟨keyOf "bbbb", kdfIdArgon2, some (Vector.replicate 16 2)⟩

def halfSwitched : VaultState :=
  ⟨(rekeyFcv1File saltedSuite quietRekey (keyOf "a") targetCustody (sealedStore visitedFiles).disk
    (.conversation "g")).2, none⟩

theorem halfSwitched_reached :
    halfSwitched.disk ∈ rekeyTrace saltedSuite bareCodec quietRekey (keyOf "a") targetCustody
      (sealedStore visitedFiles).disk := by
  decide +kernel

def switchedAtOnce : Except ChatError Nat × VaultState :=
  rekeyTo saltedSuite bareCodec quietRekey (sealedStore visitedFiles) (some "a") (some "bb")

theorem halfSwitched_resumes :
    ∃ more after,
      rekeyTo saltedSuite bareCodec quietRekey halfSwitched (some "a") (some "bb") =
        (.ok more, after) ∧
      ∀ path, Alike saltedSuite targetCustody path (switchedAtOnce.2.disk.lookup path)
        (after.disk.lookup path) := by
  have count : switchedAtOnce.1 = .ok 3 := by decide +kernel
  refine (interrupted_rekey_resumes saltedSuite bareCodec quietRekey quietRekey
    (sealedStore visitedFiles) switchedAtOnce.2 halfSwitched (some "a") (some "bb")
    ⟨keyOf "a", kdfIdArgon2, some (Vector.replicate 16 1)⟩ targetCustody
    ⟨keyOf "a", kdfIdArgon2, some (Vector.replicate 16 1)⟩ none none none none 3 (by decide +kernel)
    (by decide +kernel) (by decide +kernel) filed_visitedFiles (sound_saltedSuite _ _)
    (Prod.ext count rfl) halfSwitched_reached (by decide +kernel) rfl (by decide +kernel)
    fun _ => rfl).2

def otherSalt : RekeyEnv := { quietRekey with freshSalt := Vector.replicate 16 3 }

/-- A second run draws another salt. The file that the first one converted opens under neither of
its keys, and it gives up. -/
theorem second_run_draws_other_key :
    switchedAtOnce.1 = .ok 3 ∧
      halfSwitched.disk ∈ rekeyTrace saltedSuite bareCodec quietRekey (keyOf "a") targetCustody
        (sealedStore visitedFiles).disk ∧
      openFile saltedSuite (keyOf "a") (.conversation "g")
        (halfSwitched.disk.lookup (.conversation "g")) =
          .error (.invalid "aead open: aead::Error") ∧
      (rekeyTo saltedSuite bareCodec otherSalt halfSwitched (some "a") (some "bb")).1 =
        .error (.invalid ("rekey: d/conversations/g.json.enc opens under neither key: " ++
          "invalid input: aead open: aead::Error")) := by
  decide +kernel

end Fetchit.Vault
