import Mathlib.Data.List.Sort
import Fetchit.Lib.Pass
import Fetchit.Vault.AtRest

/-! The switch of the vault to another master key. A pass opens the files that it knows of under
the old key and seals them under the new one; the identity file, whose header says how to find the
key, comes last. -/
namespace Fetchit.Vault
open Lib Lib.Outcome Lib.Pass Chat

/-! The master keys. -/

/-- How the keystore answers one call: its failures and the key that it would draw. -/
structure KeychainEnv where
  openFault : Option String
  getFault : Option String
  setFault : Option String
  deleteFails : Bool
  fresh : MasterKey

theorem toArray_size {bytes : Bytes} (exact : bytes.length = 32) : bytes.toArray.size = 32 :=
  List.size_toArray.trans exact

def decodeKeyringEntry (suite : Suite) (encoded : String) : Except ChatError MasterKey := do
  let bytes ← okOr (Base64.decode encoded)
    (.invalid s!"keyring decode: {suite.base64Error encoded}")
  if exact : bytes.length = 32 then .ok ⟨bytes.toArray, toArray_size exact⟩
  else .error (.invalid "keyring entry wrong length")

def resolveKeychain (suite : Suite) (env : KeychainEnv) (entry : Option String) :
    Except ChatError MasterKey × Option String :=
  match env.openFault with
  | some reason => (.error (.invalid s!"keyring open: {reason}"), entry)
  | none =>
    match env.getFault, entry with
    | some reason, _ => (.error (.invalid s!"keyring get: {reason}"), entry)
    | none, some encoded => (decodeKeyringEntry suite encoded, entry)
    | none, none =>
      match env.setFault with
      | some reason => (.error (.invalid s!"keyring set: {reason}"), none)
      | none => (.ok env.fresh, some (Base64.encode env.fresh.toList))

/-- A failed deletion goes unnoticed, and the old key is found again. -/
def rotateKeychain (suite : Suite) (env : KeychainEnv) (entry : Option String) :
    Except ChatError MasterKey × Option String :=
  resolveKeychain suite env (if env.openFault.isSome || env.deleteFails then entry else none)

/-- A master key, and what the header of a file says about it. -/
structure Custody where
  master : MasterKey
  kdfId : UInt8
  argonSalt : Option Salt
  deriving DecidableEq

def passphraseCustody (suite : Suite) (passphrase : String) (salt : Salt) :
    Except ChatError Custody :=
  (suite.argon2 passphrase salt).map fun master => ⟨master, kdfIdArgon2, some salt⟩

def keychainCustody (kdfId : UInt8) (resolved : Except ChatError MasterKey × Option String) :
    Except ChatError Custody × Option String :=
  (resolved.1.map fun master => ⟨master, kdfId, none⟩, resolved.2)

/-- What one switch draws and how its writes go. -/
structure RekeyEnv where
  root : String
  unlocking : KeychainEnv
  rotating : KeychainEnv
  freshSalt : Salt
  nonce : VaultPath → Nonce
  fault : VaultPath → Option ChatError

def resolveMasterKey (suite : Suite) (env : RekeyEnv) (keyring : Option String)
    (identity : Option Bytes) (passphrase : Option String) :
    Except ChatError Custody × Option String :=
  match identity, passphrase with
  | some header, _ =>
    match readKdfId header with
    | .error error => (.error error, keyring)
    | .ok kdfId =>
      if kdfId = kdfIdArgon2 then
        let custody := do
          let salt ← readArgonSalt header
          let passphrase ← okOr passphrase
            (.invalid "vault is passphrase-mode but no passphrase was supplied")
          passphraseCustody suite passphrase salt
        (custody, keyring)
      else keychainCustody kdfId (resolveKeychain suite env.unlocking keyring)
  | none, some passphrase => (passphraseCustody suite passphrase env.freshSalt, keyring)
  | none, none => keychainCustody kdfIdKeychain (resolveKeychain suite env.unlocking keyring)

def newCustody (suite : Suite) (env : RekeyEnv) (keyring : Option String)
    (newPassphrase : Option String) : Except ChatError Custody × Option String :=
  match newPassphrase with
  | some passphrase =>
    if (Text.trim passphrase).isEmpty then
      (.error (.invalid "passphrase must not be empty"), keyring)
    else (passphraseCustody suite passphrase env.freshSalt, keyring)
  | none => keychainCustody kdfIdKeychain (rotateKeychain suite env.rotating keyring)

/-- The passphrase that a vault is sealed under unlocks it: the header leads back to the same master
key, whatever the keyring holds, and the key opens the file. -/
theorem passphrase_unlocks (suite : Suite) (env : RekeyEnv) (keyring : Option String)
    (passphrase : String) (salt : Salt) (master : MasterKey) (plaintext bytes : Bytes)
    (nonce : Nonce) (derived : suite.argon2 passphrase salt = .ok master)
    (written : sealVault suite plaintext master kdfIdArgon2 (some salt) nonce = .ok bytes) :
    resolveMasterKey suite env keyring (some bytes) (some passphrase) =
        (.ok ⟨master, kdfIdArgon2, some salt⟩, keyring) ∧
      openVault suite master bytes = .ok plaintext := by
  refine ⟨?_, openVault_sealVault written⟩
  obtain ⟨ciphertext, _, ⟨⟩⟩ := bind_eq_ok.mp written
  rw [Option.getD_some, List.append_assoc]
  change (readArgonSalt _ >>= passphraseCustody suite passphrase, keyring) = _
  rw [readArgonSalt_frame, ok_bind, passphraseCustody, derived]
  rfl

/-! The files. -/

/-- The records of the fediverse actors as they are written into their files. -/
structure ActorCodec (Actor : Type) where
  handle : Actor → String
  encode : Actor → Except String Bytes
  decode : Bytes → Except String Actor

section Files

variable {Actor : Type} (suite : Suite) (codec : ActorCodec Actor) (env : RekeyEnv)

def replaceFile (visited path : VaultPath) (disk : Disk) (sealed : Except ChatError Bytes) :
    Except ChatError Unit × Disk :=
  match sealed, env.fault visited with
  | .error error, _ => (.error error, disk)
  | .ok _, some error => (.error error, disk)
  | .ok bytes, none => (.ok (), disk.insert path bytes)

def loadActorIdentity (master : MasterKey) (disk : Disk) (handle : String) :
    Except ChatError (Option Actor) :=
  match disk.lookup (.actorIdentity handle) with
  | none => .ok none
  | some bytes => do
      let plaintext ← openFedi suite vaultFamily master bytes
      let actor ← (codec.decode plaintext).mapError fun reason =>
        .invalid s!"vault decode: {reason}"
      .ok (some actor)

/-- The file is found by the handle that the record carries. -/
def saveActorIdentity (visited : VaultPath) (disk : Disk) (actor : Actor) (master : MasterKey) :
    Except ChatError Unit × Disk :=
  let sealed := do
    let plaintext ← (codec.encode actor).mapError fun reason => .invalid s!"vault encode: {reason}"
    sealFedi suite vaultFamily master plaintext (env.nonce visited)
  replaceFile env visited (.actorIdentity (codec.handle actor)) disk sealed

/-- A file that opens only under the new key has been converted before. -/
def rekeyFcv1File (old : MasterKey) (new : Custody) (disk : Disk) (path : VaultPath) :
    Outcome ChatError VaultPath Bytes :=
  match openFromPath suite old (disk.lookup path) with
  | .ok plaintext =>
    let sealed :=
      sealVault suite plaintext new.master new.kdfId new.argonSalt (env.nonce path)
    match replaceFile env path path disk sealed with
    | (.error error, disk) => (.error error, disk)
    | (.ok _, disk) => (.ok 1, disk)
  | .error error =>
    match openFromPath suite new.master (disk.lookup path) with
    | .ok _ => (.ok 0, disk)
    | .error _ =>
      (.error (.invalid
        s!"rekey: {path.display env.root} opens under neither key: {error.text}"), disk)

def rekeyActorFile (old : MasterKey) (new : Custody) (disk : Disk) (path : VaultPath) :
    Outcome ChatError VaultPath Bytes :=
  match path with
  | .actorIdentity handle =>
    match loadActorIdentity suite codec old disk handle with
    | .ok (some actor) =>
      match saveActorIdentity suite codec env path disk actor new.master with
      | (.error error, disk) => (.error error, disk)
      | (.ok _, disk) => (.ok 1, disk)
    | .ok none => (.ok 0, disk)
    | .error error =>
      match loadActorIdentity suite codec new.master disk handle with
      | .ok _ => (.ok 0, disk)
      | .error _ =>
        let shown := path.display env.root
        (.error (.invalid
          s!"rekey: fedi vault {shown} opens under neither key: {error.text}"), disk)
  | _ => (.ok 0, disk)

def VaultPath.inConversationsDir : VaultPath → Bool
  | .conversation _ => true
  | _ => false

def VaultPath.inFediDir : VaultPath → Bool
  | .actorIdentity _ => true
  | _ => false

def listEncFiles (root : String) (inDir : VaultPath → Bool) (disk : Disk) : List VaultPath :=
  (disk.keys.filter inDir).insertionSort fun first second =>
    first.display root ≤ second.display root

def rekeyFediDir (old : MasterKey) (new : Custody) (disk : Disk) :
    Outcome ChatError VaultPath Bytes :=
  pass (rekeyActorFile suite codec env old new) disk (listEncFiles env.root (·.inFediDir) disk)

def rekeyStoreFiles (old : MasterKey) (new : Custody) (disk : Disk) :
    Outcome ChatError VaultPath Bytes :=
  let conversations := listEncFiles env.root (·.inConversationsDir) disk
  andThen (pass (rekeyFcv1File suite env old new) disk conversations) fun disk =>
    andThen (rekeyFediDir suite codec env old new disk) fun disk =>
      if (disk.lookup .identity).isSome then rekeyFcv1File suite env old new disk .identity
      else (.ok 0, disk)

structure VaultState where
  disk : Disk
  keyring : Option String

def rekeyTo (state : VaultState) (currentPassphrase newPassphrase : Option String) :
    Except ChatError Nat × VaultState :=
  match state.disk.lookup .identity with
  | none => (.ok 0, state)
  | some identity =>
    match resolveMasterKey suite env state.keyring (some identity) currentPassphrase with
    | (.error error, keyring) => (.error error, { state with keyring := keyring })
    | (.ok old, keyring) =>
      match newCustody suite env keyring newPassphrase with
      | (.error error, keyring) => (.error error, { state with keyring := keyring })
      | (.ok new, keyring) =>
        let (outcome, disk) := rekeyStoreFiles suite codec env old.master new state.disk
        (outcome, ⟨disk, keyring⟩)

end Files

/-! What a pass does to one file. -/

section Conversion

variable {Actor : Type} {suite : Suite} {codec : ActorCodec Actor} {env : RekeyEnv}
  {old : MasterKey} {new : Custody}

def Converted (suite : Suite) (old : MasterKey) (new : Custody) (path : VaultPath)
    (before after : Option Bytes) : Prop :=
  (∀ plaintext, openFile suite old path before = .ok plaintext →
    openFile suite new.master path after = .ok plaintext) ∧
  ∃ plaintext, openFile suite new.master path after = .ok plaintext

def sealFile (suite : Suite) (new : Custody) (path : VaultPath) (plaintext : Bytes)
    (nonce : Nonce) : Except ChatError Bytes :=
  match path.family with
  | none => sealVault suite plaintext new.master new.kdfId new.argonSalt nonce
  | some family => sealFedi suite family new.master plaintext nonce

def SealedAs (suite : Suite) (new : Custody) (path : VaultPath) (plaintext : Bytes)
    (file : Option Bytes) : Prop :=
  ∃ nonce bytes, sealFile suite new path plaintext nonce = .ok bytes ∧ file = some bytes

variable {path : VaultPath} {plaintext : Bytes} {disk after : Disk} {handle : String}

theorem SealedAs.opens (sealed : SealedAs suite new path plaintext file) :
    openFile suite new.master path file = .ok plaintext := by
  obtain ⟨nonce, bytes, written, rfl⟩ := sealed
  unfold sealFile at written
  unfold openFile
  cases family : path.family with
  | none =>
    rw [family] at written
    exact openVault_sealVault written
  | some family =>
    rw [family] at written
    exact openFedi_sealFedi written

def Readable (codec : ActorCodec Actor) (path : VaultPath) (plaintext : Bytes) : Prop :=
  path.inFediDir = true → ∃ actor, codec.decode plaintext = .ok actor

/-- A visit either seals the plaintext anew, or finds that this was done before. -/
inductive Resealed (suite : Suite) (codec : ActorCodec Actor) (old : MasterKey) (new : Custody)
    (path : VaultPath) (before : Option Bytes) : Option Bytes → Prop where
  | rewritten {after : Option Bytes} (plaintext : Bytes)
      (readable : Readable codec path plaintext)
      (opens : openFile suite old path before = .ok plaintext)
      (anew : SealedAs suite new path plaintext after) :
      Resealed suite codec old new path before after
  | migrated (plaintext : Bytes) (readable : Readable codec path plaintext)
      (shut : ∀ plaintext, openFile suite old path before ≠ .ok plaintext)
      (anew : openFile suite new.master path before = .ok plaintext) :
      Resealed suite codec old new path before before

theorem Resealed.converted {before after : Option Bytes}
    (resealed : Resealed suite codec old new path before after) :
    Converted suite old new path before after := by
  cases resealed with
  | rewritten plaintext readable opens anew =>
    refine ⟨?_, plaintext, anew.opens⟩
    intro other opens'
    rw [opens] at opens'
    cases opens'
    exact anew.opens
  | migrated plaintext readable shut anew =>
    exact ⟨fun other opens => absurd opens (shut other), plaintext, anew⟩

def Rewrites (suite : Suite) (codec : ActorCodec Actor) (old : MasterKey) (new : Custody)
    (disk : Disk) (path : VaultPath) (after : Disk) : Prop :=
  (after = disk ∨ ∃ bytes, after = disk.insert path bytes) ∧
    Resealed suite codec old new path (disk.lookup path) (after.lookup path)

theorem Rewrites.sealed (readable : Readable codec path plaintext)
    (opens : openFile suite old path (disk.lookup path) = .ok plaintext)
    (written : sealFile suite new path plaintext nonce = .ok bytes) :
    Rewrites suite codec old new disk path (disk.insert path bytes) := by
  refine ⟨.inr ⟨bytes, rfl⟩, .rewritten plaintext readable opens ?_⟩
  rw [AList.lookup_insert]
  exact ⟨nonce, bytes, written, rfl⟩

theorem visits_of_rewrites {visit : Disk → VaultPath → Outcome ChatError VaultPath Bytes}
    (rewrites : ∀ {disk after path count}, expected path (disk.lookup path) →
      visit disk path = (.ok count, after) → Rewrites suite codec old new disk path after) :
    Visits visit expected (Resealed suite codec old new) where
  elsewhere fits done other apart := by
    rcases (rewrites fits done).1 with rfl | ⟨bytes, rfl⟩
    · rfl
    · exact AList.lookup_insert_ne apart
  own fits done := (rewrites fits done).2

theorem replaceFile_eq_ok (written : replaceFile env visited path disk sealed = (.ok (), after)) :
    ∃ bytes, sealed = .ok bytes ∧ after = disk.insert path bytes := by
  unfold replaceFile at written
  split at written
  · cases written
  · cases written
  · cases written
    exact ⟨_, rfl, rfl⟩

theorem sealFile_chat (chat : path.family = none) (plaintext : Bytes) (nonce : Nonce) :
    sealFile suite new path plaintext nonce =
      sealVault suite plaintext new.master new.kdfId new.argonSalt nonce := by
  unfold sealFile
  rw [chat]

theorem readable_chat (chat : path.family = none) (plaintext : Bytes) :
    Readable codec path plaintext := by
  intro inDir
  cases path with
  | actorIdentity handle => cases chat
  | _ => cases inDir

theorem rewrites_chat (chat : path.family = none)
    (done : rekeyFcv1File suite env old new disk path = (.ok count, after)) :
    Rewrites suite codec old new disk path after := by
  unfold rekeyFcv1File at done
  split at done
  · rename_i plaintext opens
    dsimp only at done
    split at done
    · cases done
    · rename_i written
      cases done
      obtain ⟨bytes, sealed, rfl⟩ := replaceFile_eq_ok written
      exact .sealed (readable_chat chat plaintext) ((openFile_chat chat ..).trans opens)
        ((sealFile_chat chat ..).trans sealed)
  · rename_i error shut
    split at done
    · rename_i plaintext opens
      cases done
      refine ⟨.inl rfl, .migrated plaintext (readable_chat chat plaintext) ?_
        ((openFile_chat chat ..).trans opens)⟩
      intro other opens'
      rw [openFile_chat chat, shut] at opens'
      cases opens'
    · cases done

theorem visits_chat :
    Visits (rekeyFcv1File suite env old new) (fun path _ => path.family = none)
      (Resealed suite codec old new) :=
  visits_of_rewrites rewrites_chat

def Filed (suite : Suite) (codec : ActorCodec Actor) (old : MasterKey) (handle : String)
    (file : Option Bytes) : Prop :=
  ∀ plaintext, openFile suite old (.actorIdentity handle) file = .ok plaintext →
    ∃ actor, codec.decode plaintext = .ok actor ∧ codec.handle actor = handle ∧
      codec.encode actor = .ok plaintext

section
variable (present : (disk.lookup (.actorIdentity handle)).isSome = true)
include present

theorem loadActorIdentity_of_present :
    loadActorIdentity suite codec master disk handle =
      (openFile suite master (.actorIdentity handle) (disk.lookup (.actorIdentity handle)) >>=
        fun plaintext => ((codec.decode plaintext).mapError fun reason =>
          .invalid s!"vault decode: {reason}").map some) := by
  obtain ⟨bytes, found⟩ := Option.isSome_iff_exists.mp present
  have opens : openFile suite master (.actorIdentity handle) (some bytes) =
      openFedi suite vaultFamily master bytes := rfl
  unfold loadActorIdentity
  rw [found, opens]
  dsimp only
  cases openFedi suite vaultFamily master bytes with
  | error error => rfl
  | ok plaintext =>
    cases codec.decode plaintext with
    | error | ok => rfl

theorem opens_of_loadActorIdentity
    (loaded : loadActorIdentity suite codec master disk handle = .ok found) :
    ∃ plaintext actor, found = some actor ∧ codec.decode plaintext = .ok actor ∧
      openFile suite master (.actorIdentity handle) (disk.lookup (.actorIdentity handle)) =
        .ok plaintext := by
  rw [loadActorIdentity_of_present present] at loaded
  obtain ⟨plaintext, opens, rest⟩ := bind_eq_ok.mp loaded
  cases decoded : codec.decode plaintext with
  | error reason =>
    rw [decoded] at rest
    cases rest
  | ok actor =>
    rw [decoded] at rest
    cases rest
    exact ⟨plaintext, actor, rfl, decoded, opens⟩

end

theorem Filed.shut (filed : Filed suite codec old handle (disk.lookup (.actorIdentity handle)))
    (present : (disk.lookup (.actorIdentity handle)).isSome = true)
    (unread : loadActorIdentity suite codec old disk handle = .error error) (plaintext : Bytes) :
    openFile suite old (.actorIdentity handle) (disk.lookup (.actorIdentity handle)) ≠
      .ok plaintext := by
  intro opens
  obtain ⟨actor, decoded, _⟩ := filed plaintext opens
  rw [loadActorIdentity_of_present present, opens, ok_bind, decoded] at unread
  cases unread

theorem saveActorIdentity_eq_ok (own : codec.handle actor = handle)
    (encoded : codec.encode actor = .ok plaintext)
    (saved : saveActorIdentity suite codec env (.actorIdentity handle) disk actor new.master =
      (.ok (), after)) :
    ∃ bytes, sealFedi suite vaultFamily new.master plaintext (env.nonce (.actorIdentity handle)) =
      .ok bytes ∧ after = disk.insert (.actorIdentity handle) bytes := by
  unfold saveActorIdentity at saved
  rw [encoded, own] at saved
  exact replaceFile_eq_ok saved

def ActorFile (suite : Suite) (codec : ActorCodec Actor) (old : MasterKey) (path : VaultPath)
    (file : Option Bytes) : Prop :=
  ∃ handle, path = .actorIdentity handle ∧ file.isSome = true ∧ Filed suite codec old handle file

theorem rewrites_actor (expected : ActorFile suite codec old path (disk.lookup path))
    (done : rekeyActorFile suite codec env old new disk path = (.ok count, after)) :
    Rewrites suite codec old new disk path after := by
  obtain ⟨handle, rfl, present, filed⟩ := expected
  simp only [rekeyActorFile] at done
  split at done
  · rename_i actor loaded
    split at done
    · cases done
    · rename_i saved
      cases done
      obtain ⟨plaintext, _, same, decoded, opens⟩ := opens_of_loadActorIdentity present loaded
      cases same
      obtain ⟨_, decoded', own, encoded⟩ := filed plaintext opens
      rw [decoded] at decoded'
      cases decoded'
      obtain ⟨bytes, sealed, rfl⟩ := saveActorIdentity_eq_ok own encoded saved
      exact .sealed (fun _ => ⟨_, decoded⟩) opens sealed
  · rename_i missing
    obtain ⟨_, _, absent, _⟩ := opens_of_loadActorIdentity present missing
    cases absent
  · rename_i error unread
    split at done
    · rename_i found loaded
      cases done
      obtain ⟨plaintext, _, _, decoded, opens⟩ := opens_of_loadActorIdentity present loaded
      exact ⟨.inl rfl, .migrated plaintext (fun _ => ⟨_, decoded⟩) (filed.shut present unread)
        opens⟩
    · cases done

theorem visits_actor :
    Visits (rekeyActorFile suite codec env old new) (ActorFile suite codec old)
      (Resealed suite codec old new) :=
  visits_of_rewrites rewrites_actor

end Conversion

/-! The whole switch. -/

section Switch

variable {Actor : Type} {suite : Suite} {codec : ActorCodec Actor} {env : RekeyEnv}
  {old : MasterKey} {new : Custody}

variable {disk after : Disk} {path : VaultPath} {count : Nat}

theorem mem_listEncFiles :
    path ∈ listEncFiles root inDir disk ↔ inDir path = true ∧ (disk.lookup path).isSome = true := by
  unfold listEncFiles
  rw [List.mem_insertionSort, List.mem_filter, ← AList.mem_keys, AList.lookup_isSome, and_comm]

theorem lists_listEncFiles (root : String) (inDir : VaultPath → Bool) (disk : Disk) :
    Lists inDir disk (listEncFiles root inDir disk) :=
  ⟨(List.perm_insertionSort _ _).nodup_iff.mpr (disk.keys_nodup.filter _),
    fun _ => mem_listEncFiles⟩

def VaultPath.rekeyed (path : VaultPath) : Bool :=
  path.inConversationsDir || path.inFediDir || path == .identity

/-- No file that the switch does not visit is sealed under the old key. -/
def Covered (suite : Suite) (old : MasterKey) (disk : Disk) : Prop :=
  ∀ path plaintext, path.rekeyed = false →
    openFile suite old path (disk.lookup path) ≠ .ok plaintext

/-- No file of the store opens under both keys. -/
def KeysApart (suite : Suite) (old new : MasterKey) (disk : Disk) : Prop :=
  ∀ path plaintext other, openFile suite old path (disk.lookup path) = .ok plaintext →
    openFile suite new path (disk.lookup path) ≠ .ok other

theorem family_of_conversation (inDir : path.inConversationsDir = true) :
    path.family = none := by
  cases path with
  | conversation groupIdHex => rfl
  | _ => cases inDir

theorem actorFile_of_inFediDir
    (filed : ∀ handle, Filed suite codec old handle (disk.lookup (.actorIdentity handle)))
    (inDir : path.inFediDir = true) (present : (disk.lookup path).isSome = true) :
    ActorFile suite codec old path (disk.lookup path) := by
  cases path with
  | actorIdentity handle => exact ⟨handle, rfl, present, filed handle⟩
  | _ => cases inDir

theorem sweeps_conversations (done : pass (rekeyFcv1File suite env old new) disk
      (listEncFiles env.root (·.inConversationsDir) disk) = (.ok count, after)) :
    Sweeps (Resealed suite codec old new) (·.inConversationsDir) disk after :=
  sweeps_pass visits_chat (lists_listEncFiles ..)
    (fun _ inDir _ => family_of_conversation inDir) done

theorem sweeps_actors
    (filed : ∀ handle, Filed suite codec old handle (disk.lookup (.actorIdentity handle)))
    (done : rekeyFediDir suite codec env old new disk = (.ok count, after)) :
    Sweeps (Resealed suite codec old new) (·.inFediDir) disk after :=
  sweeps_pass visits_actor (lists_listEncFiles ..)
    (fun _ inDir present => actorFile_of_inFediDir filed inDir present) done

theorem sweeps_identity
    (done : (if (disk.lookup .identity).isSome then rekeyFcv1File suite env old new disk .identity
      else (.ok 0, disk)) = (.ok count, after)) :
    Sweeps (Resealed suite codec old new) (· == .identity) disk after := by
  have visits : Visits (rekeyFcv1File suite env old new) _ (Resealed suite codec old new) :=
    visits_chat
  intro path
  split at done
  · by_cases same : path = .identity
    · subst same
      refine ⟨fun _ _ => visits.own rfl done, ?_⟩
      intro unchosen
      rename_i present
      rcases unchosen with other | absent
      · cases other
      · rw [absent] at present
        cases present
    · exact ⟨fun chosen => absurd (eq_of_beq chosen) same,
        fun _ => visits.elsewhere rfl done same⟩
  · rename_i missing
    cases done
    refine ⟨?_, fun _ => rfl⟩
    intro chosen present
    rw [eq_of_beq chosen] at present
    exact absurd present missing

theorem inFediDir_of_inConversationsDir (inDir : path.inConversationsDir = true) :
    path.inFediDir = false := by
  cases path with
  | conversation groupIdHex => rfl
  | _ => cases inDir

theorem not_identity_of_inDir (inDir : (path.inConversationsDir || path.inFediDir) = true) :
    (path == .identity) = false := by
  cases path with
  | identity => cases inDir
  | _ => rfl

section
variable (filed : ∀ handle, Filed suite codec old handle (disk.lookup (.actorIdentity handle)))
include filed

theorem filed_after_conversations
    (sweeps : Sweeps (Resealed suite codec old new) (·.inConversationsDir) disk after)
    (handle : String) : Filed suite codec old handle (after.lookup (.actorIdentity handle)) := by
  rw [(sweeps (.actorIdentity handle)).2 (.inl rfl)]
  exact filed handle

theorem sweeps_rekeyStoreFiles
    (done : rekeyStoreFiles suite codec env old new disk = (.ok count, after)) :
    Sweeps (Resealed suite codec old new) (·.rekeyed) disk after := by
  obtain ⟨_, middle, _, conversations, rest⟩ := andThen_eq_ok done
  obtain ⟨_, last, _, actors, identity⟩ := andThen_eq_ok rest
  have first : Sweeps (Resealed suite codec old new) (·.inConversationsDir) disk middle :=
    sweeps_conversations conversations
  have second := sweeps_actors (filed_after_conversations filed first) actors
  exact (first.trans second fun _ => inFediDir_of_inConversationsDir).trans
    (sweeps_identity identity) fun _ => not_identity_of_inDir

end

/-- A switch that succeeds, from one key to another and with the actors under their own handles,
covers the store if and only if no other file is sealed under the old key: every file then opens
under the new key with the plaintext that it had, and none is left that opens under the old key
alone. -/
theorem rekey_covers_store_iff (suite : Suite) (codec : ActorCodec Actor) (env : RekeyEnv)
    (state after : VaultState) (currentPassphrase newPassphrase : Option String) (old new : Custody)
    (unlocked keyring : Option String) (count : Nat) (identity : Bytes)
    (present : state.disk.lookup .identity = some identity)
    (resolved : resolveMasterKey suite env state.keyring (some identity) currentPassphrase =
      (.ok old, unlocked))
    (chosen : newCustody suite env unlocked newPassphrase = (.ok new, keyring))
    (apart : KeysApart suite old.master new.master state.disk)
    (filed : ∀ handle,
      Filed suite codec old.master handle (state.disk.lookup (.actorIdentity handle)))
    (done : rekeyTo suite codec env state currentPassphrase newPassphrase = (.ok count, after)) :
    ((∀ path plaintext, openFile suite old.master path (state.disk.lookup path) = .ok plaintext →
      openFile suite new.master path (after.disk.lookup path) = .ok plaintext) ∧
    ∀ path plaintext, openFile suite old.master path (after.disk.lookup path) = .ok plaintext →
      ∃ plaintext, openFile suite new.master path (after.disk.lookup path) = .ok plaintext) ↔
      Covered suite old.master state.disk := by
  simp only [rekeyTo, present, resolved, chosen] at done
  generalize ran : rekeyStoreFiles suite codec env old.master new state.disk = outcome at done
  obtain ⟨result, disk⟩ := outcome
  cases done
  have sweeps := sweeps_rekeyStoreFiles filed ran
  constructor
  · rintro ⟨opened, _⟩ path plaintext unvisited opens
    have kept := opened path plaintext opens
    rw [(sweeps path).2 (.inl unvisited)] at kept
    exact apart path plaintext plaintext opens kept
  intro covered
  have visited {path : VaultPath} {plaintext : Bytes}
      (opens : openFile suite old.master path (state.disk.lookup path) = .ok plaintext) :
      Converted suite old.master new path (state.disk.lookup path) (disk.lookup path) := by
    refine ((sweeps path).1 ?_ ?_).converted
    · by_contra unvisited
      exact covered path plaintext (by simpa using unvisited) opens
    · cases found : state.disk.lookup path with
      | some bytes => rfl
      | none =>
        rw [found] at opens
        exact (openFile_none _ _ _ _ opens).elim
  constructor
  · intro path plaintext opens
    exact (visited opens).1 plaintext opens
  · intro path plaintext opens
    by_cases unvisited : path.rekeyed = false ∨ state.disk.lookup path = none
    · rw [(sweeps path).2 unvisited] at opens
      exact (sweeps path).2 unvisited ▸ (visited opens).2
    · rw [not_or, Bool.not_eq_false] at unvisited
      exact ((sweeps path).1 unvisited.1
        (Option.isSome_iff_ne_none.mpr unvisited.2)).converted.2

end Switch

/-! A vault that is switched from one passphrase to another. -/

def prefixSuite : Suite where
  aeadSeal key _ plaintext _ := .ok (key.toList ++ plaintext)
  aeadOpen key _ ciphertext _ :=
    if key.toList.isPrefixOf ciphertext then .ok (ciphertext.drop 32)
    else .error (.invalid "aead open: aead::Error")
  opens_sealed := by
    intro key nonce plaintext aad ciphertext sealed
    cases sealed
    simp
  deriveFediVaultKey key := key
  argon2 passphrase _ := .ok (Vector.replicate 32 (UInt8.ofNat passphrase.length))
  base64Error text := text

def bareCodec : ActorCodec Bytes where
  handle _ := "h"
  encode record := .ok record
  decode plaintext := .ok plaintext

def keyOf (passphrase : String) : MasterKey :=
  Vector.replicate 32 (UInt8.ofNat passphrase.length)

def quietKeychain : KeychainEnv := ⟨none, none, none, false, Vector.replicate 32 9⟩

def quietRekey : RekeyEnv :=
  ⟨"d", quietKeychain, quietKeychain, Vector.replicate 16 2, fun _ => Vector.replicate 12 0,
    fun _ => none⟩

def sealedFile (path : VaultPath) : Bytes :=
  let sealed := match path.family with
    | none => sealVault prefixSuite [7] (keyOf "a") kdfIdArgon2 (some (Vector.replicate 16 1))
        (Vector.replicate 12 0)
    | some family => sealFedi prefixSuite family (keyOf "a") [7] (Vector.replicate 12 0)
  sealed.toOption.getD []

theorem unlocks_sealedFile :
    resolveMasterKey prefixSuite quietRekey none (some (sealedFile .identity)) (some "a") =
        (.ok ⟨keyOf "a", kdfIdArgon2, some (Vector.replicate 16 1)⟩, none) ∧
      openVault prefixSuite (keyOf "a") (sealedFile .identity) = .ok [7] := by
  exact passphrase_unlocks prefixSuite quietRekey none "a" (Vector.replicate 16 1) _ [7] _
    (Vector.replicate 12 0) rfl rfl

def sealedStore (paths : List VaultPath) : VaultState :=
  ⟨paths.foldl (fun disk path => disk.insert path (sealedFile path)) ∅, none⟩

def switched (paths : List VaultPath) : Except ChatError Nat × VaultState :=
  rekeyTo prefixSuite bareCodec quietRekey (sealedStore paths) (some "a") (some "bb")

def visitedFiles : List VaultPath := [.identity, .conversation "g", .actorIdentity "h"]

theorem lookup_sealedStore (absent : path ∉ paths) :
    (sealedStore paths).disk.lookup path = none := by
  suffices kept : ∀ disk : Disk, disk.lookup path = none →
      (paths.foldl (fun disk path => disk.insert path (sealedFile path)) disk).lookup path =
        none from
    kept ∅ (AList.lookup_empty path)
  induction paths with
  | nil => exact fun disk missing => missing
  | cons first rest ih =>
    intro disk missing
    rw [List.mem_cons, not_or] at absent
    exact ih absent.2 _ ((AList.lookup_insert_ne absent.1).trans missing)

theorem filed_visitedFiles (handle : String) :
    Filed prefixSuite bareCodec (keyOf "a") handle
      ((sealedStore visitedFiles).disk.lookup (.actorIdentity handle)) := by
  intro plaintext opens
  by_cases same : handle = "h"
  · exact ⟨plaintext, rfl, same.symm, rfl⟩
  · rw [lookup_sealedStore (by simp [visitedFiles, same])] at opens
    exact (openFile_none _ _ _ _ opens).elim

theorem covered_visitedFiles :
    Covered prefixSuite (keyOf "a") (sealedStore visitedFiles).disk := by
  intro path plaintext unvisited
  have rekeyed : ∀ path ∈ visitedFiles, path.rekeyed = true := by decide
  have absent : path ∉ visitedFiles := by
    intro mem
    rw [rekeyed path mem] at unvisited
    cases unvisited
  rw [lookup_sealedStore absent]
  exact openFile_none _ _ _ _

theorem keysApart_visitedFiles :
    KeysApart prefixSuite (keyOf "a") (keyOf "bb") (sealedStore visitedFiles).disk := by
  intro path plaintext other opens reopens
  by_cases mem : path ∈ visitedFiles
  · have shut : ∀ path ∈ visitedFiles, (openFile prefixSuite (keyOf "bb") path
        ((sealedStore visitedFiles).disk.lookup path)).isOk = false := by decide +kernel
    have closed := shut path mem
    rw [reopens] at closed
    cases closed
  · rw [lookup_sealedStore mem] at opens
    exact openFile_none _ _ _ _ opens

theorem switch_covers_visitedFiles :
    (switched visitedFiles).1 = .ok 3 ∧
      ∀ path plaintext, openFile prefixSuite (keyOf "a") path
          ((sealedStore visitedFiles).disk.lookup path) = .ok plaintext →
        openFile prefixSuite (keyOf "bb") path ((switched visitedFiles).2.disk.lookup path) =
          .ok plaintext := by
  have count : (switched visitedFiles).1 = .ok 3 := by decide +kernel
  have done : switched visitedFiles = (.ok 3, (switched visitedFiles).2) := Prod.ext count rfl
  have covers := rekey_covers_store_iff prefixSuite bareCodec quietRekey (sealedStore visitedFiles)
    (switched visitedFiles).2 (some "a") (some "bb")
    ⟨keyOf "a", kdfIdArgon2, some (Vector.replicate 16 1)⟩
    ⟨keyOf "bb", kdfIdArgon2, some (Vector.replicate 16 2)⟩ none none 3 (sealedFile .identity)
    (by decide +kernel) (by decide +kernel) (by decide +kernel) keysApart_visitedFiles
    filed_visitedFiles done
  exact ⟨count, (covers.mpr covered_visitedFiles).1⟩

def forgottenFiles : List VaultPath :=
  [.localSigner, .lanStatic, .fediThreads "h", .fediLinks "h", .fediLikes "h", .bridgeConsent,
    .outbox]

/-- A switch that reports success leaves the files of the other components under the old key. -/
theorem switch_forgets_files :
    let before := (sealedStore (.identity :: forgottenFiles)).disk
    let after := (switched (.identity :: forgottenFiles)).2.disk
    (switched (.identity :: forgottenFiles)).1 = .ok 1 ∧
      ∀ path ∈ forgottenFiles,
        openFile prefixSuite (keyOf "a") path (before.lookup path) = .ok [7] ∧
        openFile prefixSuite (keyOf "a") path (after.lookup path) = .ok [7] ∧
        openFile prefixSuite (keyOf "bb") path (after.lookup path) =
          .error (.invalid "aead open: aead::Error") := by
  decide +kernel

end Fetchit.Vault
