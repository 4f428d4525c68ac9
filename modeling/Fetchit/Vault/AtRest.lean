import Fetchit.Chat.Types

/-! The files that the client seals under its master key. Chat files carry how the key was made
and are sealed under it directly; the fediverse files are sealed under a key derived from it. -/
namespace Fetchit.Chat

def ChatError.text : ChatError → String
  | .invalid reason => s!"invalid input: {reason}"
  | .io reason => s!"io: {reason}"
  | .messageTransport reason => s!"message transport: {reason}"
  | .sealedRequired caller =>
    s!"sealed envelope required: {caller} did not supply a prebuilt sealed envelope"
  | .noTransportAvailable => "no transport available for recipient"

end Fetchit.Chat

namespace Fetchit.Vault
open Lib Lib.Outcome Chat

abbrev MasterKey := Vector UInt8 32

abbrev Salt := Vector UInt8 16

/-- The primitives. What was sealed opens under the same key, nonce and associated data. -/
structure Suite where
  aeadSeal : MasterKey → Nonce → Bytes → Bytes → Except ChatError Bytes
  aeadOpen : MasterKey → Nonce → Bytes → Bytes → Except ChatError Bytes
  opens_sealed : ∀ {key nonce plaintext aad ciphertext},
    aeadSeal key nonce plaintext aad = .ok ciphertext →
      aeadOpen key nonce ciphertext aad = .ok plaintext
  deriveFediVaultKey : MasterKey → MasterKey
  argon2 : String → Salt → Except ChatError MasterKey
  base64Error : String → String

/-- Every file that a component of the client seals. -/
inductive VaultPath where
  | identity
  | localSigner
  | lanStatic
  | conversation (groupIdHex : String)
  | actorIdentity (handle : String)
  | fediThreads (handle : String)
  | fediLinks (handle : String)
  | fediLikes (handle : String)
  | bridgeConsent
  | outbox
  deriving DecidableEq

def VaultPath.display (root : String) : VaultPath → String
  | .identity => s!"{root}/identity.json.enc"
  | .localSigner => s!"{root}/local_signer.json.enc"
  | .lanStatic => s!"{root}/lan_static.json.enc"
  | .conversation groupIdHex => s!"{root}/conversations/{groupIdHex}.json.enc"
  | .actorIdentity handle => s!"{root}/fedi/{handle}.json.enc"
  | .fediThreads handle => s!"{root}/fedi/threads/{handle}.json.enc"
  | .fediLinks handle => s!"{root}/fedi/links/{handle}.json.enc"
  | .fediLikes handle => s!"{root}/fedi/likes/{handle}.json.enc"
  | .bridgeConsent => s!"{root}/bridge/consent.json.enc"
  | .outbox => s!"{root}/outbox/outbox.json.enc"

abbrev Disk := Map VaultPath Bytes

/-! Chat files: magic, how the key was made, salt, nonce, ciphertext. -/

def vaultMagic : Bytes := utf8 "FCV1"

theorem vaultMagic_length : vaultMagic.length = 4 := rfl

def argonSaltLen : Nat := 16

def aeadNonceLen : Nat := 12

def headerLen : Nat := 4 + 1 + argonSaltLen + aeadNonceLen

def vaultAad : Bytes := utf8 "lit/vault/v1"

def kdfIdKeychain : UInt8 := 0

def kdfIdArgon2 : UInt8 := 1

def slice (count start : Nat) (bytes : Bytes) : Vector UInt8 count :=
  Vector.ofFn fun i => bytes.getD (start + i) 0

def sealVault (suite : Suite) (plaintext : Bytes) (master : MasterKey) (kdfId : UInt8)
    (argonSalt : Option Salt) (nonce : Nonce) : Except ChatError Bytes := do
  let ciphertext ← suite.aeadSeal master nonce plaintext vaultAad
  let salt := argonSalt.getD (Vector.replicate 16 0)
  .ok (vaultMagic ++ [kdfId] ++ salt.toList ++ nonce.toList ++ ciphertext)

def openVault (suite : Suite) (master : MasterKey) (bytes : Bytes) : Except ChatError Bytes := do
  require (headerLen ≤ bytes.length) (.invalid "vault file too short")
  require (bytes.take 4 == vaultMagic) (.invalid "vault magic mismatch")
  suite.aeadOpen master (slice 12 (4 + 1 + argonSaltLen) bytes) (bytes.drop headerLen) vaultAad

def readKdfId (bytes : Bytes) : Except ChatError UInt8 := do
  require (5 ≤ bytes.length) (.io "failed to fill whole buffer")
  require (bytes.take 4 == vaultMagic) (.invalid "vault magic mismatch")
  .ok (bytes.getD 4 0)

def readArgonSalt (bytes : Bytes) : Except ChatError Salt := do
  require (4 + 1 + argonSaltLen ≤ bytes.length) (.io "failed to fill whole buffer")
  require (bytes.take 4 == vaultMagic) (.invalid "vault magic mismatch")
  require (bytes.getD 4 0 == kdfIdArgon2) (.invalid "vault is not passphrase-mode")
  .ok (slice 16 5 bytes)

/-! Fediverse files: magic, nonce, ciphertext. -/

def fediHeaderLen : Nat := 4 + aeadNonceLen

/-- A family of fediverse files has a magic and associated data of its own. -/
structure FediFamily where
  magic : Bytes
  aad : Bytes
  four : magic.length = 4

def vaultFamily : FediFamily := ⟨utf8 "FFV1", utf8 "fetchit-fedi-vault-v1", rfl⟩

def threadsFamily : FediFamily := ⟨utf8 "FFT1", utf8 "fetchit-fedi-threads-v1", rfl⟩

def linksFamily : FediFamily := ⟨utf8 "FFL1", utf8 "fetchit-fedi-links-v1", rfl⟩

def likesFamily : FediFamily := ⟨utf8 "FFL1", utf8 "fetchit-fedi-likes-v1", rfl⟩

def sealFedi (suite : Suite) (family : FediFamily) (master : MasterKey) (plaintext : Bytes)
    (nonce : Nonce) : Except ChatError Bytes := do
  let ciphertext ← suite.aeadSeal (suite.deriveFediVaultKey master) nonce plaintext family.aad
  .ok (family.magic ++ nonce.toList ++ ciphertext)

def openFedi (suite : Suite) (family : FediFamily) (master : MasterKey) (bytes : Bytes) :
    Except ChatError Bytes := do
  require (fediHeaderLen ≤ bytes.length) (.invalid "sealed store file too short")
  require (bytes.take 4 == family.magic) (.invalid "sealed store magic mismatch")
  suite.aeadOpen (suite.deriveFediVaultKey master) (slice 12 4 bytes) (bytes.drop fediHeaderLen)
    family.aad

def VaultPath.family : VaultPath → Option FediFamily
  | .actorIdentity _ => some vaultFamily
  | .fediThreads _ => some threadsFamily
  | .fediLinks _ => some linksFamily
  | .fediLikes _ => some likesFamily
  | _ => none

def readFile (file : Option Bytes) : Except ChatError Bytes :=
  okOr file (.io "No such file or directory (os error 2)")

def openFromPath (suite : Suite) (master : MasterKey) (file : Option Bytes) :
    Except ChatError Bytes := do
  let bytes ← readFile file
  openVault suite master bytes

def openFile (suite : Suite) (master : MasterKey) (path : VaultPath) (file : Option Bytes) :
    Except ChatError Bytes :=
  match path.family with
  | none => openFromPath suite master file
  | some family => do
      let bytes ← readFile file
      openFedi suite family master bytes

theorem openFile_none (suite : Suite) (master : MasterKey) (path : VaultPath) (plaintext : Bytes) :
    openFile suite master path none ≠ .ok plaintext := by
  intro opens
  unfold openFile at opens
  split at opens <;> cases opens

theorem openFile_chat (chat : path.family = none) (suite : Suite)
    (master : MasterKey) (file : Option Bytes) :
    openFile suite master path file = openFromPath suite master file := by
  unfold openFile
  rw [chat]

/-! Both formats put the nonce and the ciphertext behind a header of fixed length. -/

section Frame

variable {header : Bytes} {start : Nat} (offset : header.length = start) (nonce : Nonce)
  (ciphertext : Bytes)
include offset

theorem frame_length : start + 12 ≤ (header ++ nonce.toList ++ ciphertext).length := by
  simp [offset]

theorem frame_nonce : slice 12 start (header ++ nonce.toList ++ ciphertext) = nonce := by
  apply Vector.ext
  intro i hi
  subst offset
  simp only [slice, Vector.getElem_ofFn]
  rw [List.append_assoc, List.getD_eq_getElem?_getD, List.getElem?_append_right (by omega),
    List.getElem?_append_left (by simpa using hi)]
  simp [hi]

theorem frame_ciphertext :
    (header ++ nonce.toList ++ ciphertext).drop (start + 12) = ciphertext := by
  refine List.drop_left' ?_
  simp [offset]

theorem frame_magic (long : 4 ≤ start) :
    (header ++ nonce.toList ++ ciphertext).take 4 = header.take 4 := by
  rw [List.append_assoc, List.take_append_of_le_length (offset.symm ▸ long)]

end Frame

section Roundtrips

variable {suite : Suite} {plaintext bytes : Bytes} {master : MasterKey} {nonce : Nonce}

section
variable (written : sealVault suite plaintext master kdfId argonSalt nonce = .ok bytes)
include written

theorem openVault_written :
    ∃ ciphertext, suite.aeadSeal master nonce plaintext vaultAad = .ok ciphertext ∧
      ∀ key, openVault suite key bytes = suite.aeadOpen key nonce ciphertext vaultAad := by
  obtain ⟨ciphertext, sealed, rest⟩ := bind_eq_ok.mp written
  cases rest
  refine ⟨ciphertext, sealed, ?_⟩
  intro key
  have offset : (vaultMagic ++ [kdfId] ++
      (argonSalt.getD (Vector.replicate 16 0)).toList).length = 4 + 1 + argonSaltLen := by
    simp [vaultMagic_length, argonSaltLen]
  have long : headerLen ≤ (_ ++ nonce.toList ++ ciphertext).length :=
    frame_length offset nonce ciphertext
  unfold openVault
  rw [(require_eq_ok (u := ())).mpr (decide_eq_true long), frame_nonce offset]
  exact congrArg (suite.aeadOpen key nonce · vaultAad) (frame_ciphertext offset nonce ciphertext)

theorem openVault_sealVault :
    openVault suite master bytes = .ok plaintext := by
  obtain ⟨ciphertext, sealed, opens⟩ := openVault_written written
  rw [opens]
  exact suite.opens_sealed sealed

end

theorem readArgonSalt_frame (salt : Salt) (rest : Bytes) :
    readArgonSalt (vaultMagic ++ [kdfIdArgon2] ++ salt.toList ++ rest) = .ok salt := by
  have same : slice 16 5 (vaultMagic ++ [kdfIdArgon2] ++ salt.toList ++ rest) = salt := by
    apply Vector.ext
    intro i hi
    simp [slice, show vaultMagic = [70, 67, 86, 49] from rfl, Nat.add_comm 5 i,
      List.getElem?_append_left, hi]
  have long : 4 + 1 + argonSaltLen ≤
      (vaultMagic ++ [kdfIdArgon2] ++ salt.toList ++ rest).length := by
    simp [vaultMagic_length, argonSaltLen]
    omega
  unfold readArgonSalt
  rw [same, (require_eq_ok (u := ())).mpr (decide_eq_true long)]
  rfl

section
variable (written : sealFedi suite family master plaintext nonce = .ok bytes)
include written

theorem openFedi_written :
    ∃ ciphertext,
      suite.aeadSeal (suite.deriveFediVaultKey master) nonce plaintext family.aad =
        .ok ciphertext ∧
      ∀ key, openFedi suite family key bytes =
        suite.aeadOpen (suite.deriveFediVaultKey key) nonce ciphertext family.aad := by
  obtain ⟨ciphertext, sealed, rest⟩ := bind_eq_ok.mp written
  cases rest
  refine ⟨ciphertext, sealed, ?_⟩
  intro key
  have long : fediHeaderLen ≤ (family.magic ++ nonce.toList ++ ciphertext).length :=
    frame_length family.four nonce ciphertext
  have magic := frame_magic family.four nonce ciphertext (by decide)
  rw [List.take_of_length_le family.four.le] at magic
  unfold openFedi
  rw [(require_eq_ok (u := ())).mpr (decide_eq_true long),
    (require_eq_ok (u := ())).mpr (beq_iff_eq.mpr magic), frame_nonce family.four]
  exact congrArg (suite.aeadOpen _ nonce · family.aad)
    (frame_ciphertext family.four nonce ciphertext)

theorem openFedi_sealFedi :
    openFedi suite family master bytes = .ok plaintext := by
  obtain ⟨ciphertext, sealed, opens⟩ := openFedi_written written
  rw [opens]
  exact suite.opens_sealed sealed

end

end Roundtrips

end Fetchit.Vault
