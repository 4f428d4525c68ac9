import Mathlib.Data.List.Basic
import Mathlib.Tactic.Ring

/-! Byte strings, fixed-width big-endian integers and length-prefixed fields.
A concatenation of such fields determines every field. -/
namespace Fetchit.Lib

abbrev Bytes := List UInt8

def utf8 (text : String) : Bytes := text.toUTF8.data.toList

@[simp] theorem utf8_length (text : String) : (utf8 text).length = text.utf8ByteSize := by
  simp [utf8]

theorem utf8_injective (h : utf8 first = utf8 second) :
    first = second := by
  apply String.toByteArray_inj.mp
  apply ByteArray.ext
  exact Array.toList_inj.mp h

def bigEndian : Nat → Nat → Bytes
  | 0, _ => []
  | width + 1, value => UInt8.ofNat (value / 256 ^ width) :: bigEndian width value

@[simp] theorem bigEndian_length (width value : Nat) :
    (bigEndian width value).length = width := by
  induction width with
  | zero => rfl
  | succ width ih => simp [bigEndian, ih]

def readBigEndian (bytes : Bytes) : Nat :=
  bytes.foldl (fun acc byte => acc * 256 + byte.toNat) 0

private theorem foldl_bigEndian (width value acc : Nat) :
    (bigEndian width value).foldl (fun acc byte => acc * 256 + byte.toNat) acc =
      acc * 256 ^ width + value % 256 ^ width := by
  induction width generalizing acc with
  | zero => simp [bigEndian, Nat.mod_one]
  | succ width ih =>
    have hdigit : (UInt8.ofNat (value / 256 ^ width)).toNat = value / 256 ^ width % 256 := by
      simp
    have hsplit : value % 256 ^ (width + 1) =
        256 ^ width * (value / 256 ^ width % 256) + value % 256 ^ width := by
      rw [pow_succ, Nat.mod_mul, Nat.add_comm]
    simp only [bigEndian, List.foldl_cons, ih, hdigit, hsplit]
    ring

@[simp] theorem readBigEndian_bigEndian (width value : Nat) :
    readBigEndian (bigEndian width value) = value % 256 ^ width := by
  simp [readBigEndian, foldl_bigEndian]

variable {width : Nat}

theorem bigEndian_inj (hfirst : first < 256 ^ width)
    (hsecond : second < 256 ^ width) (h : bigEndian width first = bigEndian width second) :
    first = second := by
  have hread := congrArg readBigEndian h
  rwa [readBigEndian_bigEndian, readBigEndian_bigEndian, Nat.mod_eq_of_lt hfirst,
    Nat.mod_eq_of_lt hsecond] at hread

def lengthPrefixed (width : Nat) (field : Bytes) : Option Bytes :=
  if field.length < 256 ^ width then some (bigEndian width field.length ++ field) else none

theorem lengthPrefixed_eq_some :
    lengthPrefixed width field = some framed ↔
      field.length < 256 ^ width ∧ bigEndian width field.length ++ field = framed := by
  unfold lengthPrefixed
  split <;> simp_all

theorem lengthPrefixed_append_inj (hfirst : lengthPrefixed width first = some framed)
    (hsecond : lengthPrefixed width second = some framed') (h : framed ++ rest = framed' ++ rest') :
    first = second ∧ rest = rest' := by
  obtain ⟨hlt, rfl⟩ := lengthPrefixed_eq_some.mp hfirst
  obtain ⟨hlt', rfl⟩ := lengthPrefixed_eq_some.mp hsecond
  rw [List.append_assoc, List.append_assoc] at h
  obtain ⟨hlength, htail⟩ := List.append_inj h (by simp)
  exact List.append_inj htail (bigEndian_inj hlt hlt' hlength)

end Fetchit.Lib
