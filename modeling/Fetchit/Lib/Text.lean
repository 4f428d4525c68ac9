import Mathlib.Data.String.Basic
import Fetchit.Lib.Bytes

/-! Text helpers over the characters of a string: ASCII case, hexadecimal,
trimming, lines and quoting. -/
namespace Fetchit.Lib.Text

theorem repr_inj {first second : Nat} : first.repr = second.repr ↔ first = second := by
  refine ⟨fun same => ?_, congrArg _⟩
  have numbers := congrArg (fun text => Nat.ofDigitChars 10 (String.toList text) 0) same
  simp only [← Nat.toString_eq_repr, Nat.toString_eq_ofList_toDigits,
    String.toList_ofList] at numbers
  rwa [Nat.ofDigitChars_toDigits (by decide) (by decide),
    Nat.ofDigitChars_toDigits (by decide) (by decide)] at numbers

def asciiLower (text : String) : String := String.ofList (text.toList.map Char.toLower)

private theorem toLower_of_not_upper {c : Char} (h : ¬(c.val ≥ 'A'.val ∧ c.val ≤ 'Z'.val)) :
    c.toLower = c :=
  dif_neg h

private theorem toLower_toLower (c : Char) : c.toLower.toLower = c.toLower := by
  by_cases upper : c.val ≥ 'A'.val ∧ c.val ≤ 'Z'.val
  · apply toLower_of_not_upper
    rw [show c.toLower = _ from dif_pos upper]
    rintro ⟨_, low⟩
    have bounds : 65 ≤ c.val.toNat ∧ c.val.toNat ≤ 90 :=
      ⟨UInt32.le_iff_toNat_le.mp upper.1, UInt32.le_iff_toNat_le.mp upper.2⟩
    have shifted : (c.val + ('a'.val - 'A'.val)).toNat ≤ 90 := UInt32.le_iff_toNat_le.mp low
    have offset : ('a'.val - 'A'.val).toNat = 32 := rfl
    rw [UInt32.toNat_add] at shifted
    omega
  · rw [toLower_of_not_upper upper, toLower_of_not_upper upper]

@[simp] theorem asciiLower_asciiLower (text : String) :
    asciiLower (asciiLower text) = asciiLower text := by
  have twice : Char.toLower ∘ Char.toLower = Char.toLower := funext toLower_toLower
  unfold asciiLower
  rw [String.toList_ofList, List.map_map, twice]

def asciiUpper (text : String) : String := String.ofList (text.toList.map Char.toUpper)

def eqIgnoreAsciiCase (first second : String) : Bool := asciiLower first == asciiLower second

def startsWith (text start : String) : Bool := start.toList.isPrefixOf text.toList

def hexDigits : List Char :=
  ['0', '1', '2', '3', '4', '5', '6', '7', '8', '9', 'a', 'b', 'c', 'd', 'e', 'f']

def hexDigit (nibble : Nat) : Char := hexDigits.getD nibble '0'

def hexValue (c : Char) : Option Nat :=
  if hexDigits.contains c.toLower then some (hexDigits.idxOf c.toLower) else none

def isHexDigit (c : Char) : Bool := (hexValue c).isSome

def isLowerHexDigit (c : Char) : Bool := hexDigits.contains c

private theorem hexValue_hexDigit_fin :
    ∀ nibble : Fin 16, hexValue (hexDigit nibble) = some nibble.val := by
  decide

theorem hexValue_hexDigit (h : nibble < 16) :
    hexValue (hexDigit nibble) = some nibble :=
  hexValue_hexDigit_fin ⟨nibble, h⟩

def hexChars : Bytes → List Char
  | [] => []
  | byte :: rest => hexDigit (byte.toNat / 16) :: hexDigit (byte.toNat % 16) :: hexChars rest

def hexEncode (bytes : Bytes) : String := String.ofList (hexChars bytes)

private theorem hexDigit_fin : ∀ nibble : Fin 16, isLowerHexDigit (hexDigit nibble) = true ∧
    (hexDigit nibble).utf8Size = 1 ∧ (hexDigit nibble).toLower = hexDigit nibble := by
  decide

theorem utf8ByteSize_hexEncode (bytes : Bytes) :
    (hexEncode bytes).utf8ByteSize = 2 * bytes.length := by
  unfold hexEncode
  rw [String.utf8ByteSize_ofList]
  induction bytes with
  | nil => rfl
  | cons byte rest ih =>
    have hbyte := byte.toNat_lt
    have hhigh := (hexDigit_fin ⟨byte.toNat / 16, by omega⟩).2.1
    have hlow := (hexDigit_fin ⟨byte.toNat % 16, by omega⟩).2.1
    simp only [hexChars, String.utf8Len_cons, hhigh, hlow, List.length_cons]
    omega

@[simp] theorem asciiLower_hexEncode (bytes : Bytes) :
    asciiLower (hexEncode bytes) = hexEncode bytes := by
  unfold asciiLower hexEncode
  rw [String.toList_ofList]
  congr 1
  induction bytes with
  | nil => rfl
  | cons byte rest ih =>
    have hbyte := byte.toNat_lt
    have hhigh := (hexDigit_fin ⟨byte.toNat / 16, by omega⟩).2.2
    have hlow := (hexDigit_fin ⟨byte.toNat % 16, by omega⟩).2.2
    simp only [hexChars, List.map_cons, hhigh, hlow, ih]

theorem hexEncode_all_isHexDigit (bytes : Bytes) :
    (hexEncode bytes).toList.all isHexDigit = true := by
  unfold hexEncode
  rw [String.toList_ofList]
  induction bytes with
  | nil => rfl
  | cons byte rest ih =>
    have hbyte := byte.toNat_lt
    have hhigh : isHexDigit (hexDigit (byte.toNat / 16)) = true := by
      rw [isHexDigit, hexValue_hexDigit (by omega), Option.isSome_some]
    have hlow : isHexDigit (hexDigit (byte.toNat % 16)) = true := by
      rw [isHexDigit, hexValue_hexDigit (by omega), Option.isSome_some]
    simp only [hexChars, List.all_cons, hhigh, hlow, ih, Bool.and_self]

def unhexChars : List Char → Option Bytes
  | [] => some []
  | [_] => none
  | high :: low :: rest => do
      let high ← hexValue high
      let low ← hexValue low
      let tail ← unhexChars rest
      some (UInt8.ofNat (high * 16 + low) :: tail)

def hexDecode (text : String) : Option Bytes := unhexChars text.toList

theorem unhexChars_hexChars (bytes : Bytes) : unhexChars (hexChars bytes) = some bytes := by
  induction bytes with
  | nil => rfl
  | cons byte rest ih =>
    have hbyte := byte.toNat_lt
    have hjoin : byte.toNat / 16 * 16 + byte.toNat % 16 = byte.toNat := by omega
    rw [hexChars, unhexChars, hexValue_hexDigit (by omega), hexValue_hexDigit (by omega), ih]
    simp only [Option.bind_eq_bind, Option.bind_some, hjoin, UInt8.ofNat_toNat]

@[simp] theorem hexDecode_hexEncode (bytes : Bytes) : hexDecode (hexEncode bytes) = some bytes := by
  simp [hexDecode, hexEncode, unhexChars_hexChars]

theorem hexValue_eq_some (h : hexValue c = some value) :
    value < 16 ∧ c.toLower = hexDigit value := by
  unfold hexValue at h
  split at h
  · rename_i mem
    cases h
    have lt := List.idxOf_lt_length_iff.mpr (List.contains_iff_mem.mp mem)
    exact ⟨lt, by simp [hexDigit, List.getElem?_eq_getElem lt]⟩
  · cases h

theorem asciiLower_of_hexDecode (h : hexDecode text = some bytes) :
    asciiLower text = hexEncode bytes := by
  have chars : ∀ (chars : List Char) (bytes : Bytes), unhexChars chars = some bytes →
      chars.map Char.toLower = hexChars bytes := by
    intro chars
    induction chars using unhexChars.induct with
    | case1 => simp [unhexChars, hexChars]
    | case2 => simp [unhexChars]
    | case3 high low rest ih =>
      intro bytes decoded
      simp only [unhexChars, Option.bind_eq_bind, Option.bind_eq_some_iff, Option.some.injEq]
        at decoded
      obtain ⟨h, highValue, l, lowValue, tail, restValue, rfl⟩ := decoded
      obtain ⟨hlt, hdigit⟩ := hexValue_eq_some highValue
      obtain ⟨llt, ldigit⟩ := hexValue_eq_some lowValue
      have byte : (UInt8.ofNat (h * 16 + l)).toNat = h * 16 + l := by simp; omega
      simp only [List.map_cons, hdigit, ldigit, ih tail restValue]
      congr 3 <;> omega
  exact congrArg String.ofList (chars _ _ h)

theorem hexEncode_injective (h : hexEncode first = hexEncode second) :
    first = second := by
  have hdecode := congrArg hexDecode h
  simpa using hdecode

/-- The Unicode `White_Space` property, which is what trimming strips. -/
def isWhitespace (c : Char) : Bool :=
  let n := c.toNat
  (9 ≤ n && n ≤ 13) || n = 0x20 || n = 0x85 || n = 0xA0 || n = 0x1680 ||
    (0x2000 ≤ n && n ≤ 0x200A) || n = 0x2028 || n = 0x2029 || n = 0x202F || n = 0x205F ||
    n = 0x3000

def trim (text : String) : String :=
  String.ofList ((text.toList.dropWhile isWhitespace).reverse.dropWhile isWhitespace).reverse

def trimEndMatches (text : String) (c : Char) : String :=
  String.ofList (text.toList.reverse.dropWhile (· == c)).reverse

def splitChars (separator : Char) : List Char → List (List Char)
  | [] => [[]]
  | c :: rest =>
    if c = separator then [] :: splitChars separator rest
    else match splitChars separator rest with
      | [] => [[c]]
      | first :: others => (c :: first) :: others

theorem splitChars_of_not_mem {separator : Char} {text : List Char} (plain : separator ∉ text) :
    splitChars separator text = [text] := by
  induction text with
  | nil => rfl
  | cons c rest ih =>
    rw [List.mem_cons, not_or] at plain
    rw [splitChars, if_neg (Ne.symm plain.1), ih plain.2]

def stripCarriageReturn (line : List Char) : List Char :=
  match line.reverse with
  | '\r' :: rest => rest.reverse
  | _ => line

/-- Lines end in `\n` or `\r\n`; a final terminator starts no further line. -/
def lines (text : String) : List String :=
  let split := splitChars '\n' text.toList
  let kept := match split.reverse with
    | [] :: rest => rest.reverse.map stripCarriageReturn
    | last :: rest => rest.reverse.map stripCarriageReturn ++ [last]
    | [] => []
  kept.map String.ofList

private def escapeChar (c : Char) : List Char :=
  match c with
  | '"' => ['\\', '"']
  | '\\' => ['\\', '\\']
  | '\n' => ['\\', 'n']
  | '\r' => ['\\', 'r']
  | '\t' => ['\\', 't']
  | c => [c]

/-- Debug quoting of a string; control characters beyond the common escapes are
kept as they are. -/
def quoted (text : String) : String :=
  String.ofList ('"' :: text.toList.flatMap escapeChar ++ ['"'])

end Fetchit.Lib.Text
