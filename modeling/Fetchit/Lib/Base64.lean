import Fetchit.Lib.Bytes

/-! The standard padded base64 alphabet, with the strict decoder: padding is
required, stands only at the end, and the bits it leaves over are zero. -/
namespace Fetchit.Lib.Base64

def symbol (sextet : Nat) : Char :=
  if sextet < 26 then Char.ofNat (sextet + 65)
  else if sextet < 52 then Char.ofNat (sextet + 71)
  else if sextet < 62 then Char.ofNat (sextet - 4)
  else if sextet = 62 then '+'
  else '/'

def value (c : Char) : Option Nat :=
  let n := c.toNat
  if 65 ≤ n ∧ n ≤ 90 then some (n - 65)
  else if 97 ≤ n ∧ n ≤ 122 then some (n - 71)
  else if 48 ≤ n ∧ n ≤ 57 then some (n + 4)
  else if n = 43 then some 62
  else if n = 47 then some 63
  else none

private theorem value_symbol_fin : ∀ sextet : Fin 64, value (symbol sextet) = some sextet.val := by
  decide

private theorem symbol_ne_pad_fin : ∀ sextet : Fin 64, symbol sextet ≠ '=' := by
  decide

theorem value_symbol (h : sextet < 64) : value (symbol sextet) = some sextet :=
  value_symbol_fin ⟨sextet, h⟩

theorem symbol_ne_pad (h : sextet < 64) : symbol sextet ≠ '=' :=
  symbol_ne_pad_fin ⟨sextet, h⟩

def encodeChars : Bytes → List Char
  | [] => []
  | [a] => [symbol (a.toNat / 4), symbol (a.toNat % 4 * 16), '=', '=']
  | [a, b] =>
    [symbol (a.toNat / 4), symbol (a.toNat % 4 * 16 + b.toNat / 16),
      symbol (b.toNat % 16 * 4), '=']
  | a :: b :: c :: rest =>
    symbol (a.toNat / 4) :: symbol (a.toNat % 4 * 16 + b.toNat / 16) ::
      symbol (b.toNat % 16 * 4 + c.toNat / 64) :: symbol (c.toNat % 64) :: encodeChars rest

def decodeQuad (a b c d : Char) : Option Bytes := do
  let a ← value a
  let b ← value b
  let c ← value c
  let d ← value d
  some [UInt8.ofNat (a * 4 + b / 16), UInt8.ofNat (b % 16 * 16 + c / 4),
    UInt8.ofNat (c % 4 * 64 + d)]

def decodeLast (a b c d : Char) : Option Bytes :=
  if c = '=' ∧ d = '=' then do
    let a ← value a
    let b ← value b
    if b % 16 = 0 then some [UInt8.ofNat (a * 4 + b / 16)] else none
  else if d = '=' then do
    let a ← value a
    let b ← value b
    let c ← value c
    if c % 4 = 0 then
      some [UInt8.ofNat (a * 4 + b / 16), UInt8.ofNat (b % 16 * 16 + c / 4)]
    else none
  else decodeQuad a b c d

def decodeChars : List Char → Option Bytes
  | [] => some []
  | [a, b, c, d] => decodeLast a b c d
  | a :: b :: c :: d :: rest => do
      let head ← decodeQuad a b c d
      let tail ← decodeChars rest
      some (head ++ tail)
  | _ => none

def encode (bytes : Bytes) : String := String.ofList (encodeChars bytes)

def decode (text : String) : Option Bytes := decodeChars text.toList

private theorem ofNat_eq (byte : UInt8) {n : Nat} (h : n = byte.toNat) : UInt8.ofNat n = byte := by
  subst h
  simp

private theorem decodeQuad_symbols (a b c : UInt8) :
    decodeQuad (symbol (a.toNat / 4)) (symbol (a.toNat % 4 * 16 + b.toNat / 16))
      (symbol (b.toNat % 16 * 4 + c.toNat / 64)) (symbol (c.toNat % 64)) = some [a, b, c] := by
  have ha := a.toNat_lt
  have hb := b.toNat_lt
  have hc := c.toNat_lt
  unfold decodeQuad
  rw [value_symbol (by omega), value_symbol (by omega), value_symbol (by omega),
    value_symbol (by omega)]
  simp only [Option.bind_eq_bind, Option.bind_some, Option.some.injEq, List.cons.injEq, and_true]
  refine ⟨ofNat_eq a ?_, ofNat_eq b ?_, ofNat_eq c ?_⟩ <;> omega

private theorem decodeChars_cons (a b c : UInt8) (rest : List Char) :
    decodeChars (symbol (a.toNat / 4) :: symbol (a.toNat % 4 * 16 + b.toNat / 16) ::
        symbol (b.toNat % 16 * 4 + c.toNat / 64) :: symbol (c.toNat % 64) :: rest) =
      (decodeChars rest).map fun tail => a :: b :: c :: tail := by
  have hpad : symbol (c.toNat % 64) ≠ '=' := symbol_ne_pad (by omega)
  cases rest with
  | nil => simp [decodeChars, decodeLast, hpad, decodeQuad_symbols]
  | cons d rest =>
    rw [decodeChars, decodeQuad_symbols]
    · cases decodeChars (d :: rest) <;> rfl
    · simp

theorem decodeChars_encodeChars (bytes : Bytes) : decodeChars (encodeChars bytes) = some bytes := by
  induction bytes using encodeChars.induct with
  | case1 => rfl
  | case2 a =>
    have ha := a.toNat_lt
    simp only [encodeChars, decodeChars, decodeLast, and_self]
    rw [value_symbol (by omega), value_symbol (by omega)]
    have hzero : a.toNat % 4 * 16 % 16 = 0 := by omega
    simp only [Option.bind_eq_bind, Option.bind_some, hzero, if_true]
    rw [ofNat_eq a (by omega)]
  | case3 a b =>
    have ha := a.toNat_lt
    have hb := b.toNat_lt
    have hpad : symbol (b.toNat % 16 * 4) ≠ '=' := symbol_ne_pad (by omega)
    simp only [encodeChars, decodeChars, decodeLast, hpad, false_and, if_false]
    rw [value_symbol (by omega), value_symbol (by omega), value_symbol (by omega)]
    have hzero : b.toNat % 16 * 4 % 4 = 0 := by omega
    simp only [Option.bind_eq_bind, Option.bind_some, hzero, if_true]
    rw [ofNat_eq a (by omega), ofNat_eq b (by omega)]
  | case4 a b c rest ih =>
    rw [encodeChars, decodeChars_cons, ih]
    rfl

@[simp] theorem decode_encode (bytes : Bytes) : decode (encode bytes) = some bytes := by
  simp [decode, encode, decodeChars_encodeChars]

end Fetchit.Lib.Base64
