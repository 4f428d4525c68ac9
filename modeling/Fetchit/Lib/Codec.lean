import Mathlib.Logic.Equiv.List
import Fetchit.Lib.Bytes

/-! Codecs of self-delimiting values: a decoder reads one encoded value off the front of a byte
string and leaves the rest. -/
namespace Fetchit.Lib

structure Codec (α : Type*) where
  encode : α → Bytes
  decode : Bytes → Option (α × Bytes)
  decode_encode : ∀ value rest, decode (encode value ++ rest) = some (value, rest)

namespace Codec

private def decodeUnary : Bytes → Option (Nat × Bytes)
  | [] => none
  | byte :: rest =>
    if byte = 0 then some (0, rest)
    else (decodeUnary rest).map fun read => (read.1 + 1, read.2)

def unary : Codec Nat where
  encode n := List.replicate n 1 ++ [0]
  decode := decodeUnary
  decode_encode n rest := by
    induction n with
    | zero => rfl
    | succ n ih => simp_all [List.replicate_succ, decodeUnary]

noncomputable def ofCountable (α : Type*) [Countable α] : Codec α :=
  have := Encodable.ofCountable α
  { encode := fun value => unary.encode (Encodable.encode value)
    decode := fun bytes => (unary.decode bytes).bind fun read =>
      (Encodable.decode read.1).map fun value => (value, read.2)
    decode_encode := by simp [unary.decode_encode] }

end Codec

end Fetchit.Lib
