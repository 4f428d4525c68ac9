import Fetchit.Lib.Text

/-! Scanning a text from its left end: literal prefixes and suffixes, the first occurrence of a
separator, words, and decimal numbers of a given width. -/
namespace Fetchit.Lib.Scan

/-- What stands before and after the first occurrence of the pattern. -/
def cutChars (pattern : List Char) : List Char → Option (List Char × List Char)
  | [] => if pattern.isEmpty then some ([], []) else none
  | c :: rest =>
    if pattern.isPrefixOf (c :: rest) then some ([], (c :: rest).drop pattern.length)
    else (cutChars pattern rest).map fun parts => (c :: parts.1, parts.2)

def splitOnce (text separator : String) : Option (String × String) :=
  (cutChars separator.toList text.toList).map fun parts =>
    (String.ofList parts.1, String.ofList parts.2)

def stripStart (text start : String) : Option String :=
  if start.toList.isPrefixOf text.toList then
    some (String.ofList (text.toList.drop start.toList.length))
  else none

def stripEndChars (text tail : List Char) : Option (List Char) :=
  if tail.isSuffixOf text then some (text.take (text.length - tail.length)) else none

def stripEnd (text tail : String) : Option String :=
  (stripEndChars text.toList tail.toList).map String.ofList

def trimChars (text : List Char) : List Char :=
  ((text.dropWhile Text.isWhitespace).reverse.dropWhile Text.isWhitespace).reverse

private def wordChars : List Char → List (List Char)
  | [] => [[]]
  | c :: rest =>
    if Text.isWhitespace c then [] :: wordChars rest
    else match wordChars rest with
      | [] => [[c]]
      | first :: others => (c :: first) :: others

def words (text : List Char) : List (List Char) :=
  (wordChars text).filter fun word => !word.isEmpty

private def digitsValue (digits : List Char) : Option Nat :=
  if !digits.isEmpty && digits.all Char.isDigit then
    some (digits.foldl (fun acc c => acc * 10 + (c.toNat - 48)) 0)
  else none

def parseUnsigned (bound : Nat) (text : List Char) : Option Nat :=
  let digits := match text with
    | '+' :: rest => rest
    | chars => chars
  (digitsValue digits).filter fun value => value < bound

def parseSigned (text : List Char) : Option Int64 :=
  match text with
  | '-' :: digits =>
    ((digitsValue digits).filter fun value => value ≤ 2 ^ 63).map fun value =>
      Int64.ofInt (-value)
  | _ => (parseUnsigned (2 ^ 63) text).map fun value => Int64.ofInt value

def padded (width : Nat) (value : Nat) : String :=
  let digits := (toString value).toList
  String.ofList (List.replicate (width - digits.length) '0' ++ digits)

theorem stripEnd_eq_some :
    stripEnd text tail = some rest ↔ rest.toList ++ tail.toList = text.toList := by
  unfold stripEnd stripEndChars
  constructor
  · intro h
    split at h
    · rename_i ends
      obtain ⟨kept, split⟩ := List.isSuffixOf_iff_suffix.mp ends
      simp only [Option.map_some, Option.some.injEq] at h
      rw [← h, ← split]
      simp
    · cases h
  · intro split
    rw [← split, if_pos (List.isSuffixOf_iff_suffix.mpr (List.suffix_append _ _))]
    simp

end Fetchit.Lib.Scan
