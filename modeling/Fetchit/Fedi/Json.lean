import Fetchit.Lib.Base64
import Fetchit.Lib.Text

/-! JSON documents and the URL view of the actor code. Objects are association
lists: `get` finds the first entry of a name and `insertEntry` replaces it. -/
namespace Fetchit.Fedi.Json
open Lib

/-- A number that is not an integer keeps its text. -/
inductive Value where
  | null
  | bool (value : Bool)
  | integer (value : Int)
  | decimal (text : String)
  | string (value : String)
  | array (items : List Value)
  | object (entries : List (String × Value))

def Value.get (value : Value) (name : String) : Option Value :=
  match value with
  | .object entries => entries.lookup name
  | _ => none

def Value.asStr : Value → Option String
  | .string text => some text
  | _ => none

def insertEntry (entries : List (String × Value)) (name : String) (value : Value) :
    List (String × Value) :=
  entries.filter (fun entry => entry.1 != name) ++ [(name, value)]

private theorem lookup_filter_ne (entries : List (String × Value)) (name other : String) :
    (entries.filter (fun entry => entry.1 != name)).lookup other =
      if other = name then none else entries.lookup other := by
  induction entries with
  | nil => simp
  | cons entry entries ih =>
    obtain ⟨key, value⟩ := entry
    by_cases hkey : key = name
    · subst hkey
      rw [List.filter_cons_of_neg (by simp), ih]
      by_cases hother : other = key
      · rw [if_pos hother, if_pos hother]
      · have hne : (other == key) = false := by simpa using hother
        rw [if_neg hother, if_neg hother, List.lookup_cons, hne]
    · have hkeep : (key != name) = true := by simpa using hkey
      by_cases hother : other = key
      · simp [hother, hkey]
      · have hne : (other == key) = false := by simpa using hother
        simp [hkeep, List.lookup_cons, hne, ih]

theorem lookup_insertEntry (entries : List (String × Value)) (name other : String)
    (value : Value) : (insertEntry entries name value).lookup other =
      if other = name then some value else entries.lookup other := by
  unfold insertEntry
  rw [List.lookup_append, lookup_filter_ne]
  by_cases h : other = name
  · simp [h]
  · have hne : (other == name) = false := by simpa using h
    simp [h, List.lookup_cons, hne]

/-- What the actor code reads of a parsed URL. -/
structure Url where
  asStr : String
  scheme : String
  hostStr : Option String
  port : Option Nat
  path : String
  deriving DecidableEq

/-- The parsers whose texts and refusals come from outside: the URL parser, and the
messages of the base64 and the structured decoder. -/
structure Parsers where
  parseUrl : String → Except String Url
  base64Error : String → String
  structError : Value → String

def decodeBytes (value : Value) : Option Bytes :=
  match value with
  | .string text => Base64.decode text
  | _ => none

def encodeBytes (bytes : Bytes) : Value := .string (Base64.encode bytes)

@[simp] theorem decodeBytes_encodeBytes (bytes : Bytes) :
    decodeBytes (encodeBytes bytes) = some bytes := by
  simp [decodeBytes, encodeBytes]

def decodeUnsigned (bound : Nat) (value : Value) : Option Nat :=
  match value with
  | .integer n => if 0 ≤ n ∧ n < bound then some n.toNat else none
  | _ => none

theorem decodeUnsigned_integer (h : n < bound) :
    decodeUnsigned bound (.integer n) = some n := by
  simp [decodeUnsigned, h]

end Fetchit.Fedi.Json
