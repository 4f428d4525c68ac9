import Fetchit.Lib.Scan

/-! The `Date` header: the writer of the transport and the parser of the inboxes. A moment is
counted in nanoseconds since the epoch. -/
namespace Fetchit.Fedi.HttpDate
open Lib

def second : Nat := 1000000000

def dayNames : List String := ["Sun", "Mon", "Tue", "Wed", "Thu", "Fri", "Sat"]

def monthNames : List String :=
  ["Jan", "Feb", "Mar", "Apr", "May", "Jun", "Jul", "Aug", "Sep", "Oct", "Nov", "Dec"]

def civilFromDays (days : Nat) : Nat × Nat × Nat :=
  let z := days + 719468
  let era := z / 146097
  let doe := z - era * 146097
  let yoe := (doe - doe / 1460 + doe / 36524 - doe / 146096) / 365
  let y := yoe + era * 400
  let doy := doe - (365 * yoe + yoe / 4 - yoe / 100)
  let mp := (5 * doy + 2) / 153
  let d := doy - (153 * mp + 2) / 5 + 1
  let m := if mp < 10 then mp + 3 else mp - 9
  (if m ≤ 2 then y + 1 else y, m, d)

def formatImfFixdate (now : Nat) : String :=
  let secs := now / second
  let days := secs / 86400
  let secsOfDay := secs % 86400
  let hour := secsOfDay / 3600
  let minute := secsOfDay % 3600 / 60
  let (year, month, day) := civilFromDays days
  dayNames.getD ((days + 4) % 7) "" ++ ", " ++ Scan.padded 2 day ++ " " ++
    monthNames.getD (month - 1) "" ++ " " ++ Scan.padded 4 year ++ " " ++ Scan.padded 2 hour ++
    ":" ++ Scan.padded 2 minute ++ ":" ++ Scan.padded 2 (secsOfDay % 60) ++ " GMT"

/-- Days since the epoch, in the widths of the source: out-of-range years wrap. -/
def daysFromCivil (year : Int64) (month day : Nat) : Option UInt64 :=
  if month < 1 ∨ 12 < month ∨ day < 1 ∨ 31 < day then none
  else
    let y := if month ≤ 2 then year - 1 else year
    let era := if 0 ≤ y then y / 400 else (y - 399) / 400
    let yoe := (y - era * 400).toUInt64
    let mp := UInt64.ofNat (if 2 < month then month - 3 else month + 9)
    let doy := (153 * mp + 2) / 5 + UInt64.ofNat day - 1
    let doe := yoe * 365 + yoe / 4 - yoe / 100 + doy
    let days := era * 146097 + doe.toInt64 - 719468
    if days < 0 then none else some days.toUInt64

def stripZone (text : List Char) : Option (List Char) :=
  ((Scan.stripEndChars text " GMT".toList).orElse fun _ =>
    Scan.stripEndChars text " UTC".toList).orElse fun _ =>
      Scan.stripEndChars text " +0000".toList

def parseClock (hms : List Char) : Option UInt64 :=
  match Text.splitChars ':' hms with
  | [hour, minute, second] => do
      let hour ← Scan.parseUnsigned (2 ^ 64) hour
      let minute ← Scan.parseUnsigned (2 ^ 64) minute
      let second ← Scan.parseUnsigned (2 ^ 64) second
      some (UInt64.ofNat hour * 3600 + UInt64.ofNat minute * 60 + UInt64.ofNat second)
  | _ => none

/-- Neither the hour nor the minute nor the second is bounded by the parser. -/
def parseImfFixdate (text : String) : Option Nat := do
  let stripped ← stripZone (Scan.trimChars text.toList)
  let (_, rest) ← Scan.cutChars ", ".toList stripped
  match Scan.words rest with
  | [day, monthName, year, hms] => do
      let day ← Scan.parseUnsigned (2 ^ 32) day
      let year ← Scan.parseSigned year
      let clock ← parseClock hms
      let month ← monthNames.idxOf? (String.ofList monthName)
      let days ← daysFromCivil year (month + 1) day
      some ((days * 86400 + clock).toNat * second)
  | _ => none

example : formatImfFixdate (784111777 * second) = "Sun, 06 Nov 1994 08:49:37 GMT" := by
  decide +kernel

end Fetchit.Fedi.HttpDate
