import Mathlib.Tactic.IntervalCases
import Fetchit.Relay.Inbox

/-! The relay's `Date` check with its arithmetic checked: a value that leaves the range of its
type, or of the system's clock, ends the request. The parser bounds the day by 31 in every month
and neither the hour nor the minute nor the second. -/
namespace Fetchit.Relay.DateSkew
open Lib Lib.Outcome Fedi.HttpDate Inbox

inductive Overflow where
  | arithmetic
  | systemTime
  deriving DecidableEq

def i64 (value : Int) : Except Overflow Int :=
  if -2 ^ 63 ≤ value ∧ value < 2 ^ 63 then .ok value else .error .arithmetic

def u64 (value : Nat) : Except Overflow Nat :=
  if value < 2 ^ 64 then .ok value else .error .arithmetic

structure DateFields where
  year : Int
  month : Nat
  day : Nat
  hour : Nat
  minute : Nat
  second : Nat
  deriving DecidableEq

def dateFields (text : String) : Option DateFields := do
  let stripped ← stripZone (Scan.trimChars text.toList)
  let (_, rest) ← Scan.cutChars ", ".toList stripped
  let [day, monthName, year, hms] := Scan.words rest | none
  let [hour, minute, second] := Text.splitChars ':' hms | none
  let day ← Scan.parseUnsigned (2 ^ 32) day
  let year ← Scan.parseSigned year
  let hour ← Scan.parseUnsigned (2 ^ 64) hour
  let minute ← Scan.parseUnsigned (2 ^ 64) minute
  let second ← Scan.parseUnsigned (2 ^ 64) second
  let month ← monthNames.idxOf? (String.ofList monthName)
  some ⟨year.toInt, month + 1, day, hour, minute, second⟩

/-- `era * 400` lies between 0 and `y`, or between `y - 399` and `y`. -/
def daysOfYear (y : Int) (doy : Nat) : Except Overflow (Option Nat) := do
  let shifted ← i64 (if 0 ≤ y then y else y - 399)
  let era := shifted.tdiv 400
  let yoe := (y - era * 400).toNat
  let doe := yoe * 365 + yoe / 4 - yoe / 100 + doy
  let days ← i64 (era * 146097)
  let days ← i64 (days + doe)
  let days ← i64 (days - 719468)
  .ok (if days < 0 then none else some days.toNat)

def daysFromCivil (year : Int) (month day : Nat) : Except Overflow (Option Nat) := do
  if month < 1 ∨ 12 < month ∨ day < 1 ∨ 31 < day then .ok none
  else
    let y ← i64 (if month ≤ 2 then year - 1 else year)
    daysOfYear y ((153 * (if 2 < month then month - 3 else month + 9) + 2) / 5 + day - 1)

def instant (fields : DateFields) : Except Overflow (Option Nat) := do
  let some days ← daysFromCivil fields.year fields.month fields.day | return none
  let days ← u64 (days * 86400)
  let hours ← u64 (fields.hour * 3600)
  let secs ← u64 (days + hours)
  let minutes ← u64 (fields.minute * 60)
  let secs ← u64 (secs + minutes)
  let secs ← u64 (secs + fields.second)
  if secs < 2 ^ 63 then return some (secs * second) else throw .systemTime

def parseImfFixdate (text : String) : Except Overflow (Option Nat) :=
  match dateFields text with
  | none => .ok none
  | some fields => instant fields

def checkDateSkew (date : String) (now maxSkew : Nat) :
    Except Overflow (Except DropReason Unit) := do
  let some parsed ← parseImfFixdate date | return .error .staleRequest
  let delta := if parsed > now then parsed - now else now - parsed
  return if delta > maxSkew then .error .staleRequest else .ok ()

def leap (year : Int) : Bool := year % 4 = 0 && (year % 100 ≠ 0 || year % 400 = 0)

def monthLength (year : Int) : Nat → Nat
  | 2 => if leap year then 29 else 28
  | 4 | 6 | 9 | 11 => 30
  | _ => 31

def yearLength (year : Int) : Nat := if leap year then 366 else 365

def daysBeforeYear : Nat → Nat
  | 0 => 0
  | n + 1 => daysBeforeYear n + yearLength (1970 + n)

def daysBeforeMonth (year : Int) : Nat → Nat
  | 0 => 0
  | m + 1 => daysBeforeMonth year m + monthLength year (m + 1)

/-- The seconds from the epoch to a civil time, counted by the lengths of years and months. -/
def civilSeconds (fields : DateFields) : Nat :=
  (daysBeforeYear (fields.year - 1970).toNat + daysBeforeMonth fields.year (fields.month - 1) +
    (fields.day - 1)) * 86400 + fields.hour * 3600 + fields.minute * 60 + fields.second

structure Civil (fields : DateFields) : Prop where
  year : 1970 ≤ fields.year
  month : 1 ≤ fields.month ∧ fields.month ≤ 12
  day : 1 ≤ fields.day ∧ fields.day ≤ monthLength fields.year fields.month
  hour : fields.hour < 24
  minute : fields.minute < 60
  second : fields.second ≤ 60

/-- The number of a day in the calendar without a first year; the epoch is day 0. -/
def dayNumber (fields : DateFields) : Int :=
  let y := if fields.month ≤ 2 then fields.year - 1 else fields.year
  let month := if 2 < fields.month then fields.month - 3 else fields.month + 9
  365 * y + y / 4 - y / 100 + y / 400 + ((153 * month + 2) / 5 + fields.day - 1 : Nat) - 719468

/-- The parser rejects the month or the day, or a time before the epoch whose day it can count. -/
def Rejected (fields : DateFields) : Prop :=
  (fields.month < 1 ∨ 12 < fields.month ∨ fields.day < 1 ∨ 31 < fields.day) ∨
    fields.year < 1970 ∧ -2 ^ 63 ≤ dayNumber fields

theorem daysBeforeYear_eq (n : Nat) : daysBeforeYear n + 719162 + (1969 + n) / 100 =
    365 * (1969 + n) + (1969 + n) / 4 + (1969 + n) / 400 := by
  induction n with
  | zero => rfl
  | succ n ih =>
    simp only [daysBeforeYear, yearLength, leap, Bool.and_eq_true, Bool.or_eq_true,
      decide_eq_true_eq]
    split <;> omega

theorem monthDays_eq (year : Int) (range : 1 ≤ month ∧ month ≤ 12) :
    daysBeforeMonth year (month - 1) + 306 =
      (153 * (if 2 < month then month - 3 else month + 9) + 2) / 5 +
        if 2 < month then yearLength year else 0 := by
  obtain ⟨low, high⟩ := range
  interval_cases month <;> simp [daysBeforeMonth, monthLength, yearLength]
  all_goals split <;> rfl

theorem i64_ok (low : -2 ^ 63 ≤ value) (high : value < 2 ^ 63) :
    i64 value = .ok value :=
  if_pos ⟨low, high⟩

theorem daysOfYear_eq {y doy : Nat} (late : 1969 ≤ y) (small : y < 2 ^ 40) (short : doy ≤ 400)
    (after : 719468 ≤ 365 * y + y / 4 + y / 400 + doy - y / 100) :
    daysOfYear y doy = .ok (some (365 * y + y / 4 + y / 400 + doy - y / 100 - 719468)) := by
  have quotient : (y : Int).tdiv 400 = (y / 400 : Nat) := rfl
  have quarters : y / 4 = 100 * (y / 400) + y % 400 / 4 := by omega
  have rest : ((y : Int) - (y / 400 : Nat) * 400).toNat = y % 400 := by omega
  unfold daysOfYear
  rw [if_pos (by omega), i64_ok (by omega) (by omega), ok_bind]
  simp only [quotient, rest]
  rw [i64_ok (by omega) (by omega), ok_bind, i64_ok (by omega) (by omega), ok_bind,
    i64_ok (by omega) (by omega), ok_bind, if_neg (by omega)]
  refine congrArg (fun days => Except.ok (some days)) ?_
  omega

theorem daysFromCivil_eq (civil : Civil fields) (clock : civilSeconds fields < 2 ^ 63) :
    daysFromCivil fields.year fields.month fields.day =
      .ok (some (daysBeforeYear (fields.year - 1970).toNat +
        daysBeforeMonth fields.year (fields.month - 1) + (fields.day - 1))) := by
  obtain ⟨n, year⟩ : ∃ n : Nat, fields.year = 1970 + n := by
    have := civil.year
    exact ⟨(fields.year - 1970).toNat, by omega⟩
  have range := civil.month
  have day := civil.day
  have years := daysBeforeYear_eq n
  have next := daysBeforeYear_eq (n + 1)
  rw [show 1969 + (n + 1) = 1970 + n by omega] at next
  have months := monthDays_eq (1970 + n) range
  have length : monthLength (1970 + n) fields.month ≤ 31 := by
    unfold monthLength
    split <;> (try split) <;> omega
  have since : ((1970 : Int) + n - 1970).toNat = n := by omega
  simp only [civilSeconds, year, since, daysBeforeYear] at clock next day ⊢
  generalize daysBeforeMonth (1970 + n) (fields.month - 1) = before at clock months ⊢
  unfold daysFromCivil
  rw [if_neg (by omega)]
  by_cases late : 2 < fields.month
  · have shift : (1970 : Int) + n = (1970 + n : Nat) := by omega
    simp only [if_pos late] at months ⊢
    rw [if_neg (by omega), i64_ok (by omega) (by omega), ok_bind, shift,
      daysOfYear_eq (by omega) (by omega) (by omega) (by omega)]
    refine congrArg (fun days => Except.ok (some days)) ?_
    omega
  · have shift : (1970 : Int) + n - 1 = (1969 + n : Nat) := by omega
    simp only [if_neg late] at months ⊢
    rw [if_pos (by omega), i64_ok (by omega) (by omega), ok_bind, shift,
      daysOfYear_eq (by omega) (by omega) (by omega) (by omega)]
    refine congrArg (fun days => Except.ok (some days)) ?_
    omega

theorem u64_ok (clock : total < 2 ^ 63) (le : value ≤ total) :
    u64 value = .ok value :=
  if_pos (Nat.lt_of_le_of_lt le (Nat.lt_trans clock (by decide)))

theorem instant_eq (civil : Civil fields) (clock : civilSeconds fields < 2 ^ 63) :
    instant fields = .ok (some (civilSeconds fields * second)) := by
  have days := daysFromCivil_eq civil clock
  unfold instant
  unfold civilSeconds at clock ⊢
  rw [days, ok_bind]
  dsimp only
  rw [u64_ok clock (by omega), ok_bind, u64_ok clock (by omega), ok_bind, u64_ok clock (by omega),
    ok_bind, u64_ok clock (by omega), ok_bind, u64_ok clock (by omega), ok_bind,
    u64_ok clock (by omega), ok_bind, if_pos clock]
  rfl

theorem i64_eq_ok :
    i64 value = .ok result ↔ (-2 ^ 63 ≤ value ∧ value < 2 ^ 63) ∧ value = result := by
  unfold i64
  split <;> simp_all

theorem daysOfYear_eq_none {y : Int} {doy : Nat} (short : doy ≤ 400) :
    let total := 365 * y + y / 4 - y / 100 + y / 400 + doy - 719468
    (do daysOfYear (← i64 y) doy) = .ok none ↔ total < 0 ∧ -2 ^ 63 ≤ total := by
  intro total
  have era : (if 0 ≤ y then y else y - 399).tdiv 400 = y / 400 := by
    split
    · exact Int.tdiv_eq_ediv_of_nonneg ‹_›
    · rw [show y - 399 = -(399 - y) by omega, Int.neg_tdiv,
        Int.tdiv_eq_ediv_of_nonneg (by omega)]
      omega
  have yoe : ((y - y / 400 * 400).toNat : Int) = y - y / 400 * 400 := by omega
  have doe : (365 * y + y / 4 - y / 100 + y / 400 : Int) = y / 400 * 146097 +
      ((y - y / 400 * 400).toNat * 365 + (y - y / 400 * 400).toNat / 4 -
        (y - y / 400 * 400).toNat / 100 : Nat) := by omega
  unfold daysOfYear
  simp only [bind_eq_ok, i64_eq_ok]
  constructor
  · rintro ⟨_, ⟨_, rfl⟩, _, ⟨_, rfl⟩, _, ⟨_, rfl⟩, _, ⟨_, rfl⟩, _, ⟨range, rfl⟩, done⟩
    rw [era] at range done
    split at done
    · omega
    · cases done
  · rintro ⟨negative, low⟩
    refine ⟨y, ⟨by omega, rfl⟩, _, ⟨by split <;> omega, rfl⟩, _, ⟨?_, rfl⟩, _, ⟨?_, rfl⟩, _,
      ⟨?_, rfl⟩, ?_⟩
    all_goals rw [era]
    · omega
    · omega
    · omega
    · exact congrArg Except.ok (if_pos (by omega))

/-- 477 leap days precede the epoch. -/
theorem leapDays_le (y : Int) :
    (1969 ≤ y → 477 ≤ y / 4 - y / 100 + y / 400) ∧
      (y ≤ 1969 → y / 4 - y / 100 + y / 400 ≤ 477) := by
  have centuries : y / 100 = y / 4 / 25 := by omega
  omega

theorem daysFromCivil_eq_none (fields : DateFields) :
    daysFromCivil fields.year fields.month fields.day = .ok none ↔ Rejected fields := by
  unfold daysFromCivil Rejected
  split
  · exact iff_of_true rfl (.inl ‹_›)
  · rename_i real
    have short : (153 * (if 2 < fields.month then fields.month - 3 else fields.month + 9) + 2) / 5 +
        fields.day - 1 ≤ 400 := by split <;> omega
    refine (daysOfYear_eq_none short).trans ?_
    rw [or_iff_right real]
    refine and_congr_left fun _ => ?_
    by_cases winter : fields.month ≤ 2
    · rw [if_pos winter, if_neg (by omega)]
      have leaps := leapDays_le (fields.year - 1)
      omega
    · rw [if_neg winter, if_pos (by omega)]
      have leaps := leapDays_le fields.year
      omega

theorem instant_eq_none : instant fields = .ok none ↔ Rejected fields := by
  rw [← daysFromCivil_eq_none]
  unfold instant
  cases daysFromCivil fields.year fields.month fields.day with
  | error fault => simp [bind, Except.bind]
  | ok found =>
    cases found with
    | none => exact iff_of_true rfl rfl
    | some days =>
      simp only [ok_bind, bind_eq_ok]
      refine iff_of_false ?_ nofun
      rintro ⟨_, _, _, _, _, _, _, _, _, _, _, _, none⟩
      split at none <;> cases none

/-- Nothing overflows, and what is accepted is a real time and is read as that time. -/
def ReadExactly (date : String) (now maxSkew : Nat) : Prop :=
  (∃ parsed, parseImfFixdate date = .ok parsed ∧ ∀ instant ∈ parsed, ∃ fields,
    dateFields date = some fields ∧ Civil fields ∧ instant = civilSeconds fields * second) ∧
  ∃ verdict, checkDateSkew date now maxSkew = .ok verdict

theorem secs_of_instant (read : instant fields = .ok (some time)) :
    ∃ secs < 2 ^ 63, time = secs * second := by
  simp only [instant, bind_eq_ok] at read
  obtain ⟨found, _, rest⟩ := read
  cases found with
  | none => cases rest
  | some days =>
    simp only [bind_eq_ok] at rest
    obtain ⟨_, _, _, _, _, _, _, _, _, _, secs, _, done⟩ := rest
    split at done
    · cases done
      exact ⟨secs, ‹_›, rfl⟩
    · cases done

/-- A date is read exactly if and only if it is no date, or is rejected before its time is
computed, or names a real time from 1970 on within the system's clock. -/
theorem date_read_exactly_iff (date : String) (now maxSkew : Nat) :
    ReadExactly date now maxSkew ↔ ∀ fields ∈ dateFields date,
      Rejected fields ∨ Civil fields ∧ civilSeconds fields < 2 ^ 63 := by
  have verdict (parsed : Option Nat) (read : parseImfFixdate date = .ok parsed) :
      ∃ verdict, checkDateSkew date now maxSkew = .ok verdict := by
    unfold checkDateSkew
    rw [read, ok_bind]
    split <;> exact ⟨_, rfl⟩
  unfold ReadExactly
  cases named : dateFields date with
  | none =>
    have read : parseImfFixdate date = .ok none := by
      unfold parseImfFixdate
      rw [named]
    exact iff_of_true ⟨⟨none, read, nofun⟩, verdict none read⟩ nofun
  | some fields =>
    have read : parseImfFixdate date = instant fields := by
      unfold parseImfFixdate
      rw [named]
    constructor
    · rintro ⟨⟨parsed, ok, exactly⟩, _⟩ _ ⟨⟩
      rw [read] at ok
      cases parsed with
      | none => exact .inl (instant_eq_none.mp ok)
      | some time =>
        obtain ⟨_, ⟨⟩, civil, same⟩ := exactly time rfl
        obtain ⟨secs, clock, other⟩ := secs_of_instant ok
        refine .inr ⟨civil, ?_⟩
        rwa [Nat.eq_of_mul_eq_mul_right (by decide) (same.symm.trans other)]
    · intro real
      rcases real fields rfl with rejected | ⟨civil, clock⟩
      · have ok := read.trans (instant_eq_none.mpr rejected)
        exact ⟨⟨none, ok, nofun⟩, verdict none ok⟩
      · have ok := read.trans (instant_eq civil clock)
        refine ⟨⟨_, ok, ?_⟩, verdict _ ok⟩
        rintro _ ⟨⟩
        exact ⟨fields, rfl, civil, rfl⟩

/-- A day that does not exist at an hour that does not exist is accepted, and a large hour ends
the request at the addition to the system's epoch. -/
theorem unreal_date_accepted :
    parseImfFixdate "Sat, 31 Feb 2026 77:00:00 GMT" = .ok (some (1772773200 * second)) ∧
      checkDateSkew "Sat, 31 Feb 2026 77:00:00 GMT" (1772773200 * second) 0 = .ok (.ok ()) ∧
      checkDateSkew "Sat, 28 Feb 2026 3000000000000000:00:00 GMT" 0 0 = .error .systemTime := by
  decide +kernel

end Fetchit.Relay.DateSkew
