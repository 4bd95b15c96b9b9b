/-! The proleptic Gregorian calendar on day numbers, day 0 being 1970-01-01, converted by whole
400-year eras so that both directions are exact for every year. -/

namespace PortableSearch.Time

def isLeapYear (y : Int) : Bool :=
  y % 4 == 0 && (y % 100 != 0 || y % 400 == 0)

def daysInMonth (y : Int) (m : Nat) : Nat :=
  match m with
  | 1 | 3 | 5 | 7 | 8 | 10 | 12 => 31
  | 4 | 6 | 9 | 11 => 30
  | 2 => if isLeapYear y then 29 else 28
  | _ => 0

/-- Day of the year, counted from March 1 = 0, of month `m` and day `d`. -/
def dayOfMarchYear (m d : Nat) : Nat :=
  (153 * (if m > 2 then m - 3 else m + 9) + 2) / 5 + d - 1

/-- The day number of a civil date: days from 1970-01-01 to (`y`, `m`, `d`). -/
def daysFromCivil (y : Int) (m d : Nat) : Int :=
  let y := if m ≤ 2 then y - 1 else y
  let era := y / 400
  let yoe := (y - era * 400).toNat
  let doe := yoe * 365 + yoe / 4 - yoe / 100 + dayOfMarchYear m d
  era * 146097 + doe - 719468

def civilFromDays (z : Int) : Int × Nat × Nat :=
  let z := z + 719468
  let era := z / 146097
  let doe := (z - era * 146097).toNat
  let yoe := (doe - doe / 1460 + doe / 36524 - doe / 146096) / 365
  let doy := doe - (365 * yoe + yoe / 4 - yoe / 100)
  let mp := (5 * doy + 2) / 153
  let d := doy - (153 * mp + 2) / 5 + 1
  let m := if mp < 10 then mp + 3 else mp - 9
  let y := (yoe : Int) + era * 400
  (if m ≤ 2 then y + 1 else y, m, d)

/-- The weekday of a day number, Monday = 0 through Sunday = 6 (1970-01-01 was a Thursday). -/
def weekdayOfDays (z : Int) : Nat :=
  ((z + 3) % 7).toNat

example : daysFromCivil 1970 1 1 = 0 := by decide
example : daysFromCivil 2014 11 18 = 16392 := by decide
example : civilFromDays 16392 = (2014, 11, 18) := by decide
example : civilFromDays (-719162) = (1, 1, 1) := by decide
example : weekdayOfDays 16392 = 1 := by decide

end PortableSearch.Time

namespace PortableSearch

/-! ## Narrowing integers to machine words -/

/-- How an integer failed to fit a machine word. -/
inductive Narrowing where
  | int32
  | int64
  | aboveInt32
  | belowInt32
  deriving Repr, DecidableEq, Inhabited

def Narrowing.message : Narrowing → String
  | .int32 => "Python int too large to convert to C int"
  | .int64 => "Python int too large to convert to C long"
  | .aboveInt32 => "signed integer is greater than maximum"
  | .belowInt32 => "signed integer is less than minimum"

def int32Bound : Int := 2147483648

def int64Bound : Int := 9223372036854775808

/-- Narrow an integer through a 64-bit word to a 32-bit one. -/
def Narrowing.check32 (n : Int) : Option Narrowing :=
  if n < -int64Bound ∨ n ≥ int64Bound then some .int64
  else if n ≥ int32Bound then some .aboveInt32
  else if n < -int32Bound then some .belowInt32
  else none

/-- Narrow an integer directly to a 32-bit word. -/
def Narrowing.direct32 (n : Int) : Option Narrowing :=
  if n < -int32Bound ∨ n ≥ int32Bound then some .int32 else none

end PortableSearch
