import PortableSearch.Fault

/-! Moments and their arithmetic: a wall-clock time of some zone with the fold mark of a second
occurrence. Every operation that yields a moment checks that it stays within years 1 to 9999. -/

namespace PortableSearch

open PortableSearch.Time

/-- A wall-clock time: microseconds from 1970-01-01T00:00 on some zone's clock, and whether it
is the second occurrence of a clock time that the zone repeats. -/
structure Moment where
  wall : Int
  fold : Bool := false
  deriving Repr, DecidableEq, Inhabited

def Moment.checked (wall : Int) : Outcome Moment :=
  if inRange wall then .ok { wall } else .error .dateOutOfRange

/-- A moment moved by `d` microseconds on its clock; the result is a first occurrence. -/
def Moment.shift (m : Moment) (d : Int) : Outcome Moment := Moment.checked (m.wall + d)

/-- A duration of `d` microseconds, if it can be built: its days, rounded down, fit a 32-bit
word and are at most 999999999 either way. -/
def durationMicros (d : Int) : Outcome Int :=
  let days := d / microsPerDay
  if days < -int32Bound ∨ days ≥ int32Bound then .error (.overflow .int32)
  else if days.natAbs > 999999999 then .error (.durationOutOfRange days)
  else .ok d

def checkYear (year : Int) : Outcome Unit :=
  match Narrowing.check32 year with
  | some n => .error (.overflow n)
  | none => if year < 1 ∨ year > 9999 then .error (.yearOutOfRange year) else .ok ()

def splitMonths (months : Int) : Int × Int :=
  if months.natAbs > 11 then (months.tdiv 12, months.tmod 12) else (0, months)

/-- The year and month reached from `year` and `month` by adding `months`, at most a year either
way. -/
def carryMonth (year : Int) (month : Int) : Int × Int :=
  if month > 12 then (year + 1, month - 12)
  else if month < 1 then (year - 1, month + 12)
  else (year, month)

/-- A moment moved by `years`, `months` and then `days` on the calendar. The date of the month
reached keeps the day of the month, cut to the month's length; the result is a first
occurrence. -/
def Moment.addCalendar (m : Moment) (years months days : Int) : Outcome Moment := do
  let r := Reading.ofMicros m.wall
  let (carried, months) := splitMonths months
  let (year, month) := carryMonth (r.year + years + carried) (r.month + months)
  let month := month.toNat
  let day := min (daysInMonth year month) r.day
  checkYear year
  let replaced := ({ r with year, month, day } : Reading).toMicros
  let d ← durationMicros (days * microsPerDay)
  Moment.checked (replaced + d)

inductive TimeUnit where
  | year
  | month
  | week
  | day
  | hour
  | minute
  | second
  deriving Repr, DecidableEq, Inhabited

def TimeUnit.micros : TimeUnit → Int
  | .hour => 3600000000
  | .minute => 60000000
  | _ => 1000000

/-- The reading with every field below `u` at its least value; weeks are handled by the
caller, here they keep the date. -/
def Time.Reading.floor (r : Reading) : TimeUnit → Reading
  | .year => { r with month := 1, day := 1, hour := 0, minute := 0, second := 0, micro := 0 }
  | .month => { r with day := 1, hour := 0, minute := 0, second := 0, micro := 0 }
  | .week | .day => { r with hour := 0, minute := 0, second := 0, micro := 0 }
  | .hour => { r with minute := 0, second := 0, micro := 0 }
  | .minute => { r with second := 0, micro := 0 }
  | .second => { r with micro := 0 }

/-- The start of the unit that holds a moment: the week starts on Monday, reached first as a
first occurrence; every other unit keeps the fold mark. -/
def Moment.floor (m : Moment) (u : TimeUnit) : Outcome Moment := do
  let m ← if u = .week then m.shift (-(weekdayOf m.wall : Int) * microsPerDay) else pure m
  pure { m with wall := ((Reading.ofMicros m.wall).floor u).toMicros }

end PortableSearch
