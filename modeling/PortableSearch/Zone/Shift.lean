import PortableSearch.Moment

/-! Calendar shifts within a year: a daylight-saving change of a TZ text is found by setting the
month and day of the first of January, adding days and a time of day, then moving to a weekday
(`YearShift.apply`). -/

namespace PortableSearch.Zone

open PortableSearch.Time

/-- A move to the `n`-th weekday `weekday` (0 for Monday) from a date: forward for positive `n`,
backward for negative `n`, the date itself counting; an `n` of zero counts as one. -/
structure WeekdayMove where
  weekday : Nat
  n : Int
  deriving Repr, DecidableEq, Inhabited

/-- A shift of the first of January of a year to a time of that year. -/
structure YearShift where
  month : Option Nat := none
  day : Option Nat := none
  leapDays : Int := 0
  seconds : Int := 0
  move : Option WeekdayMove := none
  deriving Repr, DecidableEq, Inhabited

def YearShift.isSet (s : YearShift) : Bool :=
  s.month.isSome || s.day.isSome || s.move.isSome || s.leapDays != 0 || s.seconds != 0

def orFirst : Option Nat → Nat
  | some n => if n = 0 then 1 else n
  | none => 1

/-- The days a move goes from a date on weekday `start` (0 for Monday): whole weeks for the
occurrences after the first, and the distance to the first occurrence, which is zero when the
date is on the weekday. -/
def WeekdayMove.days (w : WeekdayMove) (start : Nat) : Int :=
  let nth := if w.n = 0 then 1 else w.n
  let weeks : Int := ((nth.natAbs - 1 : Nat) : Int) * 7
  if nth > 0 then weeks + (7 - (start : Int) + w.weekday) % 7
  else -(weeks + ((start : Int) - w.weekday) % 7)

/-- The time of year `year` that a shift reaches from its first of January, microseconds from
1970-01-01T00:00. -/
def YearShift.apply (s : YearShift) (year : Int) : Outcome Int := do
  let month := orFirst s.month
  if month < 1 ∨ month > 12 then throw (.badMonth month)
  let day := min (daysInMonth year month) (orFirst s.day)
  let extra := if s.leapDays ≠ 0 ∧ month > 2 ∧ isLeapYear year then s.leapDays else 0
  let shifted ← Moment.checked
    ((daysFromCivil year month day + extra) * microsPerDay + s.seconds * microsPerSecond)
  match s.move with
  | none => pure shifted.wall
  | some w =>
    let moved ← shifted.shift (w.days (weekdayOf shifted.wall) * microsPerDay)
    pure moved.wall

-- the first Sunday of April 2024 is April 7, the last Sunday of October 2024 is October 27
example : (({ month := some 4, day := some 1, move := some ⟨6, 1⟩ } : YearShift).apply 2024) =
    .ok (daysFromCivil 2024 4 7 * microsPerDay) := by rfl
example : (({ month := some 10, day := some 31, move := some ⟨6, -1⟩ } : YearShift).apply 2024) =
    .ok (daysFromCivil 2024 10 27 * microsPerDay) := by rfl

end PortableSearch.Zone
