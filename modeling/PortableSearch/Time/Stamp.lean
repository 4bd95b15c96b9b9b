import PortableSearch.Time.Calendar

/-! Wall-clock readings and stamps. A `Reading` is a civil date with a time of day to the
microsecond, stored as a count of microseconds on its wall clock; a `Stamp` is a date-time as
documents carry it, with an optional fixed offset east of UTC. -/

namespace PortableSearch.Time

def microsPerDay : Int := 86400000000

def microsPerSecond : Int := 1000000

/-- A civil date and a time of day to the microsecond. -/
structure Reading where
  year : Int
  month : Nat
  day : Nat
  hour : Nat := 0
  minute : Nat := 0
  second : Nat := 0
  micro : Nat := 0
  deriving Repr, DecidableEq

def Reading.timeMicros (r : Reading) : Nat :=
  ((r.hour * 60 + r.minute) * 60 + r.second) * 1000000 + r.micro

/-- The wall-clock count of a reading: microseconds from 1970-01-01T00:00. -/
def Reading.toMicros (r : Reading) : Int :=
  daysFromCivil r.year r.month r.day * microsPerDay + (r.timeMicros : Int)

def Reading.ofMicros (t : Int) : Reading :=
  let rest := (t % microsPerDay).toNat
  let (y, m, d) := civilFromDays (t / microsPerDay)
  { year := y, month := m, day := d, hour := rest / 3600000000, minute := rest / 60000000 % 60,
    second := rest / 1000000 % 60, micro := rest % 1000000 }

def dayOf (t : Int) : Int := t / microsPerDay

def weekdayOf (t : Int) : Nat := weekdayOfDays (dayOf t)

def minMicros : Int := daysFromCivil 1 1 1 * microsPerDay

def maxMicros : Int := daysFromCivil 10000 1 1 * microsPerDay - 1

/-- A wall-clock count lies in years 1 to 9999. -/
def inRange (t : Int) : Bool := decide (minMicros ≤ t) && decide (t ≤ maxMicros)

def padNat (width n : Nat) : String :=
  let s := String.ofList (Nat.toDigits 10 n)
  String.ofList (List.replicate (width - s.length) '0') ++ s

def Reading.isoText (r : Reading) (sep : Char) : String :=
  padNat 4 r.year.toNat ++ "-" ++ padNat 2 r.month ++ "-" ++ padNat 2 r.day ++ sep.toString ++
    padNat 2 r.hour ++ ":" ++ padNat 2 r.minute ++ ":" ++ padNat 2 r.second ++
    (if r.micro = 0 then "" else "." ++ padNat 6 r.micro)

/-- Text of an offset of `off` microseconds east of UTC: a sign, hours and minutes, then seconds
and microseconds only when present. -/
def offsetText (off : Int) : String :=
  let a := off.natAbs
  let ss := a / 1000000 % 60
  let us := a % 1000000
  (if off < 0 then "-" else "+") ++ padNat 2 (a / 3600000000) ++ ":" ++ padNat 2 (a / 60000000 % 60) ++
    (if ss = 0 ∧ us = 0 then "" else ":" ++ padNat 2 ss ++ (if us = 0 then "" else "." ++ padNat 6 us))

/-- How a fixed offset shows as a time zone object: a time zone of the standard library, or the
zone of whole seconds that validation attaches to the date-times it reads from text or
timestamps. -/
inductive ZoneStyle where
  | timezone
  | seconds
  deriving Repr, DecidableEq

/-- A date-time as documents carry it: a wall-clock count and an optional fixed UTC offset,
both in microseconds. -/
structure Stamp where
  wall : Int
  offset : Option Int := none
  style : ZoneStyle := .timezone
  deriving Repr, DecidableEq

def Stamp.isoText (s : Stamp) (sep : Char := 'T') : String :=
  (Reading.ofMicros s.wall).isoText sep ++ (match s.offset with | some o => offsetText o | none => "")

/-- The instant of a stamp as microseconds since the epoch, a stamp without offset read as UTC. -/
def Stamp.utcMicros (s : Stamp) : Int := s.wall - s.offset.getD 0

end PortableSearch.Time
