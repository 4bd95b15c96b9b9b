import PortableSearch.Time.Calendar

/-! Yearly daylight-saving rules, written as the TZ environment variable is
(`CET-1CEST,M3.5.0,M10.5.0/3`): offsets count west of UTC, and each change falls at a local second
of its year (`Change.localSeconds`), daylight time running from one change to the other. -/

namespace PortableSearch.Zone

open PortableSearch.Time

/-- A local time type: its offset east of UTC in seconds, and whether it is daylight-saving
time. -/
structure LocalType where
  offset : Int
  daylight : Bool
  deriving Repr, DecidableEq, Inhabited

/-- The day of the year a change falls on. -/
inductive RuleDay where
  | julian (n : Nat)
  | ordinal (n : Nat)
  /-- Weekday `d`, 0 for Sunday, of week `w` of month `m`; week 5 is the last. -/
  | weekOfMonth (m w d : Nat)
  deriving Repr, DecidableEq, Inhabited

/-- A change between standard and daylight time: its day, and its time of day in seconds on the
clock in force before it. -/
structure Change where
  day : RuleDay
  time : Int := 7200
  deriving Repr, DecidableEq, Inhabited

structure Daylight where
  offset : Int
  start : Change
  stop : Change
  deriving Repr, DecidableEq, Inhabited

/-- A yearly rule: the standard offset east of UTC in seconds, and daylight-saving time if the
zone keeps it. -/
structure Rule where
  standard : Int
  daylight : Option Daylight := none
  deriving Repr, DecidableEq, Inhabited

/-- The day number of a rule day in year `y`. Week `w` of a month is the `w`-th time its weekday
occurs in it; week 5 is taken as the last when the month has only four. -/
def RuleDay.dayNumber (y : Int) : RuleDay → Int
  | .julian n => daysFromCivil y 1 1 + n - 1 + (if isLeapYear y ∧ n ≥ 60 then 1 else 0)
  | .ordinal n => daysFromCivil y 1 1 + n
  | .weekOfMonth m w d =>
    let first := daysFromCivil y m 1
    let firstWeekday := (weekdayOfDays first + 1) % 7
    let day := first + ((d + 7 - firstWeekday) % 7 : Nat) + 7 * ((w : Int) - 1)
    if day ≥ first + daysInMonth y m then day - 7 else day

/-- The local second of a change in year `y`: seconds since 1970-01-01T00:00 of its day and time
of day, on no particular clock. -/
def Change.localSeconds (c : Change) (y : Int) : Int :=
  c.day.dayNumber y * 86400 + c.time

/-- Whether second `t` lies from `start` up to `stop` within a year, wrapping round the new year
when `stop` comes first. -/
def withinYear (start stop t : Int) : Bool :=
  if start < stop then start ≤ t ∧ t < stop else !(stop ≤ t ∧ t < start)

/-- The offset in force under a rule at wall-clock second `t` of year `y`. One end of the span read
with the daylight offset moves by the saving, so that a stretch of wall-clock time that a change
skips or repeats counts on the side before the change, or after it when `fold` is set. -/
def Rule.offsetAtWall (r : Rule) (t y : Int) (fold : Bool) : Int :=
  match r.daylight with
  | none => r.standard
  | some d =>
    let saving := d.offset - r.standard
    let start := d.start.localSeconds y
    let stop := d.stop.localSeconds y
    let (start, stop) := if fold = decide (saving ≥ 0) then (start, stop - saving)
      else (start + saving, stop)
    if withinYear start stop t then d.offset else r.standard

/-- The offset in force under a rule at instant `t`, seconds since 1970-01-01T00:00 UTC, of UTC
year `y`, and whether the wall-clock time it gives is the second occurrence of that time. -/
def Rule.offsetAtInstant (r : Rule) (t y : Int) : Int × Bool :=
  match r.daylight with
  | none => (r.standard, false)
  | some d =>
    let saving := d.offset - r.standard
    let start := d.start.localSeconds y - r.standard
    let stop := d.stop.localSeconds y - d.offset
    let offset := if withinYear start stop t then d.offset else r.standard
    -- the overlap follows the change that turns the clock back
    let (lo, hi) := if saving > 0 then (stop, stop + saving) else (start, start - saving)
    (offset, decide (lo ≤ t ∧ t < hi))

def readNumber (cs : List Char) : Option (Nat × List Char) :=
  let digits := cs.takeWhile Char.isDigit
  if digits.isEmpty then none
  else some (digits.foldl (fun n c => n * 10 + (c.toNat - 48)) 0, cs.dropWhile Char.isDigit)

def readPart (cs : List Char) : Option (Nat × List Char) :=
  match cs with
  | ':' :: rest => readNumber rest
  | _ => some (0, cs)

def readClock (cs : List Char) : Option (Int × List Char) := do
  let (sign, cs) : Int × List Char := match cs with
    | '-' :: rest => (-1, rest)
    | '+' :: rest => (1, rest)
    | _ => (1, cs)
  let (h, cs) ← readNumber cs
  let (m, cs) ← readPart cs
  let (s, cs) ← readPart cs
  pure (sign * ((h * 3600 + m * 60 + s : Nat) : Int), cs)

def skipName (cs : List Char) : Option (List Char) :=
  match cs with
  | '<' :: rest =>
    match rest.dropWhile (· ≠ '>') with
    | _ :: more => some more
    | [] => none
  | _ =>
    let rest := cs.dropWhile Char.isAlpha
    if rest.length < cs.length then some rest else none

def expect (c : Char) (cs : List Char) : Option (List Char) :=
  match cs with
  | d :: rest => if d = c then some rest else none
  | [] => none

def readChange (cs : List Char) : Option (Change × List Char) := do
  let (day, cs) ← match cs with
    | 'M' :: rest => do
      let (m, rest) ← readNumber rest
      let (w, rest) ← readNumber (← expect '.' rest)
      let (d, rest) ← readNumber (← expect '.' rest)
      pure (RuleDay.weekOfMonth m w d, rest)
    | 'J' :: rest => do
      let (n, rest) ← readNumber rest
      pure (RuleDay.julian n, rest)
    | _ => do
      let (n, rest) ← readNumber cs
      pure (RuleDay.ordinal n, rest)
  match cs with
  | '/' :: rest => do
    let (time, rest) ← readClock rest
    pure ({ day, time }, rest)
  | _ => pure ({ day }, cs)

/-- The rule a TZ text states; none for a text that does not read, the empty one included. -/
def Rule.ofText (text : String) : Option Rule := do
  let cs ← skipName text.toList
  let (west, cs) ← readClock cs
  let standard := -west
  if cs.isEmpty then return { standard }
  let cs ← skipName cs
  let (offset, cs) := match readClock cs with
    | some (w, rest) => (-w, rest)
    | none => (standard + 3600, cs)
  let (start, cs) ← readChange (← expect ',' cs)
  let (stop, cs) ← readChange (← expect ',' cs)
  if cs.isEmpty then some { standard, daylight := some { offset, start, stop } } else none

example : Rule.ofText "CET-1CEST,M3.5.0,M10.5.0/3" =
    some { standard := 3600
           daylight := some { offset := 7200
                              start := { day := .weekOfMonth 3 5 0 }
                              stop := { day := .weekOfMonth 10 5 0, time := 10800 } } } := by
  decide +kernel
example : Rule.ofText "<+0545>-5:45" = some { standard := 20700 } := by decide +kernel
example : Rule.ofText "" = none := by decide +kernel
-- the last Sunday of March 2042 is March 30
example : RuleDay.dayNumber 2042 (.weekOfMonth 3 5 0) = daysFromCivil 2042 3 30 := by decide

end PortableSearch.Zone
