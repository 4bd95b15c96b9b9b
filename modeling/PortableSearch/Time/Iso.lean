import PortableSearch.Time.Stamp
import PortableSearch.Text.Literal

/-! Reading ISO 8601 date-times (`Stamp.ofIso`): calendar and week dates, a time after any one
separator character, and an optional offset. Where the date and time meet is found from the shape
of the first characters alone. -/

namespace PortableSearch.Time

def charAt (cs : Array Char) (i : Nat) : Char := cs[i]?.getD (Char.ofNat 0)

def digitsAt (cs : Array Char) (i n : Nat) : Option Nat :=
  (List.range n).foldl (fun acc k => acc.bind fun v =>
    let c := charAt cs (i + k)
    if c.isDigit then some (v * 10 + (c.toNat - 48)) else none) (some 0)

/-- Where the time starts (the separator's offset), found from the date's shape. -/
def separatorAt (cs : Array Char) : Option Nat :=
  let len := cs.size
  if len = 7 then some 7
  else if charAt cs 4 = '-' then
    if charAt cs 5 = 'W' then
      if len < 8 then none
      else if len > 8 ∧ charAt cs 8 = '-' then
        if len = 9 then none
        else if len > 10 ∧ (charAt cs 10).isDigit then some 8
        else some 10
      else some 8
    else some 10
  else if charAt cs 4 = 'W' then
    let idx := ((List.range (len - 7)).find? (fun k => !(charAt cs (7 + k)).isDigit)).map (· + 7) |>.getD len
    if idx < 9 then some idx
    else if idx % 2 = 0 then some 7 else some 8
  else some 8

def isoWeekOneMonday (year : Int) : Int :=
  let jan1 := daysFromCivil year 1 1
  let wd := weekdayOfDays jan1
  jan1 - wd + (if wd > 3 then 7 else 0)

/-- The civil date of an ISO week date, if the week and day exist. Year 0 has 52 weeks, whose
days all come before the calendar's first day: their date is given as month 0 of year 1, which
the range checks refuse for its month. -/
def isoWeekDate (year : Int) (week day : Nat) : Option (Int × Nat × Nat) :=
  if year = 0 then
    if week = 0 ∨ week > 52 ∨ day = 0 ∨ day > 7 then none else some (1, 0, day)
  else
  let wd := weekdayOfDays (daysFromCivil year 1 1)
  let longYear := wd = 3 ∨ (wd = 2 ∧ isLeapYear year)
  if (week = 0 ∨ week > 53) ∨ (week = 53 ∧ ¬longYear) then none
  else if day = 0 ∨ day > 7 then none
  else some (civilFromDays (isoWeekOneMonday year + ((week : Int) - 1) * 7 + (day : Int) - 1))

def isoDatePart (cs : Array Char) (len : Nat) : Option (Int × Nat × Nat) := do
  let year ← digitsAt cs 0 4
  let sep := charAt cs 4 = '-'
  let p := if sep then 5 else 4
  if charAt cs p = 'W' then
    let week ← digitsAt cs (p + 1) 2
    let q := p + 3
    if q < len then
      if sep ∧ charAt cs q ≠ '-' then none
      let day ← digitsAt cs (if sep then q + 1 else q) 1
      isoWeekDate year week day
    else isoWeekDate year week 1
  else
    let month ← digitsAt cs p 2
    let q := p + 2
    if sep ∧ charAt cs q ≠ '-' then none
    let day ← digitsAt cs (if sep then q + 1 else q) 2
    pure (year, month, day)

def clockFields (vals : List Nat) (micro : Nat) : Nat × Nat × Nat × Nat :=
  (vals.getD 0 0, vals.getD 1 0, vals.getD 2 0, micro)

/-- The fraction from `p` to `stop`: up to six digits read and scaled to microseconds, further
digits skipped; with the fields and whether something is left before the end of the text. -/
def clockFraction (cs : Array Char) (stop : Nat) (vals : List Nat) (p : Nat) :
    Option ((Nat × Nat × Nat × Nat) × Bool) := do
  let n := min (stop - p) 6
  let v ← digitsAt cs p n
  let skipped := ((List.range (cs.size - (p + n))).find? (fun k => !(charAt cs (p + n + k)).isDigit)).getD
    (cs.size - (p + n))
  pure (clockFields vals (v * Nat.pow 10 (6 - n)), charAt cs (p + n + skipped) ≠ Char.ofNat 0)

/-- Read `HH[:?MM[:?SS[.f]]]` from `p` to before `stop`, `fuel` fields still allowed: the
fields and whether something is left before the end of the text. A colon after the hour makes
colons required between the later fields. -/
def clockFrom (cs : Array Char) (stop : Nat) : Nat → Nat → Bool → List Nat →
    Option ((Nat × Nat × Nat × Nat) × Bool)
  | 0, p, _, vals => clockFraction cs stop vals p
  | fuel + 1, p, colons, vals => do
    let v ← digitsAt cs p 2
    let c := charAt cs (p + 2)
    let next := p + 3
    let colons := if vals.isEmpty then c = ':' else colons
    let vals := vals ++ [v]
    if next ≥ stop then pure (clockFields vals 0, c ≠ Char.ofNat 0)
    else if colons ∧ c = ':' then clockFrom cs stop fuel next colons vals
    else if c = '.' ∨ c = ',' then clockFraction cs stop vals next
    else if ¬colons then clockFrom cs stop fuel (next - 1) colons vals
    else none

def clockPart (cs : Array Char) (start stop : Nat) : Option ((Nat × Nat × Nat × Nat) × Bool) :=
  clockFrom cs stop 3 start true []

/-- The range checks of a date-time's fields, the first failing one's message. -/
def checkFields (year : Int) (month day hour minute second micro : Nat) : Option String :=
  if year < 1 ∨ year > 9999 then some ("year " ++ toString year ++ " is out of range")
  else if month < 1 ∨ month > 12 then some "month must be in 1..12"
  else if day < 1 ∨ day > daysInMonth year month then some "day is out of range for month"
  else if hour > 23 then some "hour must be in 0..23"
  else if minute > 59 then some "minute must be in 0..59"
  else if second > 59 then some "second must be in 0..59"
  else if micro > 999999 then some "microsecond must be in 0..999999"
  else none

def offsetRangeMessage : String :=
  "offset must be a timedelta strictly between -timedelta(hours=24) and timedelta(hours=24)"

/-- Read an ISO 8601 date-time. -/
def Stamp.ofIso (text : String) : Except String Stamp :=
  let cs := text.toList.toArray
  let invalid : Except String Stamp := .error ("Invalid isoformat string: " ++ Text.literal text)
  match separatorAt cs with
  | none => invalid
  | some sepAt =>
    match isoDatePart cs sepAt with
    | none => invalid
    | some (year, month, day) =>
      let timeStart := sepAt + 1
      let timePart : Option ((Nat × Nat × Nat × Nat) × Option Int) :=
        if cs.size ≤ sepAt then some ((0, 0, 0, 0), none)
        else
          let tzPos := ((List.range (cs.size - timeStart)).find? (fun k =>
            let c := charAt cs (timeStart + k)
            c = 'Z' ∨ c = '+' ∨ c = '-')).map (· + timeStart) |>.getD cs.size
          match clockPart cs timeStart tzPos with
          | none => none
          | some (fields, more) =>
            if tzPos = cs.size then (if more then none else some (fields, none))
            else if charAt cs tzPos = 'Z' then
              (if tzPos + 1 = cs.size then some (fields, some 0) else none)
            else
              let sign : Int := if charAt cs tzPos = '-' then -1 else 1
              match clockPart cs (tzPos + 1) cs.size with
              | some ((th, tm, ts, tus), false) =>
                -- an offset of no whole second is universal time, whatever its fraction
                let seconds := (th * 60 + tm) * 60 + ts
                some (fields, some (if seconds = 0 then 0 else sign * ((seconds * 1000000 + tus : Nat) : Int)))
              | _ => none
      match timePart with
      | none => invalid
      | some ((h, m, s, us), offset) =>
        match offset with
        | some o =>
          if o.natAbs ≥ 86400000000 then .error (offsetRangeMessage ++ ", not " ++ durationLiteral o ++ ".")
          else finish year month day h m s us offset
        | none => finish year month day h m s us none
where
  durationLiteral (d : Int) : String :=
    let days := d / microsPerDay
    let rest := d % microsPerDay
    let parts := (if days ≠ 0 then ["days=" ++ toString days] else []) ++
      (if rest / 1000000 ≠ 0 then ["seconds=" ++ toString (rest / 1000000)] else []) ++
      (if rest % 1000000 ≠ 0 then ["microseconds=" ++ toString (rest % 1000000)] else [])
    "datetime.timedelta(" ++ ", ".intercalate parts ++ ")"
  finish (year : Int) (month day h m s us : Nat) (offset : Option Int) : Except String Stamp :=
    match checkFields year month day h m s us with
    | some msg => .error msg
    | none => .ok { wall := ({ year, month, day, hour := h, minute := m, second := s, micro := us } : Reading).toMicros,
                    offset }

end PortableSearch.Time
