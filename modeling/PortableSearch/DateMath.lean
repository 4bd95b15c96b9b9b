import PortableSearch.Zone

/-! Date math: an instant relative to an anchor, `now` or a date before `||`, reached by steps that
add units (calendar units on the wall clock, clock units on the UTC time line) or round to one. A
step that does not read stops the evaluation only when it is reached. -/

namespace PortableSearch.DateMath

open PortableSearch.Time

/-- One step of an expression. -/
inductive Step where
  | add (amount : Int) (unit : TimeUnit)
  | round (unit : TimeUnit)
  deriving Repr, Inhabited

def unitOf? : Char → Option TimeUnit
  | 'y' => some .year
  | 'M' => some .month
  | 'w' => some .week
  | 'd' => some .day
  | 'h' | 'H' => some .hour
  | 'm' => some .minute
  | 's' => some .second
  | _ => none

/-- The value of an integer numeral of digit characters: decimal digits of any script, at most
4300 of them before any other digit. -/
def integerOf (cs : List Char) : Outcome Int :=
  let decimals := cs.takeWhile (fun c => (Text.decimalValue? c).isSome)
  if decimals.length > 4300 then .error (.tooManyDigits decimals.length)
  else if decimals.length < cs.length ∨ cs.isEmpty then .error (.invalidInteger (String.ofList cs))
  else .ok (decimals.foldl (fun n c => n * 10 + ((Text.decimalValue? c).getD 0 : Int)) 0)

/-- The step that an operator, an amount and a unit letter stand for; an unknown unit is reported
as `shown`, the code point written in its place. -/
def stepOf (expression : String) (op : Char) (amount : Option Int) (u : Char) (shown : Nat) :
    Except Fault Step :=
  if op = '/' then
    if amount.isSome then .error (.invalidDateMath expression .roundingAmount)
    else match unitOf? u with
      | some unit => .ok (.round unit)
      | none => .error (.invalidDateMath expression (.unknownUnit shown))
  else
    let n := amount.getD 1
    match unitOf? u with
    | some unit => .ok (.add (if op = '-' then -n else n) unit)
    | none => .error (.invalidDateMath expression (.unknownUnit shown))

/-- The steps of the text after the anchor, in order, and the failure that ends them, if the text
does not read to its end. -/
def steps (expression : String) : List Char → List Step × Option Fault
  | [] => ([], none)
  | op :: rest =>
    if op ≠ '+' ∧ op ≠ '-' ∧ op ≠ '/' then
      ([], some (.invalidDateMath expression (.unexpectedOperator (Text.headPoint (op :: rest)))))
    else
      let digits := rest.takeWhile Text.isDigitLike
      let amount : Outcome (Option Int) :=
        if digits.isEmpty then .ok none else (integerOf digits).map some
      match amount with
      | .error f => ([], some f)
      | .ok amount =>
        match _h : rest.dropWhile Text.isDigitLike with
        | [] => ([], some (.invalidDateMath expression .missingUnit))
        | u :: more =>
          match stepOf expression op amount u (Text.headPoint (u :: more)) with
          | .error f => ([], some f)
          | .ok step =>
            let (later, failure) := steps expression more
            (step :: later, failure)
termination_by cs => cs.length
decreasing_by
  have hle := (List.dropWhile_suffix (l := rest) Text.isDigitLike).length_le
  rw [_h] at hle
  simp only [List.length_cons] at hle ⊢
  omega

/-- A moment and the zone whose clock it is read on. -/
structure Zoned where
  zone : Zone
  moment : Moment
  deriving Inhabited

/-- Add `n` units: calendar units on the wall clock, a skipped time moved forward; clock units
on the UTC time line. -/
def Zoned.add (z : Zoned) (n : Int) (u : TimeUnit) : Outcome Zoned := do
  let calendar (years months days : Int) : Outcome Zoned := do
    let m ← z.moment.addCalendar years months days
    let m ← z.zone.resolveGap m
    pure { z with moment := m }
  match u with
  | .year => calendar n 0 0
  | .month => calendar 0 n 0
  | .week => calendar 0 0 (7 * n)
  | .day => calendar 0 0 n
  | _ =>
    let inUtc ← z.zone.convert z.moment .utc
    let d ← durationMicros (n * u.micros)
    let shifted ← inUtc.shift d
    let back ← Zone.utc.convert shifted z.zone
    pure { z with moment := back }

/-- Round down to the start of a unit, a skipped time moved forward; rounding up gives the last
millisecond of the unit, in UTC. -/
def Zoned.round (z : Zoned) (u : TimeUnit) (up : Bool) : Outcome Zoned := do
  let floor ← z.moment.floor u
  let floor ← z.zone.resolveGap floor
  let start : Zoned := { z with moment := floor }
  if up then
    let next ← start.add 1 u
    let inUtc ← next.zone.convert next.moment .utc
    let last ← inUtc.shift (-1000)
    pure { zone := .utc, moment := last }
  else pure start

def apply (z : Zoned) (up : Bool) : List Step → Outcome Zoned
  | [] => .ok z
  | .add n u :: rest => do
    let z ← z.add n u
    apply z up rest
  | .round u :: rest => do
    let z ← z.round u up
    apply z up rest

def zoneOfOffset (offset : Int) : Zone :=
  if offset = 0 then .utc else .fixed offset

/-- The anchor that a date text gives, read in `zone` when it names none. -/
def anchorOfDate (expression text : String) (zone : Zone) : Outcome Moment := do
  if Loose.isDigitText text ∧ text.length ≥ 9 then
    let millis ← integerOf text.toList
    let d ← durationMicros (millis * 1000)
    let m ← Moment.checked d
    Zone.utc.convert m zone
  else
    match Loose.read text with
    | .error .quotientTooLarge => throw .divisionImpossible
    | .error failure => throw (.invalidDateMath expression (.unreadableDate failure))
    | .ok stamp =>
      match stamp.offset with
      | none => zone.resolveGap { wall := stamp.wall }
      | some o => (zoneOfOffset o).convert { wall := stamp.wall } zone

def splitAnchorChars : List Char → List Char × List Char
  | [] => ([], [])
  | '|' :: '|' :: rest => ([], rest)
  | c :: rest =>
    let (date, math) := splitAnchorChars rest
    (c :: date, math)

def splitAnchor (text : String) : String × String :=
  let (date, math) := splitAnchorChars text.toList
  (String.ofList date, String.ofList math)

example : splitAnchor "a|||b||c" = ("a", "|b||c") := by decide
example : splitAnchor "2014-11-18" = ("2014-11-18", "") := by decide

/-- The instant of a date-math expression in milliseconds since the epoch, rounded down: `now` is
the date-time `now`, dates without a zone are read in `zone`, and `up` rounds up. -/
def evaluate (expression : String) (now : Stamp) (up : Bool) (zone : Zone) : Outcome Int := do
  let text := Text.strip expression
  if text.isEmpty then throw (.invalidDateMath expression .empty)
  let (anchor, math) ← if text.startsWith "now" then do
      let source := match now.offset with
        | some o => zoneOfOffset o
        | none => Zone.utc
      let m ← source.convert { wall := now.wall } zone
      pure (m, (text.drop 3).toString)
    else do
      let (date, math) := splitAnchor text
      let m ← anchorOfDate expression (Text.strip date) zone
      pure (m, math)
  let (todo, failure) := steps expression math.toList
  let z ← apply { zone, moment := anchor } up todo
  if let some f := failure then throw f
  let instant ← z.zone.instant z.moment
  pure (instant / 1000)

end PortableSearch.DateMath
