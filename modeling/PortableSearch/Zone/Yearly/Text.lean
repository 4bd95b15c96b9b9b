import PortableSearch.Zone.Yearly
import PortableSearch.Text.Classes

/-! Zones written as TZ texts such as `EST5EDT,M3.2.0,M11.1.0`, read leniently (`Yearly.ofText`):
names with offsets counted west, then two changes in the POSIX form or the older one of eight or
nine numbers. -/

namespace PortableSearch.Zone

open PortableSearch.Text (numeralValue? wholeValue?)

inductive TokenClass where
  | letters
  | digits
  | mark
  | other
  deriving DecidableEq

def tokenClass (c : Char) : TokenClass :=
  if ('a' ≤ c ∧ c ≤ 'z') ∨ ('A' ≤ c ∧ c ≤ 'Z') then .letters
  else if c.isDigit then .digits
  else if c = ',' ∨ c = ':' ∨ c = '.' then .mark
  else .other

/-- The tokens of a text as character lists: a character joins the token after it when both are
of one class and that class is not the marks. -/
def groupTokens : List Char → List (List Char)
  | [] => []
  | c :: rest =>
    match groupTokens rest with
    | (d :: ds) :: more =>
      if tokenClass c = tokenClass d ∧ tokenClass c ≠ .mark then (c :: d :: ds) :: more
      else [c] :: (d :: ds) :: more
    | more => [c] :: more

def tzTokens (s : String) : Array String :=
  ((groupTokens s.toList).map String.ofList).toArray

/-- A position among the tokens of a TZ text, with the positions read so far. -/
structure Cursor where
  tokens : Array String
  pos : Nat := 0
  used : List Nat := []

def Cursor.token? (c : Cursor) (k : Nat) : Option String := c.tokens[c.pos + k]?

def Cursor.take (c : Cursor) : Cursor := { c with pos := c.pos + 1, used := c.pos :: c.used }

def Cursor.skip (c : Cursor) : Cursor := { c with pos := c.pos + 1 }

def Cursor.readAll (c : Cursor) : Bool :=
  (List.range c.tokens.size).all fun k =>
    c.used.contains k || c.tokens[k]? == some "," || c.tokens[k]? == some ":"

/-- A time of day in seconds written `hhmm` as one token, `hh:mm`, or `hh` of at most two
characters, and `hh:mm:ss` where `seconds` allows it. -/
def readClockTokens (c : Cursor) (seconds : Bool) : Option (Int × Cursor) := do
  let t ← c.token? 0
  if t.length = 4 then
    let h ← numeralValue? (String.ofList (t.toList.take 2))
    let m ← numeralValue? (String.ofList (t.toList.drop 2))
    pure (h * 3600 + m * 60, c.take)
  else if c.token? 1 = some ":" then
    let h ← numeralValue? t
    let m ← numeralValue? (← c.token? 2)
    let c := c.take.skip
    if seconds ∧ c.token? 1 = some ":" then
      let c := c.take.skip
      let s ← numeralValue? (← c.token? 0)
      pure (h * 3600 + m * 60 + s, c.take)
    else pure (h * 3600 + m * 60, c.take)
  else if t.length ≤ 2 then
    let h ← numeralValue? t
    pure (h * 3600, c.take)
  else none

/-- An offset after a name, in seconds east of UTC: a clock time after an optional sign, which
counts west. -/
def readOffset (c : Cursor) : Option (Int × Cursor) := do
  let (sign, c) : Int × Cursor :=
    if c.token? 0 = some "+" then (-1, c.take)
    else if c.token? 0 = some "-" then (1, c.take)
    else (-1, c)
  let (value, c) ← readClockTokens c false
  pure (value * sign, c)

def endsName (t : String) : Bool :=
  t.any fun ch => ch.isDigit || ch = ':' || ch = ',' || ch = '-' || ch = '+'

def startsOffset (t : String) : Bool :=
  t = "+" || t = "-" ||
    match t.toList with
    | ch :: _ => ch.isDigit
    | [] => false

structure Head where
  standardName : Option String := none
  standardOffset : Option Int := none
  daylightName : Option String := none
  daylightOffset : Option Int := none
  deriving Inhabited

/-- Read a name, the standard one while none is read and else the daylight one, with the offset
after it if one starts there. Every token before the name's end counts as read. -/
def readName (c : Cursor) (h : Head) : Option (Head × Cursor) := do
  let names := (c.tokens.toList.drop c.pos).takeWhile (fun t => !endsName t)
  let stop := c.pos + names.length
  let standard := h.standardName.isNone
  let name := String.join names
  let h := if standard then { h with standardName := some name } else { h with daylightName := some name }
  let c := { c with pos := stop, used := List.range stop ++ c.used }
  match c.token? 0 with
  | some t =>
    if startsOffset t then
      let (o, c) ← readOffset c
      pure (if standard then { h with standardOffset := some o } else { h with daylightOffset := some o }, c)
    else pure (h, c)
  | none => pure (h, c)

/-- Read names until the daylight one is read, or the tokens end, or a token ends a name where one
should start; `fuel` bounds the names read. -/
def readHead : Nat → Head → Cursor → Option (Head × Cursor)
  | 0, h, c => some (h, c)
  | fuel + 1, h, c =>
    match c.token? 0 with
    | none => some (h, c)
    | some t =>
      if endsName t then some (h, c)
      else do
        let (h, c) ← readName c h
        if h.daylightName.isSome then pure (h, c) else readHead fuel h c

structure ChangeText where
  month : Option Nat := none
  week : Option Int := none
  weekday : Option Nat := none
  yearDay : Option Nat := none
  julianDay : Option Nat := none
  day : Option Nat := none
  time : Option Int := none
  deriving Inhabited

/-- A change in the older form: month, week (after an optional minus), weekday from 1 for Monday
or a day of the month when the week is zero, and seconds, each followed by a separator. -/
def readOlderChange (c : Cursor) : Option (ChangeText × Cursor) := do
  let month ← wholeValue? (← c.token? 0)
  let c := c.take.skip
  let (week, c) ← if c.token? 0 = some "-" then do
      let w ← wholeValue? (← c.token? 1)
      pure (-(w : Int), c.take)
    else do
      let w ← wholeValue? (← c.token? 0)
      pure ((w : Int), c)
  let c := c.take.skip
  let d ← wholeValue? (← c.token? 0)
  let x : ChangeText := if week ≠ 0 then { month, week, weekday := some ((d + 6) % 7) } else { month, day := some d }
  let c := c.take.skip
  let time ← wholeValue? (← c.token? 0)
  pure ({ x with time := some (time : Int) }, c.take.skip)

def isFieldMark (t : String) : Bool := t = "." || t = "-"

/-- A change in the POSIX form: its day, an optional time after `/`, and a comma or the end. -/
def readRuleChange (c : Cursor) : Option (ChangeText × Cursor) := do
  let t ← c.token? 0
  let (x, c) ← if t = "J" then do
      let c := c.take
      let n ← wholeValue? (← c.token? 0)
      pure ({ julianDay := some n }, c)
    else if t = "M" then do
      let c := c.take
      let month ← wholeValue? (← c.token? 0)
      let c := c.take
      if !isFieldMark (← c.token? 0) then none
      let c := c.take
      let week ← wholeValue? (← c.token? 0)
      let c := c.take
      if !isFieldMark (← c.token? 0) then none
      let c := c.take
      let d ← wholeValue? (← c.token? 0)
      pure ({ month := some month, week := some (if week = 5 then -1 else (week : Int)),
              weekday := some ((d + 6) % 7) }, c)
    else do
      let n ← wholeValue? t
      pure ({ yearDay := some (n + 1) }, c)
  let c := c.take
  let (x, c) ← if c.token? 0 = some "/" then do
      let (time, c) ← readClockTokens c.take true
      pure ({ x with time := some time }, c)
    else pure (x, c)
  match c.token? 0 with
  | none => pure (x, c.skip)
  | some t => if t = "," then pure (x, c.skip) else none

/-- What a TZ text states, with the tokens as read. -/
structure Reading where
  head : Head
  start : ChangeText := {}
  stop : ChangeText := {}
  saving : Option Int := none
  cursor : Cursor

def Cursor.semicolonsAsCommas (c : Cursor) : Cursor :=
  { c with tokens := (c.tokens.toList.take c.pos ++
      (c.tokens.toList.drop c.pos).map (fun t => if t = ";" then "," else t)).toArray }

def isOlderForm (rest : List String) : Bool :=
  rest.all fun t => t = "," || t.all (fun ch => ch.isDigit || ch = '+' || ch = '-')

def isRuleForm (rest : List String) : Bool :=
  rest.count "/" ≤ 2 &&
    rest.all fun t => [",", "/", "J", "M", ".", "-", ":"].contains t || t.all Char.isDigit

def readSaving (c : Cursor) : Option (Int × Cursor) := do
  let (sign, c) : Int × Cursor :=
    if c.token? 0 = some "-" then (-1, c.take)
    else if c.token? 0 = some "+" then (1, c.take)
    else (1, c)
  let v ← wholeValue? (← c.token? 0)
  pure ((v : Int) * sign, c.take)

/-- Read a TZ text; none when it does not read. -/
def readTzText (s : String) : Option Reading := do
  let (head, c) ← readHead 2 {} { tokens := tzTokens s }
  let c ← if c.pos < c.tokens.size then
      let c := c.semicolonsAsCommas
      if c.token? 0 = some "," then pure c.skip else none
    else pure c
  let rest := c.tokens.toList.drop c.pos
  let commas := c.tokens.toList.count ","
  if c.pos ≥ c.tokens.size then pure { head, cursor := c }
  else if 8 ≤ commas ∧ commas ≤ 9 ∧ isOlderForm rest then
    let (start, c) ← readOlderChange c
    let (stop, c) ← readOlderChange c
    if c.pos < c.tokens.size then
      let (saving, c) ← readSaving c
      pure { head, start, stop, saving := some saving, cursor := c }
    else pure { head, start, stop, cursor := c }
  else if commas = 2 ∧ isRuleForm rest then
    let (start, c) ← readRuleChange c
    let (stop, c) ← readRuleChange c
    if c.pos < c.tokens.size then none
    else pure { head, start, stop, cursor := c }
  else pure { head, cursor := c }

def monthDayOfYearDay (n : Nat) : Option (Nat × Nat) :=
  let ends := [31, 59, 90, 120, 151, 181, 212, 243, 273, 304, 334, 366]
  match (ends.zip (0 :: ends)).zipIdx.find? (fun ((last, _), _) => n ≤ last) with
  | some ((_, before), idx) => some (idx + 1, n - before)
  | none => none

def yearDayShift (n : Nat) (leapCounted : Bool) : Option YearShift :=
  if n = 0 then some {}
  else (monthDayOfYearDay n).map fun (month, day) =>
    { month := some month, day := some day, leapDays := if leapCounted ∧ n > 59 then -1 else 0 }

/-- The shift of a change: its day, or the default day of a change into daylight time (the first
Sunday of April) or out of it (the last Sunday of October), and its time, two in the morning by
default, read on the standard clock. `saving` is the daylight offset less the standard one, taken
off the time of a change out of daylight time. None for a day of the year past the 366th. -/
def ChangeText.toShift (x : ChangeText) (isEnd : Bool) (saving : Int) : Option YearShift := do
  let day : YearShift ← match x.month with
    | some m =>
      match x.weekday with
      | some wd =>
        let week := x.week.getD 0
        pure { month := some m, day := some (if week > 0 then 1 else 31), move := some ⟨wd, week⟩ }
      | none =>
        match x.day with
        | some d => pure (if d = 0 then { month := some m } else { month := some m, day := some d })
        | none => pure { month := some m }
    | none =>
      match x.yearDay, x.julianDay with
      | some n, _ => yearDayShift n true
      | none, some n => yearDayShift n false
      | none, none =>
        if isEnd then pure { month := some 10, day := some 31, move := some ⟨6, -1⟩ }
        else pure { month := some 4, day := some 1, move := some ⟨6, 1⟩ }
  let time := x.time.getD 7200
  pure { day with seconds := if isEnd then time - saving else time }

/-- The zone a TZ text names, none when the text names no zone. A text naming `GMT` or `UTC`
without a standard offset, or giving the older form's saving without one, fails. -/
def Yearly.ofText (s : String) : Outcome (Option Yearly) :=
  match readTzText s with
  | none => .ok none
  | some r =>
    if r.saving.isSome ∧ r.head.standardOffset.isNone then .error (.missingOffset "+")
    else if !r.cursor.readAll then .ok none
    else
      let daylightOffset := match r.saving with
        | some v => r.head.standardOffset.map (· + v)
        | none => r.head.daylightOffset
      let eastward := r.head.standardName = some "GMT" ∨ r.head.standardName = some "UTC"
      if eastward ∧ r.head.standardOffset.isNone then .error (.missingOffset "*=")
      else
        let standardOffset := if eastward then r.head.standardOffset.map (- ·) else r.head.standardOffset
        let standard := standardOffset.getD 0
        let daylight := match daylightOffset with
          | some d => d
          | none => if r.head.daylightName.isSome ∧ standardOffset.isSome then standard + 3600 else 0
        let plain : Yearly := { standard, daylight, changes := none }
        if r.head.daylightName.isNone then .ok (some plain)
        else
          match r.start.toShift false (daylight - standard) with
          | none => .ok none
          | some start =>
            if !start.isSet then .ok (some plain)
            else match r.stop.toShift true (daylight - standard) with
              | none => .ok none
              | some stop => .ok (some { plain with changes := some (start, stop) })

example : tzTokens "EST5EDT,M3.2.0/2:30" =
    #["EST", "5", "EDT", ",", "M", "3", ".", "2", ".", "0", "/", "2", ":", "30"] := by decide +kernel

end PortableSearch.Zone
