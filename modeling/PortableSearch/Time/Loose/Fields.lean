import PortableSearch.Time.Loose.Token
import PortableSearch.Time.Calendar

/-! The fields of a loosely written date. Its tokens are read left to right into `Fields`
(`Walk.step`) and its date parts are then told apart (`DateParts.resolve`); fractions are taken in
decimal arithmetic of 28 significant digits. -/

namespace PortableSearch.Time.Loose

/-- A non-negative decimal number, `digits / 10 ^ scale`. -/
structure Dec where
  digits : Nat
  scale : Nat
  deriving Repr, DecidableEq, Inhabited

def Dec.unit (d : Dec) : Nat := Nat.pow 10 d.scale

def Dec.whole (d : Dec) : Nat := d.digits / d.unit

def Dec.hasFraction (d : Dec) : Bool := d.digits % d.unit != 0

def precision : Nat := 28

def digitCount (n : Nat) : Nat := (Nat.toDigits 10 n).length

def roundHalfEven (n k : Nat) : Nat :=
  let q := n / Nat.pow 10 k
  let r := n % Nat.pow 10 k
  if 2 * r > Nat.pow 10 k ∨ (2 * r = Nat.pow 10 k ∧ q % 2 = 1) then q + 1 else q

/-- A decimal number below `10 ^ precision` rounded to `precision` significant digits, a tie to
the even digit. -/
def Dec.rounded (d : Dec) : Dec :=
  let len := digitCount d.digits
  if len ≤ precision then d
  else ⟨roundHalfEven d.digits (len - precision), d.scale - (len - precision)⟩

inductive Stop where
  | unreadable
  /-- The fraction of a number was taken whose whole part has more digits than decimal
  arithmetic keeps. -/
  | quotientTooLarge
  deriving Repr, DecidableEq, Inhabited

instance : MonadLift Option (Except Stop) where
  monadLift
    | some a => .ok a
    | none => .error .unreadable

/-- The fractional part of a decimal number as decimal arithmetic takes the remainder by one:
exact, then rounded to `precision` digits, so that a fraction of more nines than that rounds to
one. It cannot be taken when the whole part has more than `precision` digits. -/
def Dec.fraction (d : Dec) : Except Stop Dec :=
  if d.whole ≥ Nat.pow 10 precision then .error .quotientTooLarge
  else .ok (Dec.rounded ⟨d.digits % d.unit, d.scale⟩)

/-- The whole sixtieths of a fraction `r`, as decimal arithmetic computes them: sixty times `r`
rounded to `precision` digits, then cut to a whole number. -/
def Dec.sixtieths (r : Dec) : Nat := (Dec.rounded ⟨60 * r.digits, r.scale⟩).whole

example : (Dec.fraction ⟨599999999999999999999999999999, 29⟩).toOption.map Dec.sixtieths = some 60 := by
  decide
example : (Dec.fraction ⟨55, 1⟩).toOption.map Dec.sixtieths = some 30 := by decide

def Dec.above (d : Dec) (n : Nat) : Bool := d.digits > n * d.unit

def Dec.within (d : Dec) (lo hi : Nat) : Bool := lo * d.unit ≤ d.digits && d.digits ≤ hi * d.unit

def Dec.ofNat (n : Nat) : Dec := ⟨n, 0⟩

def digitsValue? (cs : List Char) : Option Nat :=
  if cs.isEmpty then none
  else (cs.mapM Text.decimalValue?).map (·.foldl (fun n d => n * 10 + d) 0)

/-- The value of an integer numeral: decimal digits of any script, at most 4300 of them. -/
def wholeOf? (cs : List Char) : Option Nat :=
  if cs.length > 4300 then none else digitsValue? cs

def Dec.ofText? (s : String) : Option Dec :=
  match s.toList.splitOn '.' with
  | [w] => (digitsValue? w).map Dec.ofNat
  | [w, f] =>
    if w.isEmpty ∧ f.isEmpty then none
    else do
      let a ← if w.isEmpty then some 0 else digitsValue? w
      let b ← if f.isEmpty then some 0 else digitsValue? f
      pure ⟨a * Nat.pow 10 f.length + b, f.length⟩
  | _ => none

inductive Numeral where
  | finite (d : Dec)
  | nonFinite
  | none
  deriving Repr, Inhabited

def Numeral.ofToken (t : String) : Numeral :=
  match Dec.ofText? t with
  | some d => .finite d
  | Option.none =>
    let low := String.map Char.toLower t
    if low = "inf" ∨ low = "infinity" ∨ low = "nan" then .nonFinite else .none

def isDigitText (s : String) : Bool := !s.isEmpty && s.all Text.isDigitLike

def lower (s : String) : String := String.map Char.toLower s

def isJump (s : String) : Bool :=
  [" ", ".", ",", ";", "-", "/", "'", "at", "on", "and", "ad", "m", "t", "of", "st", "nd", "rd",
    "th"].contains (lower s)

def weekdayNamed (s : String) : Option Nat :=
  match lower s with
  | "mon" | "monday" => some 0
  | "tue" | "tuesday" => some 1
  | "wed" | "wednesday" => some 2
  | "thu" | "thursday" => some 3
  | "fri" | "friday" => some 4
  | "sat" | "saturday" => some 5
  | "sun" | "sunday" => some 6
  | _ => Option.none

def monthNamed (s : String) : Option Nat :=
  match lower s with
  | "jan" | "january" => some 1
  | "feb" | "february" => some 2
  | "mar" | "march" => some 3
  | "apr" | "april" => some 4
  | "may" => some 5
  | "jun" | "june" => some 6
  | "jul" | "july" => some 7
  | "aug" | "august" => some 8
  | "sep" | "sept" | "september" => some 9
  | "oct" | "october" => some 10
  | "nov" | "november" => some 11
  | "dec" | "december" => some 12
  | _ => Option.none

def unitOf (s : String) : Option Nat :=
  match lower s with
  | "h" | "hour" | "hours" => some 0
  | "m" | "minute" | "minutes" => some 1
  | "s" | "second" | "seconds" => some 2
  | _ => Option.none

def halfDayOf (s : String) : Option Nat :=
  match lower s with
  | "am" | "a" => some 0
  | "pm" | "p" => some 1
  | _ => Option.none

def isUtcZoneName (s : String) : Bool := ["utc", "gmt", "z"].contains (lower s)

def onFullClock (hour : Int) (half : Nat) : Int :=
  if hour < 12 ∧ half = 1 then hour + 12
  else if hour = 12 ∧ half = 0 then 0
  else hour

def pivotYear : Int := 2026

/-- A year of one or two digits placed within fifty years of `pivotYear`; a year written with its
century is kept. -/
def fullYear (year : Int) (century : Bool) : Int :=
  if year < 100 ∧ ¬century then
    let y := year + pivotYear / 100 * 100
    if y ≥ pivotYear + 50 then y - 100 else if y < pivotYear - 50 then y + 100 else y
  else year

/-- The fields read from a date text. -/
structure Fields where
  year : Option Int := none
  month : Option Int := none
  day : Option Int := none
  weekday : Option Nat := none
  hour : Option Int := none
  minute : Option Int := none
  second : Option Int := none
  micro : Option Int := none
  zoneName : Option String := none
  zoneOffset : Option Int := none
  halfDay : Option Nat := none
  century : Bool := false
  deriving Repr, Inhabited

def Fields.count (f : Fields) : Nat :=
  [f.year.isSome, f.month.isSome, f.day.isSome, f.weekday.isSome, f.hour.isSome, f.minute.isSome,
    f.second.isSome, f.micro.isSome, f.zoneName.isSome, f.zoneOffset.isSome,
    f.halfDay.isSome].count true

inductive Role where
  | year
  | month
  deriving Repr, DecidableEq, Inhabited

inductive Part where
  | text (s : String)
  | number (d : Dec)
  deriving Repr, Inhabited

structure DateParts where
  values : Array Int := #[]
  century : Bool := false
  yearAt : Option Nat := none
  monthAt : Option Nat := none
  deriving Repr, Inhabited

/-- Add a date part. A part of three digits or more, or a number above 100, is the year and
shows its century; a second year or month leaves the text unread. -/
def DateParts.push (p : DateParts) (part : Part) (role : Option Role) : Option DateParts := do
  let long := match part with
    | .text s => isDigitText s && s.length > 2
    | .number d => d.above 100
  let role ← if long then (if role = none ∨ role = some .year then some (some Role.year) else Option.none)
    else some role
  let v ← match part with
    | .text s => wholeOf? s.toList
    | .number d => some d.whole
  let p := { p with values := p.values.push v, century := p.century || long }
  match role with
  | some .month => if p.monthAt.isSome then Option.none else some { p with monthAt := some (p.values.size - 1) }
  | some .year => if p.yearAt.isSome then Option.none else some { p with yearAt := some (p.values.size - 1) }
  | Option.none => some p

/-- Whether a number may be the day: a day of the month named, if any, of the year given, if
any, else of a leap year. -/
def DateParts.mayBeDay (p : DateParts) (d : Dec) : Bool :=
  match p.monthAt with
  | Option.none => d.within 1 31
  | some mi =>
    let month := (p.values.getD mi 0).toNat
    let year := match p.yearAt with
      | some yi => p.values.getD yi 0
      | Option.none => 2000
    d.within 1 (daysInMonth year month)

/-- The year, month and day that the date parts stand for. -/
def DateParts.resolve (p : DateParts) : Option (Option Int × Option Int × Option Int) :=
  let v := p.values
  let n := v.size
  let get (i : Nat) : Int := v.getD i 0
  let known := (if p.yearAt.isSome then 1 else 0) + (if p.monthAt.isSome then 1 else 0)
  if (n = known ∧ known > 0) ∨ (n = 3 ∧ known = 2) then
    let day := if n = 3 then
        ((List.range 3).find? (fun k => some k ≠ p.yearAt ∧ some k ≠ p.monthAt)).map get
      else Option.none
    some (p.yearAt.map get, p.monthAt.map get, day)
  else if n > 3 then Option.none
  else if n = 1 ∨ (p.monthAt.isSome ∧ n = 2) then
    match p.monthAt with
    | some mi =>
      let other := if mi = 0 then get (n - 1) else get (mi - 1)
      if other > 31 then some (some other, some (get mi), Option.none)
      else some (Option.none, some (get mi), some other)
    | Option.none =>
      if get 0 > 31 then some (some (get 0), Option.none, Option.none)
      else some (Option.none, Option.none, some (get 0))
  else if n = 2 then
    if get 0 > 31 then some (some (get 0), some (get 1), Option.none)
    else if get 1 > 31 then some (some (get 1), some (get 0), Option.none)
    else some (Option.none, some (get 0), some (get 1))
  else if n = 3 then
    match p.monthAt with
    | some 0 =>
      if get 1 > 31 then some (some (get 1), some (get 0), some (get 2))
      else some (some (get 2), some (get 0), some (get 1))
    | some 1 =>
      if get 0 > 31 then some (some (get 0), some (get 1), some (get 2))
      else some (some (get 2), some (get 1), some (get 0))
    | some _ =>
      if get 1 > 31 then some (some (get 1), some (get 2), some (get 0))
      else some (some (get 0), some (get 2), some (get 1))
    | Option.none =>
      if get 0 > 31 ∨ p.yearAt = some 0 then some (some (get 0), some (get 1), some (get 2))
      else if get 0 > 12 then some (some (get 2), some (get 1), some (get 0))
      else some (some (get 2), some (get 0), some (get 1))
  else some (Option.none, Option.none, Option.none)

def secondsOf (cs : List Char) : Option (Int × Int) :=
  match cs.splitOn '.' with
  | [w] => do
    let s ← wholeOf? w
    pure (s, 0)
  | [w, f] => do
    let s ← wholeOf? w
    let us ← wholeOf? ((f ++ List.replicate (6 - f.length) '0').take 6)
    pure (s, us)
  | _ => Option.none

def minutesOf (d : Dec) : Except Stop (Int × Option Int) := do
  let r ← d.fraction
  pure (d.whole, if r.digits = 0 then Option.none else some (r.sixtieths : Int))

/-- Whether a token may name the zone: after the hour, before any zone, at most five capitals or
a name of universal time. -/
def mayBeZoneName (hour : Option Int) (name : Option String) (offset : Option Int) (t : String) :
    Bool :=
  hour.isSome && name.isNone && offset.isNone && t.length ≤ 5 &&
    (t.all (fun c => 'A' ≤ c && c ≤ 'Z') || ["UTC", "GMT", "Z", "z"].contains t)

/-- The tokens being read and the fields and date parts read so far. -/
structure Walk where
  tokens : Array String
  fields : Fields := {}
  parts : DateParts := {}
  deriving Inhabited

def Walk.at (w : Walk) (i : Nat) : String := w.tokens.getD i ""

def Walk.need (w : Walk) (i : Nat) : Option String := w.tokens[i]?

def Walk.unitAt (w : Walk) (i : Nat) : Option Nat :=
  let n := w.tokens.size
  if i + 1 < n ∧ (unitOf (w.at (i + 1))).isSome then some (i + 1)
  else if i + 2 < n ∧ w.at (i + 1) = " " ∧ (unitOf (w.at (i + 2))).isSome then some (i + 2)
  else if i > 0 ∧ (unitOf (w.at (i - 1))).isSome then some (i - 1)
  else if 1 < i ∧ i = n - 1 ∧ w.at (i - 1) = " " ∧ (unitOf (w.at (i - 2))).isSome then some (i - 2)
  else Option.none

def Fields.setUnit (f : Fields) (u : Nat) (d : Dec) (text : String) : Except Stop Fields :=
  match u with
  | 0 => do
    let r ← d.fraction
    pure { f with hour := some d.whole, minute := if r.digits = 0 then f.minute else some (r.sixtieths : Int) }
  | 1 => do
    let (minute, second) ← minutesOf d
    pure { f with minute := some minute, second }
  | 2 => do
    let (second, micro) ← secondsOf text.toList
    pure { f with second := some second, micro := some micro }
  | _ => pure f

def Walk.number (w : Walk) (i : Nat) (d : Dec) : Except Stop (Walk × Nat) := do
  let text := w.at i
  let cs := text.toList
  let len := cs.length
  let n := w.tokens.size
  let f := w.fields
  if w.parts.values.size = 3 ∧ (len = 2 ∨ len = 4) ∧ f.hour.isNone ∧
      (i + 1 ≥ n ∨ (w.at (i + 1) ≠ ":" ∧ (unitOf (w.at (i + 1))).isNone)) then
    let hour ← wholeOf? (cs.take 2)
    let minute : Option Int ←
      (if len = 4 then (wholeOf? (cs.drop 2)).map (some ·) else some f.minute : Option (Option Int))
    pure ({ w with fields := { f with hour := some hour, minute } }, i)
  else if len = 6 ∨ (len > 6 ∧ cs.idxOf '.' = 6) then
    if w.parts.values.isEmpty ∧ ¬cs.contains '.' then
      let p ← w.parts.push (.text (String.ofList (cs.take 2))) none
      let p ← p.push (.text (String.ofList ((cs.drop 2).take 2))) none
      let p ← p.push (.text (String.ofList (cs.drop 4))) none
      pure ({ w with parts := p }, i)
    else
      let hour ← wholeOf? (cs.take 2)
      let minute ← wholeOf? ((cs.drop 2).take 2)
      let (second, micro) ← secondsOf (cs.drop 4)
      pure ({ w with fields := { f with hour := some hour, minute := some minute,
                                        second := some second, micro := some micro } }, i)
  else if len = 8 ∨ len = 12 ∨ len = 14 then
    let p ← w.parts.push (.text (String.ofList (cs.take 4))) (some .year)
    let p ← p.push (.text (String.ofList ((cs.drop 4).take 2))) none
    let p ← p.push (.text (String.ofList ((cs.drop 6).take 2))) none
    let f ← if len > 8 then do
        let hour ← wholeOf? ((cs.drop 8).take 2)
        let minute ← wholeOf? ((cs.drop 10).take 2)
        let second : Option Int ←
          (if len > 12 then (wholeOf? (cs.drop 12)).map (some ·) else some f.second : Option (Option Int))
        pure { f with hour := some hour, minute := some minute, second }
      else pure f
    pure ({ w with parts := p, fields := f }, i)
  else match w.unitAt i with
  | some pos =>
    let (next, u) := if pos > i then (pos, unitOf (w.at pos)) else (i, (unitOf (w.at pos)).map (· + 1))
    let f ← match u with
      | some u => f.setUnit u d text
      | none => pure f
    pure ({ w with fields := f }, next)
  | none =>
  if i + 2 < n ∧ w.at (i + 1) = ":" then
    let m ← Dec.ofText? (w.at (i + 2))
    let (minute, second) ← minutesOf m
    let f := { f with hour := some d.whole, minute := some minute, second := second }
    if i + 4 < n ∧ w.at (i + 3) = ":" then
      let (second, micro) ← secondsOf (w.at (i + 4)).toList
      pure ({ w with fields := { f with second := some second, micro := some micro } }, i + 4)
    else pure ({ w with fields := f }, i + 2)
  else if i + 1 < n ∧ (w.at (i + 1) = "-" ∨ w.at (i + 1) = "/" ∨ w.at (i + 1) = ".") then
    let sep := w.at (i + 1)
    let p ← w.parts.push (.text text) none
    if i + 2 < n ∧ ¬isJump (w.at (i + 2)) then
      let second := w.at (i + 2)
      let p ← (if isDigitText second then p.push (.text second) none
        else match monthNamed second with
          | some m => p.push (.number (Dec.ofNat m)) (some .month)
          | none => none : Option DateParts)
      if i + 3 < n ∧ w.at (i + 3) = sep then
        let third ← w.need (i + 4)
        let p ← (match monthNamed third with
          | some m => p.push (.number (Dec.ofNat m)) (some .month)
          | none => p.push (.text third) none : Option DateParts)
        pure ({ w with parts := p }, i + 4)
      else pure ({ w with parts := p }, i + 2)
    else pure ({ w with parts := p }, i + 1)
  else if i + 1 ≥ n ∨ isJump (w.at (i + 1)) then
    match (if i + 2 < n then halfDayOf (w.at (i + 2)) else none) with
    | some half =>
      pure ({ w with fields := { f with hour := some (onFullClock d.whole half) } }, i + 2)
    | none =>
      let p ← w.parts.push (.number d) none
      pure ({ w with parts := p }, i + 1)
  else match halfDayOf (w.at (i + 1)) with
  | some half =>
    if d.digits < 24 * d.unit then
      pure ({ w with fields := { f with hour := some (onFullClock d.whole half) } }, i + 1)
    else if w.parts.mayBeDay d then
      let p ← w.parts.push (.number d) none
      pure ({ w with parts := p }, i)
    else throw .unreadable
  | none =>
    if w.parts.mayBeDay d then
      let p ← w.parts.push (.number d) none
      pure ({ w with parts := p }, i)
    else throw .unreadable

def Walk.step (w : Walk) (i : Nat) : Except Stop (Walk × Nat) := do
  let t ← w.need i
  let n := w.tokens.size
  let f := w.fields
  match Numeral.ofToken t with
  | .finite d =>
    let (w, last) ← w.number i d
    pure (w, last + 1)
  | .nonFinite => throw .unreadable
  | .none =>
  match weekdayNamed t with
  | some wd => pure ({ w with fields := { f with weekday := some wd } }, i + 1)
  | none =>
  match monthNamed t with
  | some m =>
    let p ← w.parts.push (.number (Dec.ofNat m)) (some .month)
    if i + 1 < n ∧ (w.at (i + 1) = "-" ∨ w.at (i + 1) = "/") then
      let sep := w.at (i + 1)
      let second ← w.need (i + 2)
      let p ← p.push (.text second) none
      if i + 3 < n ∧ w.at (i + 3) = sep then
        let third ← w.need (i + 4)
        let p ← p.push (.text third) none
        pure ({ w with parts := p }, i + 5)
      else pure ({ w with parts := p }, i + 3)
    else if i + 4 < n ∧ w.at (i + 1) = " " ∧ w.at (i + 3) = " " ∧ lower (w.at (i + 2)) = "of" then
      -- Jan of 01: the last number is the year
      let year := w.at (i + 4)
      let p ← if isDigitText year then do
          let v ← wholeOf? year.toList
          p.push (.text (toString (fullYear v false))) (some .year)
        else pure p
      pure ({ w with parts := p }, i + 5)
    else pure ({ w with parts := p }, i + 1)
  | none =>
  match halfDayOf t with
  | some half =>
    match f.hour with
    | some h =>
      if 0 ≤ h ∧ h ≤ 12 then
        pure ({ w with fields := { f with hour := some (onFullClock h half), halfDay := some half } },
          i + 1)
      else throw .unreadable
    | none => throw .unreadable
  | none =>
  if mayBeZoneName f.hour f.zoneName f.zoneOffset t then
    let f := { f with zoneName := some t, zoneOffset := if t = "z" then some 0 else none }
    if i + 1 < n ∧ (w.at (i + 1) = "+" ∨ w.at (i + 1) = "-") then
      -- GMT+3: the sign counts the other way, and the zone is not universal time
      let flipped := if w.at (i + 1) = "+" then "-" else "+"
      let f := { f with zoneOffset := none, zoneName := if isUtcZoneName t then none else some t }
      pure ({ w with tokens := w.tokens.set! (i + 1) flipped, fields := f }, i + 1)
    else pure ({ w with fields := f }, i + 1)
  else if f.hour.isSome ∧ (t = "+" ∨ t = "-") then
    let sign : Int := if t = "+" then 1 else -1
    let digits ← w.need (i + 1)
    let cs := digits.toList
    let (hours, minutes, i) ← if cs.length = 4 then do
        let h ← wholeOf? (cs.take 2)
        let m ← wholeOf? (cs.drop 2)
        pure (h, m, i)
      else if i + 2 < n ∧ w.at (i + 2) = ":" then do
        let h ← wholeOf? cs
        let m ← (w.need (i + 3)).bind (fun s => wholeOf? s.toList)
        pure (h, m, i + 2)
      else if cs.length ≤ 2 then do
        let h ← wholeOf? (cs.take 2)
        pure (h, 0, i)
      else throw .unreadable
    let f := { f with zoneOffset := some (sign * ((hours * 3600 + minutes * 60 : Nat) : Int)) }
    if i + 5 < n ∧ isJump (w.at (i + 2)) ∧ w.at (i + 3) = "(" ∧ w.at (i + 5) = ")" ∧
        3 ≤ (w.at (i + 4)).length ∧ mayBeZoneName f.hour f.zoneName none (w.at (i + 4)) then
      pure ({ w with fields := { f with zoneName := some (w.at (i + 4)) } }, i + 6)
    else pure ({ w with fields := f }, i + 2)
  else if isJump t then pure (w, i + 1)
  else throw .unreadable

/-- Read the tokens from `i` on; `fuel` bounds the steps, each of which reads a token or more. -/
def Walk.run : Nat → Walk → Nat → Except Stop Walk
  | 0, w, _ => pure w
  | fuel + 1, w, i =>
    if i < w.tokens.size then do
      let (w, i) ← w.step i
      Walk.run fuel w i
    else pure w

/-- The fields of a date text, or why reading it stopped. -/
def Fields.ofText (text : String) : Except Stop Fields := do
  let toks := (tokens text).toArray
  let w ← Walk.run (toks.size + 1) { tokens := toks } 0
  let (year, month, day) ← w.parts.resolve
  let f := { w.fields with year := year.map (fullYear · w.parts.century), month, day,
                           century := w.parts.century }
  -- universal time by name or by a zero offset
  if (f.zoneOffset = some 0 ∧ f.zoneName.isNone) ∨ f.zoneName = some "Z" ∨ f.zoneName = some "z" then
    pure { f with zoneName := some "UTC", zoneOffset := some 0 }
  else if f.zoneOffset ≠ some 0 ∧ (f.zoneName.map isUtcZoneName).getD false then
    pure { f with zoneOffset := some 0 }
  else pure f

end PortableSearch.Time.Loose
