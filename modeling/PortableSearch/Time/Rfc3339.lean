import PortableSearch.Time.Iso
import PortableSearch.Decimal.Shortest

/-! Date-times as validated documents give them (`Stamp.ofDateTimeText?`): RFC 3339 text, or else a
Unix timestamp, which counts milliseconds above 2·10¹⁰ and seconds below, an instant in UTC. -/

namespace PortableSearch.Time

def twoDigits : List Char → Option (Nat × List Char)
  | a :: b :: rest =>
    if a.isDigit ∧ b.isDigit then some ((a.toNat - 48) * 10 + (b.toNat - 48), rest) else none
  | _ => none

def skipChar (c : Char) : List Char → Option (List Char)
  | d :: rest => if d = c then some rest else none
  | [] => none

def rfcDate (cs : List Char) : Option ((Int × Nat × Nat) × List Char) := do
  let (century, r) ← twoDigits cs
  let (yy, r) ← twoDigits r
  let (month, r) ← twoDigits (← skipChar '-' r)
  let (day, r) ← twoDigits (← skipChar '-' r)
  let year : Int := ((century * 100 + yy : Nat) : Int)
  pure ((year, month, day), r)

def fractionMicros (ds : List Char) : Nat :=
  let six := ds.take 6
  (six ++ List.replicate (6 - six.length) '0').foldl (fun n c => n * 10 + (c.toNat - 48)) 0

def rfcFraction : List Char → Option (Nat × List Char)
  | c :: rest =>
    if c = '.' ∨ c = ',' then
      let ds := rest.takeWhile Char.isDigit
      if ds.isEmpty then none else some (fractionMicros ds, rest.dropWhile Char.isDigit)
    else some (0, c :: rest)
  | [] => some (0, [])

/-- A time `HH:MM[:SS[.f]]` at the head of a text: hour, minute, second, microseconds, and the
rest. -/
def rfcClock (cs : List Char) : Option ((Nat × Nat × Nat × Nat) × List Char) := do
  let (hour, r) ← twoDigits cs
  let (minute, r) ← twoDigits (← skipChar ':' r)
  match r with
  | ':' :: r =>
    let (second, r) ← twoDigits r
    let (micro, r) ← rfcFraction r
    pure ((hour, minute, second, micro), r)
  | r => pure ((hour, minute, 0, 0), r)

def offsetSign (c : Char) : Option Int :=
  if c = '+' then some 1 else if c = '-' ∨ c = '−' then some (-1) else none

/-- What ends an RFC 3339 date-time: nothing, `Z`, `z`, or a signed offset `HH[:]MM` below
24 hours, in microseconds east of UTC; none for anything else. -/
def rfcOffset : List Char → Option (Option Int)
  | [] => some none
  | ['Z'] | ['z'] => some (some 0)
  | c :: r => do
    let sign ← offsetSign c
    let (h, r) ← twoDigits r
    let (m, r) ← twoDigits (match r with | ':' :: more => more | more => more)
    if !r.isEmpty ∨ h > 23 ∨ m > 59 then none
    else some (some (sign * (((h * 60 + m) * 60 * 1000000 : Nat) : Int)))

/-- Read an RFC 3339 date-time, or a date alone for its midnight. -/
def Stamp.ofRfc3339? (text : String) : Option Stamp := do
  let ((year, month, day), rest) ← rfcDate text.toList
  let ((h, m, s, us), offset) ← match rest with
    | [] => some ((0, 0, 0, 0), none)
    | sep :: r =>
      if sep = 'T' ∨ sep = 't' ∨ sep = ' ' ∨ sep = '_' then do
        let (clock, r) ← rfcClock r
        pure (clock, ← rfcOffset r)
      else none
  if (checkFields year month day h m s us).isSome then none
  else some { wall := ({ year, month, day, hour := h, minute := m, second := s, micro := us } :
                Reading).toMicros, offset, style := .seconds }

def millisecondStamps : Nat := 20000000000

/-- The instant, in UTC, of Unix timestamp `t` and `micro` more microseconds: `t` counts seconds,
or milliseconds when its magnitude is above `millisecondStamps`; none outside years 1 to 9999. -/
def Stamp.ofUnix? (t : Int) (micro : Nat) : Option Stamp :=
  let (seconds, extra) : Int × Int :=
    if t.natAbs > millisecondStamps then (t / 1000, t % 1000 * 1000) else (t, 0)
  let wall := seconds * microsPerSecond + (micro : Int) + extra
  if inRange wall then some { wall, offset := some 0, style := .seconds } else none

/-- The instant of a timestamp given as a double, which counts seconds, or milliseconds when its
magnitude is above `millisecondStamps`: its whole seconds by rounding down, and the rest, which is
never negative, as microseconds rounded to the nearest. -/
def Stamp.ofUnixFloat? (x : Float) : Option Stamp := do
  let seconds := if x.abs > Float.ofNat millisecondStamps then x / 1000.0 else x
  let t ← Float.toIntExact? seconds.floor
  let micros := ((seconds - seconds.floor) * 1000000.0).round
  let wall := t * microsPerSecond + ((Float.toIntExact? micros).getD 0)
  if inRange wall then some { wall, offset := some 0, style := .seconds } else none

inductive TimestampText where
  | whole (n : Int)
  | fractional (x : Float)

def signedExponent? (cs : List Char) : Option Int :=
  let (negative, digits) := match cs with
    | '-' :: rest => (true, rest)
    | '+' :: rest => (false, rest)
    | _ => (false, cs)
  if digits.isEmpty || !digits.all Char.isDigit then none
  else
    let n : Int := Decimal.digitsValue digits
    some (if negative then -n else n)

/-- A decimal with a point, unsigned: ASCII digits, a point and ASCII digits, with a digit on
at least one side, then optionally `e` or `E`, an optional sign and ASCII digits; the double
nearest its value. -/
def pointedDecimal? (cs : List Char) : Option Float :=
  let (mantissa, exponent) := cs.span fun c => c != 'e' && c != 'E'
  match mantissa.splitOn '.' with
  | [whole, frac] =>
    if (whole ++ frac).isEmpty || !(whole ++ frac).all Char.isDigit then none
    else
      let e : Option Int := match exponent with
        | [] => some 0
        | _ :: rest => signedExponent? rest
      e.map fun e => Decimal.nearest (whole ++ frac) (e - frac.length)
  | _ => none

/-- A Unix timestamp written as text: an optional sign, then ASCII digits that make a signed
64-bit word, or a decimal with a point (`pointedDecimal?`). -/
def timestampOfText? (cs : List Char) : Option TimestampText :=
  let (negative, body) := match cs with
    | '-' :: rest => (true, rest)
    | '+' :: rest => (false, rest)
    | _ => (false, cs)
  if !body.isEmpty && body.all Char.isDigit then
    let n := Decimal.digitsValue body
    if n < 9223372036854775808 then some (.whole (if negative then -(n : Int) else n)) else none
  else (pointedDecimal? body).map fun x => .fractional (if negative then -x else x)

/-- Read a date-time as RFC 3339 text or as a Unix timestamp. -/
def Stamp.ofDateTimeText? (text : String) : Option Stamp :=
  (Stamp.ofRfc3339? text).orElse fun _ =>
    match timestampOfText? text.toList with
    | some (.whole n) => Stamp.ofUnix? n 0
    | some (.fractional x) => Stamp.ofUnixFloat? x
    | none => none

example : (timestampOfText? ".5e3".toList).isSome := by decide
example : (timestampOfText? "1e10".toList).isNone := by decide
example : (timestampOfText? "+.".toList).isNone := by decide

example : (Stamp.ofRfc3339? "2014-11-18t10:30:00z").map Stamp.utcMicros = some 1416306600000000 := by
  rfl
example : (Stamp.ofUnix? 1416306600123 0).map Stamp.utcMicros = some 1416306600123000 := by rfl
example : (Stamp.ofRfc3339? "2014-11-18T10:30:00+05").isNone := by rfl

end PortableSearch.Time
