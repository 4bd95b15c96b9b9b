import PortableSearch.Value
import PortableSearch.Text.Utf8
import PortableSearch.Decimal.Shortest
import PortableSearch.Json.Write
import PortableSearch.Text.Classes

/-! Checking the fields of a model. Each field is checked on its own, leniently as for documents
typed by hand, and `Checked` gathers the locations of every failing field, so one reading reports
every bad field at once. -/

namespace PortableSearch.Model

open PortableSearch.Text

inductive Step where
  | name (s : String)
  | index (i : Nat)
  deriving DecidableEq, Repr

/-- The path from a model to a value inside it. -/
abbrev Loc := List Step

/-- A checked result: a value, or the locations of every failure. -/
inductive Checked (α : Type) where
  | ok (a : α)
  | failed (locs : List Loc)

namespace Checked

def locs {α : Type} : Checked α → List Loc
  | .ok _ => []
  | .failed ls => ls

def map {α β : Type} (f : α → β) : Checked α → Checked β
  | .ok a => .ok (f a)
  | .failed ls => .failed ls

/-- Combine two results, gathering the failures of both. -/
def seq {α β : Type} (f : Checked (α → β)) (x : Unit → Checked α) : Checked β :=
  match f, x () with
  | .ok g, .ok a => .ok (g a)
  | r, s => .failed (r.locs ++ s.locs)

/-- Continue with a check that needs the value; failures stop the chain. -/
def andThen {α β : Type} (x : Checked α) (f : α → Checked β) : Checked β :=
  match x with
  | .ok a => f a
  | .failed ls => .failed ls

def under {α : Type} (s : Step) : Checked α → Checked α
  | .ok a => .ok a
  | .failed ls => .failed (ls.map (s :: ·))

def here {α : Type} : Checked α := .failed [[]]

def ofOption {α : Type} : Option α → Checked α
  | some a => .ok a
  | none => .failed [[]]

instance : Functor Checked where
  map := map

instance : Applicative Checked where
  pure := .ok
  seq := seq

end Checked

/-! ## Lenient readings of single values -/

def isUnicodeSpace (c : Char) : Bool :=
  let n := c.toNat
  (0x09 ≤ n ∧ n ≤ 0x0D) ∨ n = 0x20 ∨ n = 0x85 ∨ n = 0xA0 ∨ n = 0x1680 ∨ (0x2000 ≤ n ∧ n ≤ 0x200A) ∨
    n = 0x2028 ∨ n = 0x2029 ∨ n = 0x202F ∨ n = 0x205F ∨ n = 0x3000

def trimSpace (s : String) : List Char :=
  ((s.toList.dropWhile isUnicodeSpace).reverse.dropWhile isUnicodeSpace).reverse

def digitRun (cs : List Char) : Option Nat :=
  if cs.isEmpty || !cs.all Char.isDigit then none
  else some (cs.foldl (fun n c => n * 10 + (c.toNat - 48)) 0)

def signedDigits (cs : List Char) : Option Int :=
  match cs with
  | '-' :: rest => (digitRun rest).map (fun n => -(n : Int))
  | '+' :: rest => (digitRun rest).map (fun n => (n : Int))
  | _ => (digitRun cs).map (fun n => (n : Int))

def startsInteger (c : Char) : Bool := ('1' ≤ c && c ≤ '9') || c == '-'

/-- An integer text without its leading zeros and the underscores among them: the text itself
when it starts with a digit from 1 to 9, the rest from the first digit from 1 to 9 or minus sign
after a leading zero, and the last character when nothing else follows the zeros. A text that
starts otherwise, or whose zeros are followed by another character, has no such form. -/
def dropLeadingZeros : List Char → Option (List Char)
  | [] => none
  | '0' :: rest =>
    match rest.dropWhile (fun c => c == '0' || c == '_') with
    | [] => some ('0' :: rest).getLast?.toList
    | c :: more => if startsInteger c then some (c :: more) else none
  | c :: more => if '1' ≤ c && c ≤ '9' then some (c :: more) else none

def underscoresBetween (cs : List Char) : Bool :=
  cs.head? != some '_' && cs.getLast? != some '_' && !(cs.zip cs.tail).any (· == ('_', '_'))

def wordOfText (cs : List Char) : Option Int :=
  (signedDigits cs).filter fun n => decide (-int64Bound ≤ n ∧ n < int64Bound)

def jsonInteger (cs : List Char) : Option Int :=
  let unsigned (ds : List Char) : Option Nat :=
    match ds with
    | ['0'] => some 0
    | '0' :: _ => none
    | _ => if ds.length > Text.digitLimit then none else digitRun ds
  match cs with
  | '-' :: rest => (unsigned rest).map fun n => -(n : Int)
  | _ => (unsigned cs).map fun n => (n : Int)

/-- A whole number written as text: a signed 64-bit integer of ASCII digits; or else one sign,
then a text whose leading zeros are dropped, whose underscores stand alone between other
characters and are then removed, and which, after a minus for a minus sign, is an integer as
JSON writes it. -/
def wholeOfText (cs : List Char) : Option Int :=
  (wordOfText cs).orElse fun _ =>
    let (negative, body) := match cs with
      | '-' :: rest => (true, rest)
      | '+' :: rest => (false, rest)
      | _ => (false, cs)
    (dropLeadingZeros body).bind fun r =>
      if underscoresBetween r then
        let digits := r.filter (· != '_')
        jsonInteger (if negative then '-' :: digits else digits)
      else none

def beforeZeroFraction (cs : List Char) : Option (List Char) :=
  match cs.splitOn '.' with
  | whole :: [frac] => if !frac.isEmpty && frac.all (· == '0') then some whole else none
  | _ => none

/-- An integer written as text, white space around it ignored: a whole number, or one followed
by a point and zeros. -/
def intOfText (s : String) : Option Int :=
  let t := trimSpace s
  (wholeOfText t).orElse fun _ => (beforeZeroFraction t).bind wholeOfText

example : intOfText "0-4" = some (-4) := by decide
example : intOfText "00_1_0" = some 10 := by decide
example : intOfText "+_5" = none := by decide
example : intOfText "5." = none := by decide
example : intOfText " 7.00 " = some 7 := by decide
example : intOfText "+0-1" = some (-1) := by decide
example : intOfText "-0__1" = some (-1) := by decide
example : intOfText "0-01" = none := by decide
example : intOfText "1 .0" = none := by decide
example : intOfText "1__0" = none := by decide
example : intOfText "90_0_" = none := by decide
example : intOfText "+-5" = none := by decide
example : intOfText "-0-19" = none := by decide

def sameLetters (a : List Char) (b : String) : Bool :=
  a.map Char.toLower == b.toList

/-- A double written as an optional sign, then `inf`, `infinity`, `nan`, or decimal digits with
an optional point and an optional exponent. -/
def floatOfChars (t : List Char) : Option Float :=
  let (negative, body) := match t with
    | '-' :: rest => (true, rest)
    | '+' :: rest => (false, rest)
    | _ => (false, t)
  let sign (x : Float) : Float := if negative then -x else x
  if sameLetters body "inf" || sameLetters body "infinity" then some (sign (1.0 / 0.0))
  else if sameLetters body "nan" then some (0.0 / 0.0)
  else
    let (mant, expPart) := match body.splitOn 'e' with
      | [m, e] => (m, some e)
      | _ => match body.splitOn 'E' with
        | [m, e] => (m, some e)
        | _ => (body, none)
    let (whole, frac) := match mant.splitOn '.' with
      | [w] => (w, [])
      | [w, f] => (w, f)
      | _ => (['x'], [])
    let digitsOk := (whole.all Char.isDigit) && (frac.all Char.isDigit) && !(whole.isEmpty && frac.isEmpty)
    let exp : Option Int := match expPart with
      | none => some 0
      | some e => signedDigits e
    match digitsOk, exp with
    | true, some e => some (sign (Decimal.nearest (whole ++ frac) (e - frac.length)))
    | _, _ => none

def withoutSeparators (cs : List Char) : Option (List Char) :=
  if !cs.contains '_' || cs.head? == some '_' || cs.getLast? == some '_' ||
      (cs.zip cs.tail).any (fun p => p.1 == '_' && p.2 == '_') then none
  else some (cs.filter (· != '_'))

/-- A double written as text: the number without the white space around it, or else the whole
text with its underscores removed. -/
def floatOfText (s : String) : Option Float :=
  (floatOfChars (trimSpace s)).orElse fun _ => (withoutSeparators s.toList).bind floatOfChars

end PortableSearch.Model

namespace PortableSearch

open PortableSearch.Text PortableSearch.Model

def Float.ofIntNearest (n : Int) : Float :=
  let x := Float.ofScientific n.natAbs false 0
  if n < 0 then -x else x

def Value.asStr? : Value → Option String
  | .str s => some s
  | .bytes b => match decodeUtf8 b with
    | .ok s => some s
    | .error _ => none
  | _ => none

/-- An integer, leniently: an integer, a boolean, a whole double strictly between the bounds of a
signed 64-bit word, or an integer written as text. -/
def Value.asInt? : Value → Option Int
  | .int n => some n
  | .bool b => some (if b then 1 else 0)
  | .float x => (Float.toIntExact? x).filter (fun n => decide (-int64Bound < n ∧ n < int64Bound))
  | .str s => intOfText s
  | .bytes b => (Value.bytes b).asStr?.bind intOfText
  | _ => none

/-- A double, leniently; an integer too large for a finite double is refused. -/
def Value.asFloat? : Value → Option Float
  | .float x => some x
  | .int n => let x := Float.ofIntNearest n; if x.isInf then none else some x
  | .bool b => some (if b then 1.0 else 0.0)
  | .str s => floatOfText s
  | .bytes b => (Value.bytes b).asStr?.bind floatOfText
  | _ => none

/-- A boolean written as text: `0`, `f`, `n`, `no`, `off`, `false` and `1`, `t`, `y`, `on`, `yes`,
`true`, letters in any case. -/
def boolOfText (s : String) : Option Bool :=
  let t := s.toList
  if t == ['0'] || sameLetters t "f" || sameLetters t "n" || sameLetters t "no" ||
      sameLetters t "off" || sameLetters t "false" then some false
  else if t == ['1'] || sameLetters t "t" || sameLetters t "y" || sameLetters t "on" ||
      sameLetters t "yes" || sameLetters t "true" then some true
  else none

def Value.asBool? : Value → Option Bool
  | .bool b => some b
  | .int n => if n = 0 then some false else if n = 1 then some true else none
  | .float x => if x == 0.0 then some false else if x == 1.0 then some true else none
  | .str s => boolOfText s
  | .bytes b => (Value.bytes b).asStr?.bind boolOfText
  | _ => none

end PortableSearch

namespace PortableSearch.Model

/-! ## Fields of an object -/

abbrev Fields := Members

def required {α : Type} (fs : Fields) (name : String) (f : Value → Checked α) : Checked α :=
  match fs.get? name with
  | some v => (f v).under (.name name)
  | none => .failed [[.name name]]

def withDefault {α : Type} (fs : Fields) (name : String) (d : α) (f : Value → Checked α) : Checked α :=
  match fs.get? name with
  | some v => (f v).under (.name name)
  | none => .ok d

def optional {α : Type} (fs : Fields) (name : String) (f : Value → Checked α) : Checked (Option α) :=
  match fs.get? name with
  | some .null => .ok none
  | some v => ((f v).map some).under (.name name)
  | none => .ok none

def byReading {α : Type} (read : Value → Option α) (v : Value) : Checked α :=
  Checked.ofOption (read v)

def str : Value → Checked String := byReading Value.asStr?
def int : Value → Checked Int := byReading Value.asInt?
def float : Value → Checked Float := byReading Value.asFloat?
def bool : Value → Checked Bool := byReading Value.asBool?
def any (v : Value) : Checked Value := .ok v

def eachItem {α : Type} (f : Value → Checked α) : List Value → Nat → Checked (List α)
  | [], _ => .ok []
  | x :: rest, i => List.cons <$> (f x).under (.index i) <*> eachItem f rest (i + 1)

def listOf {α : Type} (f : Value → Checked α) : Value → Checked (List α)
  | .list xs => eachItem f xs 0
  | _ => .here

def eachMember {α : Type} (f : Value → Checked α) : List (String × Value) → Checked (List (String × α))
  | [] => .ok []
  | (k, v) :: rest => List.cons <$> ((f v).map (fun a => (k, a))).under (.name k) <*> eachMember f rest

def mapOf {α : Type} (f : Value → Checked α) : Value → Checked (List (String × α))
  | .obj ms => eachMember f ms
  | _ => .here

def oneOf (choices : List String) : Value → Checked String
  | .str s => if choices.contains s then .ok s else .here
  | _ => .here

/-! ## Failure locations as answers -/

def Loc.text (l : Loc) : String :=
  let step : Step → String
    | .name s => Json.quote s
    | .index i => toString i
  "[" ++ ", ".intercalate (l.map step) ++ "]"

/-- The distinct locations of a failure, in the order of their JSON text. -/
def Loc.normalize (ls : List Loc) : List Loc :=
  let distinct := ls.foldl (fun acc l => if acc.contains l then acc else acc ++ [l]) []
  distinct.mergeSort (fun a b => decide (a.text ≤ b.text))

def Loc.toValue (l : Loc) : Value :=
  .list (l.map fun
    | .name s => .str s
    | .index i => .int i)

end PortableSearch.Model
