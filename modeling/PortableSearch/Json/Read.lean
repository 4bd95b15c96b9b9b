import PortableSearch.Value

/-! Reading JSON text into a `Value`, with `NaN` and `Infinity`; a repeated member name keeps its
first position and its last value. Where readers differ is a `Dialect`: unpaired surrogates, the
digits of an integer and the depth of nesting. -/

namespace PortableSearch.Json

/-- What a reader does with an escape of an unpaired surrogate. -/
inductive SurrogateRule where
  | refuse
  | replace
  | keep
  deriving Repr, DecidableEq

/-- How deep a reader lets arrays and objects nest; the depth of a value is the number of arrays
and objects around it. -/
inductive NestingRule where
  | unlimited
  | valuesWithin (n : Nat)
  deriving Repr, DecidableEq

def NestingRule.refuses : NestingRule → Nat → Bool → Bool
  | .unlimited, _, _ => false
  | .valuesWithin n, depth, _ => n < depth

/-- The points where JSON readers differ. -/
structure Dialect where
  loneSurrogates : SurrogateRule := .replace
  digitLimit : Option Nat := some 4300
  nesting : NestingRule := .unlimited

/-- Why a text is not read. -/
inductive ReadError where
  | malformed (message : String) (pos : Nat)
  | tooManyDigits (digits : Nat)
  /-- A value nested deeper than the dialect allows, at a character offset; `array` tells
  whether it is an array. -/
  | tooDeep (array : Bool) (pos : Nat)
  deriving Repr

def charAt? (cs : Array Nat) (i : Nat) : Option Char := cs[i]?.map Text.charOfPoint

def isBlank (c : Char) : Bool := c == ' ' || c == '\t' || c == '\n' || c == '\r'

def skipBlank (cs : Array Nat) (i : Nat) : Nat :=
  if h : i < cs.size then
    if isBlank (Text.charOfPoint cs[i]) then skipBlank cs (i + 1) else i
  else i
termination_by cs.size - i

def hexValue (c : Char) : Option Nat :=
  if '0' ≤ c ∧ c ≤ '9' then some (c.toNat - 48)
  else if 'a' ≤ c ∧ c ≤ 'f' then some (c.toNat - 87)
  else if 'A' ≤ c ∧ c ≤ 'F' then some (c.toNat - 55)
  else none

def hex4At (cs : Array Nat) (i : Nat) : Option Nat := do
  let a ← hexValue (← charAt? cs i)
  let b ← hexValue (← charAt? cs (i + 1))
  let c ← hexValue (← charAt? cs (i + 2))
  let d ← hexValue (← charAt? cs (i + 3))
  pure (((a * 16 + b) * 16 + c) * 16 + d)

/-- Read a `\u` escape whose `u` is at `p`: the code point and the offset after the escape
(after a second escape when the two form a surrogate pair). -/
def unicodeEscape (d : Dialect) (cs : Array Nat) (p : Nat) : Except ReadError (Nat × Nat) := do
  if p + 5 ≥ cs.size then throw (.malformed "Invalid \\uXXXX escape" p)
  let some c := hex4At cs (p + 1) | throw (.malformed "Invalid \\uXXXX escape" p)
  if 0xD800 ≤ c ∧ c < 0xDC00 ∧ p + 11 < cs.size ∧ charAt? cs (p + 5) = some '\\' ∧ charAt? cs (p + 6) = some 'u' then
    let some c2 := hex4At cs (p + 7) | throw (.malformed "Invalid \\uXXXX escape" (p + 6))
    if 0xDC00 ≤ c2 ∧ c2 < 0xE000 then
      return (0x10000 + (c - 0xD800) * 1024 + (c2 - 0xDC00), p + 11)
  if 0xD800 ≤ c ∧ c < 0xE000 then
    match d.loneSurrogates with
    | .keep => return (c, p + 5)
    | .replace => return (0xFFFD, p + 5)
    | .refuse => throw (.malformed "Invalid \\uXXXX escape" p)
  return (c, p + 5)

/-- Read the body of a string from `i`, the opening quote being at `start`: the code points of
the string and the offset after the closing quote; a character stands for the code point it
holds (`Text.pointOfChar`). -/
def scanString (d : Dialect) (cs : Array Nat) (start i : Nat)
    (acc : Array Nat) : Except ReadError (Array Nat × Nat) :=
  if h : i < cs.size then
    let c := Text.charOfPoint cs[i]
    if c == '"' then .ok (acc, i + 1)
    else if c == '\\' then
      match charAt? cs (i + 1) with
      | none => .error (.malformed "Unterminated string starting at" start)
      | some e =>
        let simple : Option Char := match e with
          | '"' => some '"'
          | '\\' => some '\\'
          | '/' => some '/'
          | 'b' => some '\x08'
          | 'f' => some '\x0c'
          | 'n' => some '\n'
          | 'r' => some '\r'
          | 't' => some '\t'
          | _ => none
        match simple with
        | some s => scanString d cs start (i + 2) (acc.push s.toNat)
        | none =>
          if e == 'u' then
            match unicodeEscape d cs (i + 1) with
            | .error err => .error err
            | .ok (u, next) =>
              if next > i then scanString d cs start next (acc.push u)
              else .error (.malformed "Invalid \\uXXXX escape" (i + 1))
          else .error (.malformed "Invalid \\escape" i)
    else if c.toNat < 0x20 then .error (.malformed "Invalid control character at" i)
    else scanString d cs start (i + 1) (acc.push cs[i])
  else .error (.malformed "Unterminated string starting at" start)
termination_by cs.size - i

def skipDigits (cs : Array Nat) (i : Nat) : Nat :=
  if h : i < cs.size then
    if (Text.charOfPoint cs[i]).isDigit then skipDigits cs (i + 1) else i
  else i
termination_by cs.size - i

def slice (cs : Array Nat) (i j : Nat) : List Char :=
  (cs.extract i j).toList.map Text.charOfPoint

def digitsValue (ds : List Char) : Nat :=
  ds.foldl (fun n c => n * 10 + (c.toNat - 48)) 0

def decimalFloat (negative : Bool) (mantissa : Nat) (exp : Int) : Float :=
  let size := (Nat.toDigits 10 mantissa).length
  let x :=
    if mantissa = 0 then 0.0
    else if exp + size > 400 then 1.0 / 0.0
    else if exp + size < -400 then 0.0
    else if exp ≥ 0 then Float.ofScientific mantissa false exp.toNat
    else Float.ofScientific mantissa true exp.natAbs
  if negative then -x else x

/-- Read a number starting at `i`: its value and the offset after it; none when no number
starts there. -/
def scanNumber (d : Dialect) (cs : Array Nat) (i : Nat) : Except ReadError (Option (Value × Nat)) :=
  let negative := charAt? cs i == some '-'
  let intStart := if negative then i + 1 else i
  match charAt? cs intStart with
  | some '0' => finish negative intStart (intStart + 1)
  | some c => if '1' ≤ c ∧ c ≤ '9' then finish negative intStart (skipDigits cs intStart) else .ok none
  | none => .ok none
where
  finish (negative : Bool) (intStart intEnd : Nat) : Except ReadError (Option (Value × Nat)) :=
    let intDigits := slice cs intStart intEnd
    let fracEnd := if charAt? cs intEnd == some '.' && ((charAt? cs (intEnd + 1)).map Char.isDigit).getD false
      then skipDigits cs (intEnd + 1) else intEnd
    let fracDigits := if fracEnd = intEnd then [] else slice cs (intEnd + 1) fracEnd
    let (expEnd, expValue) : Nat × Int :=
      if charAt? cs fracEnd == some 'e' || charAt? cs fracEnd == some 'E' then
        let signed := charAt? cs (fracEnd + 1) == some '+' || charAt? cs (fracEnd + 1) == some '-'
        let digitsStart := if signed then fracEnd + 2 else fracEnd + 1
        let digitsEnd := skipDigits cs digitsStart
        if digitsEnd = digitsStart then (fracEnd, 0)
        else
          let n := (digitsValue (slice cs digitsStart digitsEnd) : Int)
          (digitsEnd, if charAt? cs (fracEnd + 1) == some '-' then -n else n)
      else (fracEnd, 0)
    if fracEnd = intEnd ∧ expEnd = fracEnd then
      match d.digitLimit with
      | some limit =>
        if intDigits.length > limit then .error (.tooManyDigits intDigits.length)
        else
          let n := (digitsValue intDigits : Int)
          .ok (some (.int (if negative then -n else n), expEnd))
      | none =>
        let n := (digitsValue intDigits : Int)
        .ok (some (.int (if negative then -n else n), expEnd))
    else
      let mantissa := digitsValue (intDigits ++ fracDigits)
      .ok (some (.float (decimalFloat negative mantissa (expValue - fracDigits.length)), expEnd))

def wordAt (cs : Array Nat) (i : Nat) (word : String) : Bool :=
  slice cs i (i + word.length) == word.toList

mutual

/-- Read a value at offset `i` (no blank skipped) at depth `depth`: the value and the offset
after it. -/
def scanValue (d : Dialect) (cs : Array Nat) (depth : Nat) :
    Nat → Nat → Except ReadError (Value × Nat)
  | 0, i => .error (.malformed "Expecting value" i)
  | fuel + 1, i =>
    if d.nesting.refuses depth (charAt? cs i = some '[' ∨ charAt? cs i = some '{') then
      .error (.tooDeep (charAt? cs i = some '[') i)
    else
    match charAt? cs i with
    | some '"' => (scanString d cs i (i + 1) #[]).map fun (s, j) => (Value.ofCodePoints s.toList, j)
    | some '{' => scanObject d cs (depth + 1) fuel (skipBlank cs (i + 1)) true []
    | some '[' => scanArray d cs (depth + 1) fuel (skipBlank cs (i + 1)) true []
    | some 'n' => if wordAt cs i "null" then .ok (.null, i + 4) else .error (.malformed "Expecting value" i)
    | some 't' => if wordAt cs i "true" then .ok (.bool true, i + 4) else .error (.malformed "Expecting value" i)
    | some 'f' => if wordAt cs i "false" then .ok (.bool false, i + 5) else .error (.malformed "Expecting value" i)
    | some 'N' => if wordAt cs i "NaN" then .ok (.float (0.0 / 0.0), i + 3) else .error (.malformed "Expecting value" i)
    | some 'I' =>
      if wordAt cs i "Infinity" then .ok (.float (1.0 / 0.0), i + 8) else .error (.malformed "Expecting value" i)
    | some '-' =>
      if wordAt cs i "-Infinity" then .ok (.float (-1.0 / 0.0), i + 9)
      else match scanNumber d cs i with
        | .ok (some r) => .ok r
        | .ok none => .error (.malformed "Expecting value" i)
        | .error e => .error e
    | some _ =>
      match scanNumber d cs i with
      | .ok (some r) => .ok r
      | .ok none => .error (.malformed "Expecting value" i)
      | .error e => .error e
    | none => .error (.malformed "Expecting value" i)

def scanArray (d : Dialect) (cs : Array Nat) (depth : Nat) :
    Nat → Nat → Bool → List Value → Except ReadError (Value × Nat)
  | 0, i, _, _ => .error (.malformed "Expecting value" i)
  | fuel + 1, i, first, acc =>
    if first ∧ charAt? cs i = some ']' then .ok (.list acc.reverse, i + 1)
    else
      match scanValue d cs depth fuel i with
      | .error e => .error e
      | .ok (v, j) =>
        let k := skipBlank cs j
        match charAt? cs k with
        | some ']' => .ok (.list (v :: acc).reverse, k + 1)
        | some ',' => scanArray d cs depth fuel (skipBlank cs (k + 1)) false (v :: acc)
        | _ => .error (.malformed "Expecting ',' delimiter" k)

def scanObject (d : Dialect) (cs : Array Nat) (depth : Nat) :
    Nat → Nat → Bool → Members → Except ReadError (Value × Nat)
  | 0, i, _, _ => .error (.malformed "Expecting value" i)
  | fuel + 1, i, first, acc =>
    if first ∧ charAt? cs i = some '}' then .ok (.obj acc, i + 1)
    else if charAt? cs i ≠ some '"' then
      .error (.malformed "Expecting property name enclosed in double quotes" i)
    else
      match scanString d cs i (i + 1) #[] with
      | .error e => .error e
      | .ok (name, j) =>
        let k := skipBlank cs j
        if charAt? cs k ≠ some ':' then .error (.malformed "Expecting ':' delimiter" k)
        else
          match scanValue d cs depth fuel (skipBlank cs (k + 1)) with
          | .error e => .error e
          | .ok (v, m) =>
            let acc := acc.put (Text.ofPoints name.toList) v
            let n := skipBlank cs m
            match charAt? cs n with
            | some '}' => .ok (.obj acc, n + 1)
            | some ',' => scanObject d cs depth fuel (skipBlank cs (n + 1)) false acc
            | _ => .error (.malformed "Expecting ',' delimiter" n)

end

def readValueOf (d : Dialect) (cs : Array Nat) : Except ReadError Value := do
  let (v, j) ← scanValue d cs 0 (2 * cs.size + 2) (skipBlank cs 0)
  let k := skipBlank cs j
  if k < cs.size then throw (.malformed "Extra data" k)
  return v

/-- Read a whole JSON text: one value between optional blanks. -/
def readJson (text : String) (d : Dialect := {}) : Except ReadError Value := do
  let cs := (Text.points text).toArray
  if cs[0]? = some 0xFEFF then
    throw (.malformed "Unexpected UTF-8 BOM (decode using utf-8-sig)" 0)
  readValueOf d cs

/-- Read a whole JSON text given as code points, unpaired surrogates among them. -/
def readJsonPoints (ps : List Nat) (d : Dialect := {}) : Except ReadError Value :=
  readValueOf d ps.toArray

def depthMessage (array : Bool) : String :=
  "maximum recursion depth exceeded while decoding a JSON " ++ (if array then "array" else "object") ++
    " from a unicode string"

def lineColumn (text : List Nat) (pos : Nat) : Nat × Nat :=
  let before := text.take pos
  let line := before.count '\n'.toNat + 1
  let lastBreak := (before.reverse.findIdx? (· == '\n'.toNat)).map (fun k => pos - k - 1)
  (line, match lastBreak with | some b => pos - b | none => pos + 1)

/-- The message of a failure on the code points `text`, with line, column and offset. -/
def ReadError.describePoints (text : List Nat) : ReadError → String
  | .malformed msg pos =>
    let (line, col) := lineColumn text pos
    msg ++ ": line " ++ toString line ++ " column " ++ toString col ++ " (char " ++ toString pos ++ ")"
  | .tooManyDigits n =>
    "Exceeds the limit (4300 digits) for integer string conversion: value has " ++ toString n ++
      " digits; use sys.set_int_max_str_digits() to increase the limit"
  | .tooDeep array _ => depthMessage array

def ReadError.describe (text : String) (e : ReadError) : String := e.describePoints (Text.points text)

end PortableSearch.Json
