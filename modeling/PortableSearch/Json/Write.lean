import PortableSearch.Value
import PortableSearch.Decimal.Shortest

/-! Writing values as ASCII JSON text: every character outside space to tilde is escaped, doubles
are written with the fewest digits that read back, and the values JSON cannot hold are written as
tagged objects (`{"$float": "nan"}`, `{"$datetime": iso}`, `{"$bytes_hex": hex}`). -/

namespace PortableSearch.Json

open PortableSearch.Decimal

def hexDigit (n : Nat) : Char :=
  if n < 10 then Char.ofNat (48 + n) else Char.ofNat (87 + n)

def hex4 (n : Nat) : String :=
  String.ofList [hexDigit (n / 4096 % 16), hexDigit (n / 256 % 16), hexDigit (n / 16 % 16), hexDigit (n % 16)]

/-- The JSON text of one code point inside a string, in ASCII. -/
def escapePoint (n : Nat) : String :=
  match Char.ofNat n with
  | '"' => "\\\""
  | '\\' => "\\\\"
  | '\n' => "\\n"
  | '\r' => "\\r"
  | '\t' => "\\t"
  | '\x08' => "\\b"
  | '\x0c' => "\\f"
  | c =>
    if 0x20 ≤ n ∧ n ≤ 0x7e then c.toString
    else if n < 0x10000 then "\\u" ++ hex4 n
    else
      let v := n - 0x10000
      "\\u" ++ hex4 (0xD800 + v / 1024) ++ "\\u" ++ hex4 (0xDC00 + v % 1024)

def quote (s : String) : String :=
  "\"" ++ String.join ((Text.points s).map escapePoint) ++ "\""

def intText (n : Int) : String :=
  (if n < 0 then "-" else "") ++ String.ofList (Nat.toDigits 10 n.natAbs)

/-- The member name a key of a mapping is written as: a string as itself, an integer in
decimal, a double as its shortest digits (`NaN`, `Infinity`, `-Infinity` when not finite), a
boolean as `true` or `false`, and null as `null`. -/
def keyText : Value → String
  | .str s => s
  | .int n => intText n
  | .float x =>
    if x.isNaN then "NaN" else if x.isInf then (if x > 0 then "Infinity" else "-Infinity") else floatText x
  | .bool b => if b then "true" else "false"
  | .null => "null"
  | _ => ""

def quotedKey (k : Value) : String := quote (keyText k)

mutual

/-- The JSON text of a value. -/
def write : Value → String
  | .null => "null"
  | .bool b => if b then "true" else "false"
  | .int n => intText n
  | .float x =>
    if x.isNaN || x.isInf then "\x7b\"$float\": " ++ quote (floatText x) ++ "\x7d" else floatText x
  | .str s => quote s
  | .bytes b => "\x7b\"$bytes_hex\": \"" ++ String.ofList (b.flatMap fun x => [hexDigit (x.toNat / 16), hexDigit (x.toNat % 16)]) ++ "\"\x7d"
  | .time t => "\x7b\"$datetime\": " ++ quote (t.isoText) ++ "\x7d"
  | .list xs => "[" ++ writeItems xs ++ "]"
  | .obj ms => "\x7b" ++ writeMembers ms ++ "\x7d"
  | .record _ fs => "\x7b" ++ writeMembers fs ++ "\x7d"
  | .mapping es => "\x7b" ++ writeEntries es ++ "\x7d"
  | .tuple xs => "[" ++ writeItems xs ++ "]"

def writeItems : List Value → String
  | [] => ""
  | [x] => write x
  | x :: rest => write x ++ ", " ++ writeItems rest

def writeMembers : List (String × Value) → String
  | [] => ""
  | [(k, v)] => quote k ++ ": " ++ write v
  | (k, v) :: rest => quote k ++ ": " ++ write v ++ ", " ++ writeMembers rest

def writeEntries : List (Value × Value) → String
  | [] => ""
  | [(k, v)] => quotedKey k ++ ": " ++ write v
  | (k, v) :: rest => quotedKey k ++ ": " ++ write v ++ ", " ++ writeEntries rest

end

/-- Whether a key of a mapping has a text as an object's member name: strings, integers,
doubles, booleans and null do. -/
def hasKeyText : Value → Bool
  | .str _ | .int _ | .float _ | .bool _ | .null => true
  | _ => false

mutual

/-- The first key of a mapping inside a value that has no text as a member name, in the order
of writing. -/
def unwritableKey? : Value → Option Value
  | .list xs => unwritableKeyOfItems xs
  | .obj ms => unwritableKeyOfMembers ms
  | .record _ fs => unwritableKeyOfMembers fs
  | .mapping es => unwritableKeyOfEntries es
  | .tuple xs => unwritableKeyOfItems xs
  | _ => none

def unwritableKeyOfItems : List Value → Option Value
  | [] => none
  | x :: rest => (unwritableKey? x).orElse fun _ => unwritableKeyOfItems rest

def unwritableKeyOfMembers : List (String × Value) → Option Value
  | [] => none
  | (_, v) :: rest => (unwritableKey? v).orElse fun _ => unwritableKeyOfMembers rest

def unwritableKeyOfEntries : List (Value × Value) → Option Value
  | [] => none
  | (k, v) :: rest =>
    if hasKeyText k then (unwritableKey? v).orElse fun _ => unwritableKeyOfEntries rest else some k

end

end PortableSearch.Json
