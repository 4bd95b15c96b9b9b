import PortableSearch.Text.Classes

/-! Environment files: one `KEY=value` statement a line, optionally after `export`, with quoted
values, comments after `#`, and `${NAME}` or `${NAME:-default}` standing for a variable of the
environment or one set earlier in the file. -/

namespace PortableSearch.EnvFile

/-- One statement of a file: a key and its value, none when no `=` follows the key. -/
structure Binding where
  key : String
  value : Option String
  deriving Repr, DecidableEq

def isInlineSpace (c : Char) : Bool := Text.isSpace c && c != '\n'

def normalizeBreaks : List Char → List Char
  | [] => []
  | '\r' :: '\n' :: rest => '\n' :: normalizeBreaks rest
  | '\r' :: rest => '\n' :: normalizeBreaks rest
  | c :: rest => c :: normalizeBreaks rest

/-- The body of a quoted value after its opening quote `q`, and the text after its closing quote:
a backslash keeps the character after it in the body, and the body ends at the first quote
outside such a pair; none when no quote closes it. -/
def quotedBody (q : Char) : List Char → List Char → Option (List Char × List Char)
  | [], _ => none
  | ['\\'], _ => none
  | '\\' :: c :: rest, acc => quotedBody q rest (c :: '\\' :: acc)
  | c :: rest, acc => if c = q then some (acc.reverse, rest) else quotedBody q rest (c :: acc)

def escapeOf : Char → Option Char
  | '\\' => some '\\'
  | '\'' => some (Char.ofNat 39)
  | '"' => some '"'
  | 'a' => some (Char.ofNat 7)
  | 'b' => some (Char.ofNat 8)
  | 'f' => some (Char.ofNat 12)
  | 'n' => some '\n'
  | 'r' => some '\r'
  | 't' => some '\t'
  | 'v' => some (Char.ofNat 11)
  | _ => none

def unescape (decode : Char → Option Char) : List Char → List Char
  | [] => []
  | '\\' :: c :: rest => match decode c with
    | some d => d :: unescape decode rest
    | none => '\\' :: unescape decode (c :: rest)
  | c :: rest => c :: unescape decode rest

def singleEscapeOf (c : Char) : Option Char :=
  if c = '\\' ∨ c = Char.ofNat 39 then some c else none

def cutComment : List Char → List Char
  | [] => []
  | c :: rest =>
    if Text.isSpace c && (rest.dropWhile Text.isSpace).head? = some '#' then []
    else c :: cutComment rest

/-- The value that starts a text, and the text after it; none when a quoted value is not
closed. -/
def readValue (cs : List Char) : Option (String × List Char) :=
  match cs with
  | '"' :: rest => (quotedBody '"' rest []).map fun (body, after) =>
      (String.ofList (unescape escapeOf body), after)
  | c :: rest =>
    if c = Char.ofNat 39 then (quotedBody c rest []).map fun (body, after) =>
      (String.ofList (unescape singleEscapeOf body), after)
    else if c = '\n' then some ("", cs)
    else
      let line := cs.takeWhile (· != '\n')
      let kept := (cutComment line).reverse.dropWhile Text.isSpace |>.reverse
      some (String.ofList kept, cs.drop line.length)
  | [] => some ("", [])

/-- The key that starts a text, none for a comment, and the text after it; the outer none when
no key reads. -/
def readKey (cs : List Char) : Option (Option String × List Char) :=
  match cs with
  | '#' :: _ => some (none, cs)
  | c :: rest =>
    if c = Char.ofNat 39 then
      let body := rest.takeWhile (· != c)
      match rest.drop body.length with
      | _ :: after => if body.isEmpty then none else some (some (String.ofList body), after)
      | [] => none
    else
      let key := cs.takeWhile fun d => d != '=' && d != '#' && !Text.isSpace d
      if key.isEmpty then none else some (some (String.ofList key), cs.drop key.length)
  | [] => none

def dropExport (cs : List Char) : List Char :=
  match cs with
  | 'e' :: 'x' :: 'p' :: 'o' :: 'r' :: 't' :: c :: rest =>
    if isInlineSpace c then rest.dropWhile isInlineSpace else cs
  | _ => cs

def endOfLine (cs : List Char) : Option (List Char) :=
  let cs := cs.dropWhile isInlineSpace
  let cs := if cs.head? = some '#' then cs.dropWhile (· != '\n') else cs
  match cs with
  | [] => some []
  | '\n' :: rest => some rest
  | _ => none

/-- One statement at the start of a text, after white space: its binding, if it has a key, and
the text after it. -/
def readStatement (cs : List Char) : Option Binding × List Char :=
  let skipLine (cs : List Char) : List Char := (cs.dropWhile (· != '\n')).drop 1
  let cs := dropExport cs
  match readKey cs with
  | none => (none, skipLine cs)
  | some (key, rest) =>
    let rest := rest.dropWhile isInlineSpace
    let valued : Option (Option String × List Char) := match rest with
      | '=' :: more =>
        let start := more.dropWhile isInlineSpace
        if start.length < more.length ∧ start.head? = some '#' then some (some "", start)
        else (readValue start).map fun (v, after) => (some v, after)
      | _ => some (none, rest)
    match valued with
    | none => (none, skipLine rest)
    | some (value, after) =>
      match endOfLine after with
      | some next => (key.map fun k => { key := k, value }, next)
      | none => (none, skipLine after)

/-- The bindings of a text, in order; `fuel` bounds the number of statements. -/
def statements : Nat → List Char → List Binding
  | 0, _ => []
  | fuel + 1, cs =>
    match cs.dropWhile Text.isSpace with
    | [] => []
    | body =>
      let (b, rest) := readStatement body
      let later := statements fuel rest
      match b with
      | some b => b :: later
      | none => later

def parse (text : String) : List Binding :=
  let cs := normalizeBreaks (match text.toList with | '\ufeff' :: rest => rest | cs => cs)
  statements (cs.length + 1) cs

/-- One piece of a value: literal text, or a variable with an optional default. -/
inductive Piece where
  | literal (text : List Char)
  | variable (name : String) (default : Option String)

def readReference (cs : List Char) : Option (Piece × List Char) :=
  let name := cs.takeWhile fun c => c != '}' && c != ':'
  match cs.drop name.length with
  | '}' :: after => some (.variable (String.ofList name) none, after)
  | ':' :: '-' :: more =>
    let default := more.takeWhile (· != '}')
    match more.drop default.length with
    | '}' :: after => some (.variable (String.ofList name) (some (String.ofList default)), after)
    | _ => none
  | _ => none

def piecesOf : Nat → List Char → List Char → List Piece
  | 0, _, acc => if acc.isEmpty then [] else [.literal acc.reverse]
  | _, [], acc => if acc.isEmpty then [] else [.literal acc.reverse]
  | fuel + 1, '$' :: '{' :: rest, acc =>
    match readReference rest with
    | some (p, after) =>
      (if acc.isEmpty then [] else [.literal acc.reverse]) ++ p :: piecesOf fuel after []
    | none => piecesOf fuel ('{' :: rest) ('$' :: acc)
  | fuel + 1, c :: rest, acc => piecesOf fuel rest (c :: acc)

def pieces (value : String) : List Piece :=
  piecesOf (value.length + 1) value.toList []

/-- A value with its variables replaced: `lookup` gives the value of a variable, which may be
set without a value. -/
def expand (lookup : String → Option (Option String)) (value : String) : String :=
  String.join ((pieces value).map fun
    | .literal cs => String.ofList cs
    | .variable name default =>
      match lookup name with
      | some v => v.getD ""
      | none => default.getD "")

/-- The variables a file sets in an environment: each binding with a value, its variables
expanded against the environment and the bindings before it, and not already set in the
environment. A later binding of a key replaces an earlier one. -/
def load (env : List (String × String)) (bindings : List Binding) : List (String × String) :=
  let resolved : List (String × Option String) := bindings.foldl (fun acc b =>
    let lookup (name : String) : Option (Option String) :=
      match env.lookup name with
      | some v => some (some v)
      | none => acc.lookup name
    let value := b.value.map (expand lookup)
    if (acc.lookup b.key).isSome then acc.map (fun (k, v) => if k = b.key then (k, value) else (k, v))
    else acc ++ [(b.key, value)]) []
  resolved.filterMap fun (k, v) =>
    if (env.lookup k).isSome then none else v.map (k, ·)

end PortableSearch.EnvFile
