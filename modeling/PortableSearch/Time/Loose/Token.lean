import PortableSearch.Text.Classes

/-! The tokens of loosely written dates: runs of letters, runs of digits, one blank for each run of
white space, and every other character alone. A point inside a run is kept when it may be a
decimal point; otherwise the run is cut again at every point and comma. -/

namespace PortableSearch.Time.Loose

/-- What the token being read is so far. -/
inductive Shape where
  | word
  | number
  | wordPoints
  | numberPoints
  deriving Repr, DecidableEq, Inhabited

/-- A token being read: its characters in reverse, its shape, and whether a character was read
after a letter run had started. -/
structure Partial where
  rev : List Char
  shape : Shape
  letters : Bool := false
  deriving Repr, Inhabited

def isWordChar (c : Char) : Bool := Text.isLetter c

def isNumberChar (c : Char) : Bool := Text.isDigitLike c

/-- Cut a token at every point and comma, keeping each as a token of its own and dropping
empty pieces. -/
def cutAtPoints (cs : List Char) : List String :=
  let rec go : List Char → List Char → List String
    | [], cur => if cur.isEmpty then [] else [String.ofList cur.reverse]
    | c :: rest, cur =>
      if c = '.' ∨ c = ',' then
        (if cur.isEmpty then [] else [String.ofList cur.reverse]) ++ c.toString :: go rest []
      else go rest (c :: cur)
  go cs []

def Partial.finish (p : Partial) : List String :=
  let cs := p.rev.reverse
  let points := cs.count '.'
  let split := (p.shape = .wordPoints ∨ p.shape = .numberPoints) ∧
    (p.letters ∨ points > 1 ∨ p.rev.head? = some '.' ∨ p.rev.head? = some ',')
  let pieces := if split then cutAtPoints cs else [String.ofList cs]
  match pieces with
  | first :: rest =>
    if p.shape = .numberPoints ∧ first.toList.count '.' = 0 then
      String.ofList (first.toList.map (fun c => if c = ',' then '.' else c)) :: rest
    else first :: rest
  | [] => []

def start (c : Char) : Sum String Partial :=
  if isWordChar c then .inr { rev := [c], shape := .word }
  else if isNumberChar c then .inr { rev := [c], shape := .number }
  else if Text.isSpace c then .inl " "
  else .inl c.toString

/-- Read `c` into a token: the longer token, or none when `c` ends it. -/
def Partial.extend (p : Partial) (c : Char) : Option Partial :=
  let last := p.rev.head?.getD ' '
  match p.shape with
  | .word =>
    if isWordChar c then some { p with rev := c :: p.rev, letters := true }
    else if c = '.' then some { p with rev := c :: p.rev, shape := .wordPoints, letters := true }
    else none
  | .number =>
    if isNumberChar c then some { p with rev := c :: p.rev }
    else if c = '.' ∨ (c = ',' ∧ p.rev.length ≥ 2) then
      some { p with rev := c :: p.rev, shape := .numberPoints }
    else none
  | .wordPoints =>
    if c = '.' ∨ isWordChar c then some { p with rev := c :: p.rev, letters := true }
    else if isNumberChar c ∧ last = '.' then
      some { p with rev := c :: p.rev, shape := .numberPoints, letters := true }
    else none
  | .numberPoints =>
    if c = '.' ∨ isNumberChar c then some { p with rev := c :: p.rev }
    else if isWordChar c ∧ last = '.' then some { p with rev := c :: p.rev, shape := .wordPoints }
    else none

def Partial.endedBy (p : Partial) : Partial :=
  if p.shape = .word ∨ p.shape = .wordPoints then { p with letters := true } else p

/-- Read the characters of a text into tokens, after the tokens in `done`. -/
def scan : List Char → Option Partial → Array String → Array String
  | [], none, done => done
  | [], some p, done => done ++ p.finish
  | c :: rest, none, done =>
    match start c with
    | .inl t => scan rest none (done.push t)
    | .inr p => scan rest (some p) done
  | c :: rest, some p, done =>
    match p.extend c with
    | some q => scan rest (some q) done
    | none =>
      let done := done ++ p.endedBy.finish
      match start c with
      | .inl t => scan rest none (done.push t)
      | .inr q => scan rest (some q) done

def tokens (text : String) : List String :=
  (scan (text.toList.filter (· ≠ Char.ofNat 0)) none #[]).toList

example : tokens "18 November 2014 10:30" =
    ["18", " ", "November", " ", "2014", " ", "10", ":", "30"] := by decide +kernel
example : tokens "2014-11-18T10:30:00.5Z" =
    ["2014", "-", "11", "-", "18", "T", "10", ":", "30", ":", "00.5", "Z"] := by decide +kernel
example : tokens "Sep.20.2009" = ["Sep", ".", "20", ".", "2009"] := by decide +kernel
example : tokens "4:30:21,447" = ["4", ":", "30", ":", "21.447"] := by decide +kernel

end PortableSearch.Time.Loose
