import PortableSearch.Model.Check
import PortableSearch.Value.Display
import PortableSearch.Time.Loose

/-! Every way an operation of the library can fail. `Fault.kind` names the kind of a fault and
`Fault.message` gives its text. -/

namespace PortableSearch

open PortableSearch.Model

/-- Why a date-math expression does not evaluate. -/
inductive DateMathIssue where
  | empty
  | missingUnit
  | roundingAmount
  | unexpectedOperator (point : Nat)
  | unknownUnit (point : Nat)
  | unreadableDate (failure : Time.Loose.Failure)
  deriving Repr, Inhabited

def DateMathIssue.reason : DateMathIssue → String
  | .empty => "empty expression"
  | .missingUnit => "missing unit"
  | .roundingAmount => "rounding does not take an amount"
  | .unexpectedOperator p => "unexpected operator " ++ "'" ++ Text.ofPoints [p] ++ "'"
  | .unknownUnit p => "unknown unit " ++ "'" ++ Text.ofPoints [p] ++ "'"
  | .unreadableDate failure => failure.message

/-- Why a mapping cannot be built from a value, as a dictionary is built from a mapping or from a
sequence of key-value pairs. -/
inductive MappingIssue where
  | notIterable (typeName : String)
  | elementNotSequence (index : Nat)
  | elementLength (index length : Nat)
  | unhashable (typeName : String)
  deriving Inhabited

def MappingIssue.message : MappingIssue → String
  | .notIterable t => "'" ++ t ++ "' object is not iterable"
  | .elementNotSequence i =>
    "cannot convert dictionary update sequence element #" ++ toString i ++ " to a sequence"
  | .elementLength i n =>
    "dictionary update sequence element #" ++ toString i ++ " has length " ++ toString n ++ "; 2 is required"
  | .unhashable t => "unhashable type: '" ++ t ++ "'"

/-- Why an operation failed. -/
inductive Fault where
  | unsupportedQuery (kind : String)
  | unsupportedAgg (key kind : String)
  | invalidNative (key reason : String)
  | invalidInterval (key interval : String)
  | invalidDateMath (expression : String) (issue : DateMathIssue)
  | unknownZone (name : String)
  | malformedReply (reason : String)
  | malformedReplyAt (locs : List Loc)
  | scrollExhausted
  | configuration (name value : String)
  | indexRequired
  | yearOutOfRange (year : Int)
  | offsetOutOfRange
  | dateOutOfRange
  | durationOutOfRange (days : Int)
  /-- The fraction of a number whose whole part has more digits than decimal arithmetic keeps. -/
  | divisionImpossible
  | badMonth (month : Nat)
  /-- A zone text whose arithmetic needs the standard offset it does not give; `operator` is the
  arithmetic that needed it. -/
  | missingOffset (operator : String)
  | overflow (narrowing : Narrowing)
  | tooManyDigits (count : Nat)
  | invalidInteger (text : String)
  | notMapping (issue : MappingIssue)
  | noMembers (typeName : String)
  | transport (reason : String)
  | invalid (locs : List Loc)
  | abstractQuery
  /-- A document naming a model kind of the family that does not exist; `tag` is the name
  given, null when none is. -/
  | unknownKind (family : String) (tag : Value)
  | notAnObject (role : String)
  deriving Inhabited

def quoted (s : String) : String := "'" ++ s ++ "'"

def Fault.kind : Fault → String
  | .unsupportedQuery _ => "UnsupportedQueryKind"
  | .unsupportedAgg _ _ => "UnsupportedAggregationKind"
  | .invalidNative _ _ => "InvalidNativeAggregation"
  | .invalidInterval _ _ => "InvalidInterval"
  | .invalidDateMath _ _ => "InvalidDateMath"
  | .unknownZone _ => "UnknownTimeZone"
  | .malformedReply _ => "MalformedReply"
  | .malformedReplyAt _ => "MalformedReply"
  | .scrollExhausted => "ScrollExhausted"
  | .configuration _ _ => "ConfigurationError"
  | .indexRequired => "ValueError"
  | .yearOutOfRange _ => "ValueError"
  | .offsetOutOfRange => "ValueError"
  | .dateOutOfRange => "OverflowError"
  | .durationOutOfRange _ => "OverflowError"
  | .divisionImpossible => "InvalidOperation"
  | .badMonth _ => "IllegalMonthError"
  | .missingOffset _ => "TypeError"
  | .overflow _ => "OverflowError"
  | .tooManyDigits _ => "ValueError"
  | .invalidInteger _ => "ValueError"
  | .notMapping (.elementLength _ _) => "ValueError"
  | .notMapping _ => "TypeError"
  | .noMembers _ => "AttributeError"
  | .transport _ => "TransportError"
  | .invalid _ => "ValidationError"
  | .abstractQuery => "NotImplementedError"
  | .unknownKind _ _ => "DriverError"
  | .notAnObject _ => "DriverError"

def Fault.message : Fault → String
  | .unsupportedQuery kind => "Unsupported query type: " ++ kind
  | .unsupportedAgg key kind => "Unsupported aggregation type: key = " ++ key ++ ", op = " ++ kind
  | .invalidNative key reason => "Native aggregation " ++ quoted key ++ " is not a JSON object: " ++ reason
  | .invalidInterval key interval =>
    "Date histogram " ++ quoted key ++ ": interval " ++ quoted interval ++
      " is a multiple of a calendar unit; only single calendar units (1w, 1M, 1q, 1y) are supported"
  | .invalidDateMath expression issue =>
    "Invalid date math expression " ++ quoted expression ++ ": " ++ issue.reason
  | .unknownZone name => "Unknown time zone: " ++ name
  | .malformedReply reason => "Malformed search reply: " ++ reason
  | .malformedReplyAt _ => "Malformed search reply"
  | .scrollExhausted => "Scroll iterator has no more hits"
  | .configuration name value => "Invalid value for " ++ name ++ ": " ++ Text.literal value
  | .indexRequired => "index is required (provide as parameter or set SEARCH_BRIDGE_INDEX)"
  | .yearOutOfRange year => "year " ++ toString year ++ " is out of range"
  | .offsetOutOfRange =>
    "offset must be a timedelta strictly between -timedelta(hours=24) and timedelta(hours=24)."
  | .dateOutOfRange => "date value out of range"
  | .durationOutOfRange days => "days=" ++ toString days ++ "; must have magnitude <= 999999999"
  | .divisionImpossible => "[<class 'decimal.DivisionImpossible'>]"
  | .badMonth month => "bad month number " ++ toString month ++ "; must be 1-12"
  | .missingOffset operator =>
    "unsupported operand type(s) for " ++ operator ++ ": " ++ quoted "NoneType" ++ " and " ++ quoted "int"
  | .overflow n => n.message
  | .tooManyDigits count =>
    "Exceeds the limit (4300 digits) for integer string conversion: value has " ++ toString count ++
      " digits; use sys.set_int_max_str_digits() to increase the limit"
  | .invalidInteger text => "invalid literal for int() with base 10: " ++ Text.literal text
  | .notMapping issue => issue.message
  | .noMembers t => "'" ++ t ++ "' object has no attribute 'get'"
  | .transport reason => reason
  | .invalid _ => "validation failed"
  | .abstractQuery => "EsQuery"
  | .unknownKind family tag => "unknown " ++ family ++ " type " ++ tag.literalText
  | .notAnObject role => role ++ " must be an object"

def Fault.locs? : Fault → Option (List Loc)
  | .invalid ls => some ls
  | .malformedReplyAt ls => some ls
  | _ => none

/-- A result of the library: a value or a fault. -/
abbrev Outcome (α : Type) := Except Fault α

def Model.Checked.toOutcome {α : Type} : Checked α → Outcome α
  | .ok a => .ok a
  | .failed ls => .error (.invalid ls)

end PortableSearch

namespace PortableSearch.Model

/-- The items of a list field whose items are models, each built by `build` in order; the first
item that fails to build stops the reading. -/
def buildItems {α : Type} (build : Value → Outcome α) : List Value → Outcome (Checked (List α))
  | [] => .ok (.ok [])
  | x :: rest => do
    let head ← build x
    let tail ← buildItems build rest
    pure (List.cons head <$> tail)

def buildEntries {α : Type} (build : Value → Outcome α) :
    List (String × Value) → Outcome (Checked (List (String × α)))
  | [] => .ok (.ok [])
  | (k, x) :: rest => do
    let head ← build x
    let tail ← buildEntries build rest
    pure (List.cons (k, head) <$> tail)

/-- The child lists of a model's fields named in `names`, built in the order of `names`, which
is the order the model declares them in: a list is built item by item, anything else fails at
the field. -/
def buildChildren {α : Type} (build : Value → Outcome α) (names : List String) (fs : Fields) :
    Outcome (List (String × Checked (List α))) :=
  match names with
  | [] => .ok []
  | k :: rest => do
    let here : Option (String × Checked (List α)) ← match fs.get? k with
      | some (.list xs) => do
        let items ← buildItems build xs
        pure (some (k, items))
      | some _ => pure (some (k, .here))
      | none => pure none
    let others ← buildChildren build rest fs
    pure (match here with
      | some c => c :: others
      | none => others)

/-- The check of a child-list field from its built children: missing takes `default` (a
missing field without default fails). -/
def childField {α : Type} (built : List (String × Checked (List α))) (name : String)
    (default : Option (List α)) : Checked (List α) :=
  match built.lookup name with
  | some c => c.under (.name name)
  | none => match default with
    | some d => .ok d
    | none => .failed [[.name name]]

end PortableSearch.Model
