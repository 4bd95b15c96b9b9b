import PortableSearch.Value
import PortableSearch.Text.Literal
import PortableSearch.Json.Write

/-! Values as display text: `Value.display` is the plain text of a value and `Value.literalText` the
text that reads back as it; inside arrays and objects every item shows by its literal text. -/

namespace PortableSearch

open PortableSearch.Text PortableSearch.Time

/-- The literal of a fixed UTC offset of `off` microseconds, as a time zone. -/
def offsetLiteral (off : Int) : String :=
  if off = 0 then "datetime.timezone.utc"
  else
    let days := off / microsPerDay
    let rest := off % microsPerDay
    let seconds := rest / 1000000
    let micros := rest % 1000000
    let parts := (if days ≠ 0 then ["days=" ++ toString days] else []) ++
      (if seconds ≠ 0 then ["seconds=" ++ toString seconds] else []) ++
      (if micros ≠ 0 then ["microseconds=" ++ toString micros] else [])
    "datetime.timezone(datetime.timedelta(" ++ ", ".intercalate parts ++ "))"

def Time.Stamp.literal (s : Stamp) : String :=
  let r := Reading.ofMicros s.wall
  let base := [toString r.year, toString r.month, toString r.day, toString r.hour, toString r.minute]
  let tail := if r.micro ≠ 0 then [toString r.second, toString r.micro]
    else if r.second ≠ 0 then [toString r.second] else []
  let zone := match s.offset, s.style with
    | some o, .timezone => ", tzinfo=" ++ offsetLiteral o
    | some o, .seconds => ", tzinfo=TzInfo(" ++ toString (o / 1000000) ++ ")"
    | none, _ => ""
  "datetime.datetime(" ++ ", ".intercalate (base ++ tail) ++ zone ++ ")"

def fieldAttribute (name : String) : String :=
  if name = "from" then "from_" else name

def enumLiteral (model field : String) (v : Value) : Option String :=
  match model, field, v with
  | "AggSort", "type", .str "count" => some "<SortType.COUNT: 'count'>"
  | "AggSort", "type", .str "lexical" => some "<SortType.LEXICAL: 'lexical'>"
  | _, "direction", .str "asc" => some "<Direction.ASCENDING: 'asc'>"
  | _, "direction", .str "desc" => some "<Direction.DESCENDING: 'desc'>"
  | _, _, _ => none

mutual

/-- The text of a value that reads back as it. -/
def Value.literalText : Value → String
  | .str s => literal s
  | .bytes b => bytesLiteral b
  | .time t => t.literal
  | .record m fs => m ++ "(" ++ recordFields m ", " fs ++ ")"
  | v => Value.display v

/-- The plain text of a value. -/
def Value.display : Value → String
  | .null => "None"
  | .bool b => if b then "True" else "False"
  | .int n => Json.intText n
  | .float x => Decimal.floatText x
  | .str s => s
  | .bytes b => bytesLiteral b
  | .time t => t.isoText ' '
  | .list xs => "[" ++ itemsText xs ++ "]"
  | .obj ms => "\x7b" ++ membersText ms ++ "\x7d"
  | .record m fs => recordFields m " " fs
  | .mapping es => "\x7b" ++ entriesText es ++ "\x7d"
  | .tuple [x] => "(" ++ Value.literalText x ++ ",)"
  | .tuple xs => "(" ++ itemsText xs ++ ")"

def itemsText : List Value → String
  | [] => ""
  | [x] => Value.literalText x
  | x :: rest => Value.literalText x ++ ", " ++ itemsText rest

def membersText : List (String × Value) → String
  | [] => ""
  | [(k, v)] => literal k ++ ": " ++ Value.literalText v
  | (k, v) :: rest => literal k ++ ": " ++ Value.literalText v ++ ", " ++ membersText rest

def entriesText : List (Value × Value) → String
  | [] => ""
  | [(k, v)] => Value.literalText k ++ ": " ++ Value.literalText v
  | (k, v) :: rest => Value.literalText k ++ ": " ++ Value.literalText v ++ ", " ++ entriesText rest

def recordFields (model sep : String) : List (String × Value) → String
  | [] => ""
  | [(k, v)] => fieldAttribute k ++ "=" ++ ((enumLiteral model k v).getD (Value.literalText v))
  | (k, v) :: rest =>
    fieldAttribute k ++ "=" ++ ((enumLiteral model k v).getD (Value.literalText v)) ++ sep ++
      recordFields model sep rest

end

end PortableSearch
