import PortableSearch.Model.Check
import PortableSearch.Fault
import PortableSearch.Text.Classes
import PortableSearch.EnvFile

/-! Settings: the defaults a search client starts from, read from the environment variables
`SEARCH_BRIDGE_` and the field's name in upper case; a value that does not read as its field's
type is a configuration fault naming the first such field. -/

namespace PortableSearch

open PortableSearch.Model

/-- The defaults of a search client. -/
structure Settings where
  esHost : String := "http://localhost:9200"
  index : Option String := none
  documentType : String := "_doc"
  scrollKeepAlive : String := "1m"
  timeZone : String := "UTC"
  pageSize : Int := 50
  requestTimeout : Float := 30.0
  verifyCerts : Bool := true

def Settings.fieldNames : List String :=
  ["es_host", "index", "document_type", "scroll_keep_alive", "time_zone", "page_size",
    "request_timeout", "verify_certs"]

def Settings.check (fs : Fields) : Checked Settings :=
  Settings.mk <$> withDefault fs "es_host" "http://localhost:9200" str <*>
    optional fs "index" str <*> withDefault fs "document_type" "_doc" str <*>
    withDefault fs "scroll_keep_alive" "1m" str <*> withDefault fs "time_zone" "UTC" str <*>
    withDefault fs "page_size" 50 int <*> withDefault fs "request_timeout" 30.0 float <*>
    withDefault fs "verify_certs" true bool

def Settings.toValue (s : Settings) : Value :=
  .obj [("es_host", .str s.esHost), ("index", match s.index with
      | some i => .str i
      | none => .null),
    ("document_type", .str s.documentType), ("scroll_keep_alive", .str s.scrollKeepAlive),
    ("time_zone", .str s.timeZone), ("page_size", .int s.pageSize),
    ("request_timeout", .float s.requestTimeout), ("verify_certs", .bool s.verifyCerts)]

def Settings.variablePrefix : String := "SEARCH_BRIDGE_"

def Settings.variableOf (field : String) : String :=
  Settings.variablePrefix ++ String.ofList (field.toList.map Char.toUpper)

/-- The value of a variable as a setting: none when unset or blank, else without the blanks
around it. -/
def settingValue (raw : Option String) : Option String :=
  match raw with
  | some v => let t := Text.strip v; if t.isEmpty then none else some t
  | none => none

/-- Read settings from environment variables, given by `lookup`. -/
def Settings.ofVariables (lookup : String → Option String) : Outcome Settings :=
  let values : Members := Settings.fieldNames.filterMap fun name =>
    (settingValue (lookup (Settings.variableOf name))).map fun v => (name, .str v)
  match Settings.check values with
  | .ok s => .ok s
  | .failed locs =>
    let name := match locs.head? with
      | some (.name n :: _) => n
      | _ => ""
    let value := match values.get? name with
      | some (.str v) => v
      | _ => ""
    .error (.configuration (Settings.variableOf name) value)

/-- Read settings from an environment and the text of an environment file, whose variables
do not replace those of the environment. -/
def Settings.ofEnvironment (env : List (String × String)) (file : String) : Outcome Settings :=
  let all := env ++ EnvFile.load env (EnvFile.parse file)
  Settings.ofVariables fun k => List.lookup k all

end PortableSearch
