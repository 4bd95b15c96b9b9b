import PortableSearch.Time.Stamp
import PortableSearch.Text.Surrogate

/-! Document values: JSON's values with byte strings, date-times, typed records, mappings with keys
that are not strings and tuples. An object keeps its members in insertion order, and `Members.put`
keeps a name where it first stood. -/

namespace PortableSearch

open PortableSearch.Time

/-- A document value. -/
inductive Value where
  | null
  | bool (b : Bool)
  | int (n : Int)
  | float (x : Float)
  | str (s : String)
  | bytes (b : List UInt8)
  | time (t : Stamp)
  | list (xs : List Value)
  | obj (ms : List (String × Value))
  | record (model : String) (fields : List (String × Value))
  /-- A mapping built from key-value pairs whose keys are not all strings, in insertion order. -/
  | mapping (entries : List (Value × Value))
  /-- A fixed sequence of values, such as the pair of a field's name and value that a record
  gives for each of its fields when it is iterated; it may be a mapping's key. -/
  | tuple (items : List Value)
  deriving Inhabited

/-- The members of an object, in insertion order. -/
abbrev Members := List (String × Value)

namespace Members

def get? : Members → String → Option Value
  | [], _ => none
  | m :: rest, k => if m.1 = k then some m.2 else get? rest k

def contains : Members → String → Bool
  | [], _ => false
  | m :: rest, k => m.1 == k || contains rest k

/-- Set member `k` to `v`: in place when present, else at the end. -/
def put : Members → String → Value → Members
  | [], k, v => [(k, v)]
  | m :: rest, k, v => if m.1 = k then (k, v) :: rest else m :: put rest k v

def erase (ms : Members) (k : String) : Members :=
  ms.filter (fun m => m.1 != k)

def ofList (xs : List (String × Value)) : Members :=
  xs.foldl (fun acc m => acc.put m.1 m.2) []

def compact (ms : Members) : Members :=
  ms.filter (fun m => match m.2 with | .null => false | _ => true)

def names (ms : Members) : List String := ms.map Prod.fst

theorem names_put (ms : Members) (k : String) (v : Value) :
    (ms.put k v).names = if ms.contains k then ms.names else ms.names ++ [k] := by
  induction ms with
  | nil => simp [put, names, contains]
  | cons m rest ih =>
    by_cases hm : m.1 = k
    · simp [put, names, contains, hm]
    · have hb : (m.1 == k) = false := by simp [hm]
      simp only [put, hm, if_false, contains, hb, Bool.false_or]
      simp only [names, List.map_cons] at ih ⊢
      rw [ih]
      split <;> simp

theorem get?_put (ms : Members) (k j : String) (v : Value) :
    (ms.put k v).get? j = if j = k then some v else ms.get? j := by
  induction ms with
  | nil =>
    by_cases hj : j = k
    · simp [put, get?, hj]
    · simp [put, get?, hj, Ne.symm hj]
  | cons m rest ih =>
    by_cases hm : m.1 = k
    · by_cases hj : j = k
      · simp [put, get?, hm, hj]
      · have hmj : m.1 ≠ j := fun h => hj (h ▸ hm)
        simp [put, get?, hm, hj, Ne.symm hj]
    · simp only [put, hm, if_false, get?]
      rw [ih]
      by_cases hj : j = k
      · simp only [hj, if_true, if_neg hm]
      · simp [hj]

end Members

namespace Value

def members : Value → Members
  | .obj ms => ms
  | _ => []

def get? (v : Value) (k : String) : Option Value := v.members.get? k

/-- The name of a value's type as the data model spells it in messages. -/
def typeName : Value → String
  | .null => "NoneType"
  | .bool _ => "bool"
  | .int _ => "int"
  | .float _ => "float"
  | .str _ => "str"
  | .bytes _ => "bytes"
  | .time _ => "datetime"
  | .list _ => "list"
  | .obj _ => "dict"
  | .record m _ => m
  | .mapping _ => "dict"
  | .tuple _ => "tuple"

/-- Truth of a value: null, false, zero, and empty strings, byte strings, arrays and objects are
false; everything else is true. -/
def truthy : Value → Bool
  | .null => false
  | .bool b => b
  | .int n => n != 0
  | .float x => !(x == 0.0)
  | .str s => !s.isEmpty
  | .bytes b => !b.isEmpty
  | .list xs => !xs.isEmpty
  | .obj ms => !ms.isEmpty
  | .time _ => true
  | .record _ _ => true
  | .mapping es => !es.isEmpty
  | .tuple xs => !xs.isEmpty

def isNull : Value → Bool
  | .null => true
  | _ => false

def str? : Value → Option String
  | .str s => some s
  | _ => none

/-- The value of a mapping's entries: an object when every key is a string. -/
def ofEntries (es : List (Value × Value)) : Value :=
  match es.mapM (fun (k, v) => k.str?.map (·, v)) with
  | some ms => .obj ms
  | none => .mapping es

def ofCodePoints (ns : List Nat) : Value := .str (Text.ofPoints ns)

end Value

end PortableSearch
