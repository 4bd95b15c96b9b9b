import PortableSearch.Time.Stamp
import PortableSearch.Zone.Rule

/-! The rule tables of the zones of the tz database: transitions, the types they bring into force
and the yearly rule after the last. Each transition is kept twice on the wall clock, moved by the
larger and by the smaller offset around it, so that both occurrences of a repeated time read. -/

namespace PortableSearch.Zone

open PortableSearch.Time

/-- The transitions of a zone and the types they bring into force. -/
structure Table where
  instants : Array Int
  entered : Array LocalType
  /-- The transitions on the wall clock, each moved by the larger offset around it. -/
  wallEarly : Array Int
  /-- The transitions on the wall clock, each moved by the smaller offset around it. -/
  wallLate : Array Int
  before : LocalType
  after : Rule
  deriving Repr, Inhabited

/-- The number of items of the ascending part of `xs` between `lo` and `hi` that are at most `x`,
plus `lo`: the point right of every item not above `x`, found by halving. -/
def bisectRight (xs : Array Int) (x : Int) (lo hi : Nat) : Nat :=
  if h : lo < hi then
    let mid := (lo + hi) / 2
    if x < xs.getD mid 0 then bisectRight xs x lo mid
    else bisectRight xs x (mid + 1) hi
  else lo
termination_by hi - lo

def secondsMicros (s : Int) : Int := s * 1000000

def wholeSecond (micros : Int) : Int := micros / 1000000

def yearOf (micros : Int) : Int := (civilFromDays (dayOf micros)).1

/-- The type before the first transition: the first standard type listed, else the type the
first transition enters, else the first type listed. -/
def beforeType (types : Array LocalType) (entered : Array LocalType) : LocalType :=
  match types.toList.find? (fun t => !t.daylight) with
  | some t => t
  | none => entered[0]?.getD (types.getD 0 default)

def wallTimes (early : Bool) (first : Int) (instants : List Int) (offsets : List Int) : List Int :=
  let pick (a b : Int) : Int := if early then max a b else min a b
  (instants.zip (offsets.zip (first :: offsets))).map fun (u, now, prev) => u + pick prev now

/-- The table of a zone from its types, its transitions, each an instant and the index of the
type it enters, and its yearly rule. -/
def Table.ofTransitions (types : Array LocalType) (transitions : List (Int × Nat)) (rule : Option Rule) :
    Table :=
  let instants := transitions.map (·.1)
  let entered := (transitions.map (fun t => types.getD t.2 default)).toArray
  let offsets := entered.toList.map (·.offset)
  let first := (types.getD 0 default).offset
  let last := (entered.back?.getD (types.back?.getD default)).offset
  { instants := instants.toArray, entered,
    wallEarly := (wallTimes true first instants offsets).toArray,
    wallLate := (wallTimes false first instants offsets).toArray,
    before := beforeType types entered,
    after := rule.getD { standard := last } }

/-- The offset in force at a wall-clock time, in seconds; `fold` marks the second of two
occurrences of a time. -/
def Table.offsetAtWall (t : Table) (wall : Int) (fold : Bool) : Int :=
  let s := wholeSecond wall
  let times := if fold then t.wallLate else t.wallEarly
  match times[0]?, times.back? with
  | some first, some last =>
    if s < first then t.before.offset
    else if s > last then t.after.offsetAtWall s (yearOf wall) fold
    else (t.entered.getD (bisectRight times s 0 times.size - 1) default).offset
  | _, _ => t.after.offsetAtWall s (yearOf wall) fold

/-- The offset in force at an instant, in seconds, and whether the wall-clock time it gives is
the second occurrence of that time: the transition before it turned the clock back further
than the instant is past it. After the last transition the rule after it decides, and the
clock is also turned back there when the type before the last transition is ahead of what the
rule gives by more than the instant is past that transition. -/
def Table.offsetAtInstant (t : Table) (instant : Int) : Int × Bool :=
  let s := wholeSecond instant
  let offsetAt (i : Nat) : Int := (t.entered.getD i default).offset
  match t.instants[0]?, t.instants.back? with
  | some first, some last =>
    if s < first then (t.before.offset, false)
    else if s > last then
      let (now, fold) := t.after.offsetAtInstant s (yearOf instant)
      let prev := if t.instants.size = 1 then t.before.offset else offsetAt (t.instants.size - 2)
      (now, fold || decide (0 < prev - now ∧ s < last + (prev - now)))
    else
      let idx := bisectRight t.instants s 0 t.instants.size
      let (prev, now) :=
        if 2 ≤ idx then (offsetAt (idx - 2), offsetAt (idx - 1)) else (t.before.offset, offsetAt 0)
      (now, decide (prev - now > s - t.instants.getD (idx - 1) 0))
  | _, _ => t.after.offsetAtInstant s (yearOf instant)

def readBase36 (s : String) : Option Int :=
  let digit (c : Char) : Option Nat :=
    if c.isDigit then some (c.toNat - 48)
    else if 'a' ≤ c ∧ c ≤ 'z' then some (c.toNat - 87)
    else none
  let unsigned (cs : List Char) : Option Nat :=
    if cs.isEmpty then none else cs.foldlM (fun n c => (digit c).map (n * 36 + ·)) 0
  match s.toList with
  | '-' :: cs => (unsigned cs).map (fun n => -(n : Int))
  | cs => (unsigned cs).map (fun n => (n : Int))

def readLocalType (s : String) : Option LocalType :=
  if s.endsWith "d" then
    (s.dropEnd 1).toString.toInt?.map (fun o => { offset := o, daylight := true })
  else s.toInt?.map (fun o => { offset := o, daylight := false })

def readTransitions (items : List String) : Option (List (Int × Nat)) :=
  let step (acc : Int × List (Int × Nat)) (item : String) : Option (Int × List (Int × Nat)) :=
    match item.splitOn "." with
    | [delta, index] => do
      let d ← readBase36 delta
      let i ← index.toNat?
      pure (acc.1 + d, (acc.1 + d, i) :: acc.2)
    | _ => none
  (items.foldlM step (0, [])).map (fun acc => acc.2.reverse)

/-- The table of a rule set written as `types;transitions;rule`, each listed transition moved
by `move`. Given an end instant `stop`, the transitions from `stop` on and the yearly rule are
left out, so that the type the last transition before it enters stays in force. -/
def Table.ofTextMoving (move : Int → Int) (stop : Option Int) (text : String) : Option Table :=
  match text.splitOn ";" with
  | [types, transitions, rule] => do
    let types ← (types.splitOn ",").mapM readLocalType
    let transitions ← readTransitions ((transitions.splitOn " ").filter (· ≠ ""))
    let (kept, yearly) : List (Int × Nat) × Option Rule := match stop with
      | some s => (transitions.filter fun t => t.1 < s, none)
      | none => (transitions, Rule.ofText rule)
    pure (Table.ofTransitions types.toArray (kept.map fun t => (move t.1, t.2)) yearly)
  | _ => none

def Table.ofText (text : String) : Option Table := Table.ofTextMoving id none text

end PortableSearch.Zone
