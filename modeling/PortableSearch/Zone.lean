import PortableSearch.Zone.Catalog
import PortableSearch.Zone.Yearly.Text
import PortableSearch.Moment
import PortableSearch.Text.Classes

/-! Time zones: UTC, a fixed offset, the rules of a named zone of the tz database, or a yearly
daylight-saving range a TZ text states. `Zone.exists` tells whether a clock time survives the round
trip through UTC, and `Zone.resolveGap` moves a skipped time forward. -/

namespace PortableSearch

open PortableSearch.Time

/-- A way of telling the time of day from an instant. -/
inductive Zone where
  | utc
  | fixed (micros : Int)
  | table (t : Zone.Table)
  /-- A standard offset and a yearly daylight-saving range, as a TZ text states them. -/
  | yearly (z : Zone.Yearly)
  deriving Inhabited

namespace Zone

/-- An offset in microseconds, which must be less than a day either way. -/
def checkOffset (o : Int) : Outcome Int :=
  if o.natAbs ≥ 86400000000 then .error .offsetOutOfRange else .ok o

def offset : Zone → Moment → Outcome Int
  | .utc, _ => .ok 0
  | .fixed o, _ => checkOffset o
  | .table t, m => .ok (Zone.secondsMicros (t.offsetAtWall m.wall m.fold))
  | .yearly z, m => do checkOffset (Zone.secondsMicros (← z.offsetAt m))

/-- The instant of a moment, microseconds since 1970-01-01T00:00 UTC, without a range check. -/
def instant (z : Zone) (m : Moment) : Outcome Int := do
  let o ← z.offset m
  pure (m.wall - o)

def toUtc (z : Zone) (m : Moment) : Outcome Moment := do
  let o ← z.offset m
  m.shift (-o)

def fromUtc : Zone → Int → Outcome Moment
  | .utc, u => .ok { wall := u }
  | .fixed o, u => Moment.checked (u + o)
  | .table t, u =>
    let (offset, fold) := t.offsetAtInstant u
    match Moment.checked (u + Zone.secondsMicros offset) with
    | .ok m => .ok { m with fold }
    | .error e => .error e
  | .yearly z, u => z.fromUtc u

def isUtc : Zone → Bool
  | .utc => true
  | _ => false

/-- The moment in zone `target` of a moment of zone `source`; nothing changes between UTC and
UTC. -/
def convert (source : Zone) (m : Moment) (target : Zone) : Outcome Moment :=
  if source.isUtc ∧ target.isUtc then .ok m
  else do
    let u ← source.toUtc m
    target.fromUtc u.wall

/-- Whether a moment's clock time exists in the zone: the round trip through UTC keeps it. -/
def «exists» (z : Zone) (m : Moment) : Outcome Bool := do
  let u ← z.convert m .utc
  let back ← Zone.utc.convert u z
  pure (back.wall == m.wall)

/-- A moment whose clock time does not exist moved forward by the change in offset around it;
an existing moment is kept as it is. -/
def resolveGap (z : Zone) (m : Moment) : Outcome Moment := do
  if ← z.exists m then pure m
  else
    let later ← m.shift (24 * 3600000000)
    let current ← z.offset later
    let earlier ← m.shift (-(24 * 3600000000))
    let old ← z.offset earlier
    m.shift (current - old)

end Zone

/-- A fixed offset written as a sign, one or two digits of hours and optionally two digits of
minutes, with or without a colon: its seconds east of UTC. -/
def fixedOffsetSeconds (text : String) : Option Int := do
  let cs := text.toList
  let (sign, rest) ← match cs with
    | '+' :: rest => some ((1 : Int), rest)
    | '-' :: rest => some ((-1 : Int), rest)
    | _ => none
  let digits (ds : List Char) : Option Nat :=
    ds.foldlM (fun n c => (Text.decimalValue? c).map (n * 10 + ·)) 0
  let (hours, minutes) ← match rest.splitOn ':' with
    | [h, m] => if 1 ≤ h.length ∧ h.length ≤ 2 ∧ m.length = 2 then some (h, m) else none
    | [d] =>
      if 1 ≤ d.length ∧ d.length ≤ 2 then some (d, [])
      else if 3 ≤ d.length ∧ d.length ≤ 4 then some (d.take (d.length - 2), d.drop (d.length - 2))
      else none
    | _ => none
  let h ← digits hours
  let m ← digits minutes
  pure (sign * ((h * 3600 + m * 60 : Nat) : Int))

def isUtcName (name : String) : Bool :=
  let up := String.map Char.toUpper name
  up == "UTC" || up == "Z" || up == "GMT"

/-- The zone a name stands for. -/
def Zone.resolve (name : String) : Outcome Zone :=
  if name.isEmpty ∨ isUtcName name then .ok .utc
  else match fixedOffsetSeconds (Text.strip name) with
    | some s => .ok (.fixed (s * 1000000))
    | none =>
      let path := if name.startsWith ":" then (name.drop 1).toString else name
      if name == ":" then .ok .utc
      else match Zone.Table.named path with
        | some t => .ok (.table t)
        | none =>
          if path.startsWith "/" ∨ !path.any Char.isDigit then .error (.unknownZone name)
          else match Zone.Yearly.ofText path with
            | .ok (some z) => .ok (.yearly z)
            | .ok none => .error (.unknownZone name)
            | .error e => .error e

end PortableSearch
