import PortableSearch.Zone.Shift
import PortableSearch.Zone.Table

/-! Zones with a yearly daylight-saving range, as a TZ text states them: a standard offset and,
with daylight time, a daylight offset and the two changes between them; the times the clocks
repeat after the change out of daylight time are read as daylight time first. -/

namespace PortableSearch.Zone

open PortableSearch.Time

/-- A zone of a standard offset and a daylight offset, with the yearly changes into daylight time
and out of it when the zone keeps daylight-saving time. -/
structure Yearly where
  standard : Int
  daylight : Int
  changes : Option (YearShift × YearShift)
  deriving Repr, Inhabited

def Yearly.changesIn (z : Yearly) (year : Int) : Outcome (Option (Int × Int)) :=
  match z.changes with
  | none => .ok none
  | some (start, stop) => do
    let on ← start.apply year
    let off ← stop.apply year
    pure (some (on, off))

def inDaylight (t on off : Int) : Bool :=
  if on < off then decide (on ≤ t ∧ t < off) else !decide (off ≤ t ∧ t < on)

/-- Whether a wall-clock time is ambiguous: at or after the year's change out of daylight time,
and before that change moved by the daylight offset less the standard one. -/
def Yearly.ambiguous (z : Yearly) (wall : Int) : Outcome Bool := do
  match ← z.changesIn (yearOf wall) with
  | none => pure false
  | some (_, off) =>
    if off ≤ wall then
      let last ← Moment.checked (off + secondsMicros (z.daylight - z.standard))
      pure (decide (wall < last.wall))
    else pure false

/-- Whether a wall-clock time is daylight time; `fold` marks the second occurrence of an
ambiguous time, which is standard time. -/
def Yearly.isDaylight (z : Yearly) (wall : Int) (fold : Bool) : Outcome Bool := do
  match ← z.changesIn (yearOf wall) with
  | none => pure false
  | some (on, off) =>
    if inDaylight wall on off then pure true
    else if ← z.ambiguous wall then pure !fold
    else pure false

def Yearly.offsetAt (z : Yearly) (m : Moment) : Outcome Int := do
  if ← z.isDaylight m.wall m.fold then pure z.daylight else pure z.standard

/-- The moment of an instant: daylight time when the instant falls between the year's changes
moved to UTC by the standard offset, marked as the second occurrence when it is standard time and
ambiguous. -/
def Yearly.fromUtc (z : Yearly) (u : Int) : Outcome Moment := do
  match ← z.changesIn (yearOf u) with
  | none => Moment.checked (u + secondsMicros z.standard)
  | some (on, off) =>
    let on ← Moment.checked (on - secondsMicros z.standard)
    let off ← Moment.checked (off - secondsMicros z.standard)
    let daylight := inDaylight u on.wall off.wall
    let m ← Moment.checked (u + secondsMicros (if daylight then z.daylight else z.standard))
    let fold ← if daylight then pure false else z.ambiguous m.wall
    pure { m with fold }

end PortableSearch.Zone
