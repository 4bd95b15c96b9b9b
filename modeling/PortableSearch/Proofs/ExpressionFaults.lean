import PortableSearch.Proofs.DateMathGrammar
import PortableSearch.Proofs.ZoneArithmetic

/-! Evaluation follows the grammar of a date-math expression: an empty text is refused first, then
the anchor is read, then the operations that read are applied, and only then is the first that
does not read reported; date-time arithmetic never reports an invalid expression. -/

namespace PortableSearch

open PortableSearch.Time

def Fault.isDateMath : Fault → Bool
  | .invalidDateMath _ _ => true
  | _ => false

/-- An outcome that does not fail as an invalid date-math expression. -/
def NoDateMath {α : Type} (x : Outcome α) : Prop :=
  ∀ f, x = .error f → f.isDateMath = false

namespace NoDateMath

variable {α β : Type} {x : Outcome α}

theorem ok (a : α) : NoDateMath (.ok a : Outcome α) := by
  intro f failed
  cases failed

theorem error {f : Fault} (other : f.isDateMath = false) : NoDateMath (.error f : Outcome α) := by
  intro f' failed
  cases failed
  exact other

theorem pure (a : α) : NoDateMath (pure a : Outcome α) := ok a

theorem bind {g : α → Outcome β} (first : NoDateMath x) (next : ∀ a, NoDateMath (g a)) :
    NoDateMath (x >>= g) := by
  intro f failed
  cases x with
  | error f' =>
    injection (failed : Except.error f' = .error f) with same
    subst same
    exact first f' rfl
  | ok a => exact next a f failed

theorem of_okOrRange {p : α → Prop} (outcome : OkOrRange x p) : NoDateMath x := by
  rcases outcome with ⟨a, rfl, -⟩ | ⟨f, rfl, range⟩
  · exact ok a
  · refine error ?_
    cases f <;> simp_all [Fault.isRangeError, Fault.isDateMath]

end NoDateMath

/-! ## Date-time arithmetic -/

section Arithmetic

theorem Moment.floor_noDateMath (m : Moment) (u : TimeUnit) : NoDateMath (m.floor u) := by
  unfold Moment.floor
  dsimp only
  split
  · exact (NoDateMath.of_okOrRange (Moment.shift_okOrRange m _)).bind fun _ => .pure _
  · exact (NoDateMath.pure m).bind fun _ => .pure _

theorem Moment.addCalendar_noDateMath (m : Moment) (years months days : Int) :
    NoDateMath (m.addCalendar years months days) := by
  unfold Moment.addCalendar
  dsimp only
  exact (NoDateMath.of_okOrRange (checkYear_okOrRange _)).bind fun _ =>
    (NoDateMath.of_okOrRange (durationMicros_okOrRange _)).bind fun _ =>
      .of_okOrRange (Moment.checked_okOrRange _)

theorem Zone.YearShift.apply_noDateMath (s : Zone.YearShift) (year : Int) :
    NoDateMath (s.apply year) := by
  have checked := fun w => NoDateMath.of_okOrRange (Moment.checked_okOrRange w)
  have moved := fun (m : Moment) d => NoDateMath.of_okOrRange (Moment.shift_okOrRange m d)
  unfold Zone.YearShift.apply
  dsimp only
  split
  · refine (NoDateMath.error rfl).bind fun _ => (checked _).bind fun shifted => ?_
    split
    · exact .pure _
    · exact (moved shifted _).bind fun _ => .pure _
  · refine (checked _).bind fun shifted => ?_
    split
    · exact .pure _
    · exact (moved shifted _).bind fun _ => .pure _

theorem Zone.Yearly.changesIn_noDateMath (z : Zone.Yearly) (year : Int) :
    NoDateMath (z.changesIn year) := by
  unfold Zone.Yearly.changesIn
  split
  · exact .ok _
  · exact (Zone.YearShift.apply_noDateMath _ _).bind fun _ =>
      (Zone.YearShift.apply_noDateMath _ _).bind fun _ => .pure _

theorem Zone.Yearly.ambiguous_noDateMath (z : Zone.Yearly) (wall : Int) :
    NoDateMath (z.ambiguous wall) := by
  unfold Zone.Yearly.ambiguous
  refine (z.changesIn_noDateMath _).bind fun changes => ?_
  split
  · exact .pure _
  · split
    · exact (NoDateMath.of_okOrRange (Moment.checked_okOrRange _)).bind fun _ => .pure _
    · exact .pure _

theorem Zone.Yearly.offsetAt_noDateMath (z : Zone.Yearly) (m : Moment) :
    NoDateMath (z.offsetAt m) := by
  unfold Zone.Yearly.offsetAt Zone.Yearly.isDaylight
  refine ((z.changesIn_noDateMath _).bind fun changes => ?_).bind fun daylight => ?_
  · split
    · exact .pure _
    · split
      · exact .pure _
      · exact (z.ambiguous_noDateMath _).bind fun _ => by split <;> exact .pure _
  · split <;> exact .pure _

theorem Zone.Yearly.fromUtc_noDateMath (z : Zone.Yearly) (u : Int) : NoDateMath (z.fromUtc u) := by
  have checked := fun w => NoDateMath.of_okOrRange (Moment.checked_okOrRange w)
  unfold Zone.Yearly.fromUtc
  dsimp only
  refine (z.changesIn_noDateMath _).bind fun changes => ?_
  split
  · exact checked _
  · refine (checked _).bind fun _ => (checked _).bind fun _ => (checked _).bind fun _ => ?_
    split
    · exact (NoDateMath.pure false).bind fun _ => .pure _
    · exact (z.ambiguous_noDateMath _).bind fun _ => .pure _

theorem Zone.offset_noDateMath (zone : Zone) (m : Moment) : NoDateMath (zone.offset m) := by
  have checkOffset (o : Int) : NoDateMath (Zone.checkOffset o) := by
    unfold Zone.checkOffset
    split
    · exact .error rfl
    · exact .ok o
  cases zone with
  | utc => exact .ok _
  | fixed o => exact checkOffset o
  | table t => exact .ok _
  | yearly z => exact (z.offsetAt_noDateMath m).bind fun _ => checkOffset _

theorem Zone.instant_noDateMath (zone : Zone) (m : Moment) : NoDateMath (zone.instant m) :=
  (zone.offset_noDateMath m).bind fun _ => .pure _

theorem Zone.fromUtc_noDateMath (zone : Zone) (u : Int) : NoDateMath (zone.fromUtc u) := by
  have checked := fun w => NoDateMath.of_okOrRange (Moment.checked_okOrRange w)
  cases zone with
  | utc => exact .ok _
  | fixed o => exact checked _
  | table t =>
    simp only [Zone.fromUtc]
    rcases t.offsetAtInstant u with ⟨offset, fold⟩
    cases read : Moment.checked (u + Zone.secondsMicros offset) with
    | ok m => exact .ok _
    | error e => exact .error (checked _ e read)
  | yearly z => exact z.fromUtc_noDateMath u

theorem Zone.convert_noDateMath (source : Zone) (m : Moment) (target : Zone) :
    NoDateMath (source.convert m target) := by
  unfold Zone.convert
  split
  · exact .ok m
  · exact ((source.offset_noDateMath m).bind fun _ =>
      .of_okOrRange (Moment.shift_okOrRange m _)).bind fun u => target.fromUtc_noDateMath u.wall

theorem Zone.resolveGap_noDateMath (zone : Zone) (m : Moment) : NoDateMath (zone.resolveGap m) := by
  have shifted := fun d => NoDateMath.of_okOrRange (Moment.shift_okOrRange m d)
  unfold Zone.resolveGap Zone.exists
  refine (((zone.convert_noDateMath m .utc).bind fun u =>
    (Zone.utc.convert_noDateMath u zone).bind fun _ => .pure _)).bind fun found => ?_
  split
  · exact .ok m
  · exact (shifted _).bind fun later => (zone.offset_noDateMath later).bind fun _ =>
      (shifted _).bind fun earlier => (zone.offset_noDateMath earlier).bind fun _ => shifted _

theorem DateMath.Zoned.add_noDateMath (z : DateMath.Zoned) (n : Int) (u : TimeUnit) :
    NoDateMath (z.add n u) := by
  have calendar : ∀ years months days, NoDateMath (do
      let m ← z.moment.addCalendar years months days
      let m ← z.zone.resolveGap m
      pure ({ z with moment := m } : DateMath.Zoned)) := fun years months days =>
    (z.moment.addCalendar_noDateMath years months days).bind fun m =>
      (z.zone.resolveGap_noDateMath m).bind fun _ => .pure _
  unfold DateMath.Zoned.add
  cases u
  case year | month | week | day => exact calendar _ _ _
  all_goals
    exact (z.zone.convert_noDateMath z.moment .utc).bind fun inUtc =>
      (NoDateMath.of_okOrRange (durationMicros_okOrRange _)).bind fun d =>
        (NoDateMath.of_okOrRange (Moment.shift_okOrRange inUtc d)).bind fun shifted =>
          (Zone.utc.convert_noDateMath shifted z.zone).bind fun _ => .pure _

theorem DateMath.Zoned.round_noDateMath (z : DateMath.Zoned) (u : TimeUnit) (up : Bool) :
    NoDateMath (z.round u up) := by
  unfold DateMath.Zoned.round
  refine (z.moment.floor_noDateMath u).bind fun floor =>
    (z.zone.resolveGap_noDateMath floor).bind fun start => ?_
  split
  · exact (DateMath.Zoned.add_noDateMath _ 1 u).bind fun next =>
      (next.zone.convert_noDateMath next.moment .utc).bind fun inUtc =>
        (NoDateMath.of_okOrRange (Moment.shift_okOrRange inUtc _)).bind fun _ => .pure _
  · exact .ok _

theorem DateMath.apply_noDateMath (z : DateMath.Zoned) (up : Bool) (todo : List DateMath.Step) :
    NoDateMath (DateMath.apply z up todo) := by
  induction todo generalizing z with
  | nil => exact .ok z
  | cons step rest ih =>
    cases step with
    | add n u => exact (z.add_noDateMath n u).bind ih
    | round u => exact (z.round_noDateMath u up).bind ih

end Arithmetic

namespace DateMath

/-! ## The anchor -/

/-- How the stripped text of an expression splits into its anchor and the text of its
operations: `now` (no date) and the text after it, or a date and the text after its first
`||`. -/
inductive Split (e : String) : Option String → List Char → Prop
  | now {math : List Char} (text : (Text.strip e).toList = 'n' :: 'o' :: 'w' :: math) :
      Split e none math
  | date {cs : List Char} (text : (Text.strip e).toList = cs) (given : cs ≠ [])
      (notNow : ¬['n', 'o', 'w'] <+: cs) :
      Split e (some (Text.strip (String.ofList (splitAnchorChars cs).1))) (splitAnchorChars cs).2

def anchorMoment (e : String) (now : Stamp) (zone : Zone) : Option String → Outcome Moment
  | none => nowMoment now zone
  | some d => anchorOfDate e d zone

def epochMoment (millis : Int) (zone : Zone) : Outcome Moment := do
  let d ← durationMicros (millis * 1000)
  let m ← Moment.checked d
  Zone.utc.convert m zone

def dateFault (e : String) : Loose.Failure → Fault
  | .quotientTooLarge => .divisionImpossible
  | failure => .invalidDateMath e (.unreadableDate failure)

/-- What the steps `todo` of the operations that read give from an anchor: their arithmetic,
then the fault `failure` of the operation that does not read, if one does not, else the instant
in milliseconds, rounded down. -/
def settle (zone : Zone) (up : Bool) (todo : List Step) (failure : Option Fault) (anchor : Moment) :
    Outcome Int := do
  let z ← apply { zone, moment := anchor } up todo
  if let some f := failure then throw f
  let instant ← z.zone.instant z.moment
  pure (instant / 1000)

theorem split_of_ne_nil {e : String} (given : (Text.strip e).toList ≠ []) :
    ∃ a math, Split e a math := by
  by_cases anchored : ['n', 'o', 'w'] <+: (Text.strip e).toList
  · obtain ⟨math, text⟩ := anchored
    exact ⟨none, math, .now text.symm⟩
  · exact ⟨_, _, .date rfl given anchored⟩

theorem evaluate_of_split {e : String} {a : Option String} {math : List Char} (now : Stamp)
    (up : Bool) (zone : Zone) (split : Split e a math) :
    evaluate e now up zone = anchorMoment e now zone a >>= finish e math up zone := by
  cases split with
  | now text =>
    rw [evaluate_now now up zone text]
    rfl
  | date text given notNow =>
    rw [evaluate_date now up zone text given notNow]
    rfl

theorem anchorOfDate_epoch {e d : String} {zone : Zone} (digits : Loose.isDigitText d = true)
    (long : 9 ≤ d.length) :
    anchorOfDate e d zone = integerOf d.toList >>= fun millis => epochMoment millis zone := by
  unfold anchorOfDate
  rw [if_pos ⟨digits, long⟩]
  rfl

theorem anchorOfDate_refused {e d : String} {zone : Zone} {failure : Loose.Failure}
    (other : ¬(Loose.isDigitText d = true ∧ 9 ≤ d.length)) (refused : Loose.read d = .error failure) :
    anchorOfDate e d zone = .error (dateFault e failure) := by
  unfold anchorOfDate
  rw [if_neg other, refused]
  cases failure <;> rfl

theorem anchorOfDate_read {e d : String} {zone : Zone} {stamp : Stamp}
    (other : ¬(Loose.isDigitText d = true ∧ 9 ≤ d.length)) (read : Loose.read d = .ok stamp) :
    NoDateMath (anchorOfDate e d zone) := by
  unfold anchorOfDate
  rw [if_neg other, read]
  dsimp only
  split
  · exact zone.resolveGap_noDateMath _
  · exact (zoneOfOffset _).convert_noDateMath _ zone

theorem epochMoment_noDateMath (millis : Int) (zone : Zone) : NoDateMath (epochMoment millis zone) :=
  (NoDateMath.of_okOrRange (durationMicros_okOrRange _)).bind fun _ =>
    (NoDateMath.of_okOrRange (Moment.checked_okOrRange _)).bind fun m => Zone.utc.convert_noDateMath m zone

theorem integerOf_noDateMath (cs : List Char) : NoDateMath (integerOf cs) := by
  unfold integerOf
  dsimp only
  split
  · exact .error rfl
  split
  · exact .error rfl
  · exact .ok _

/-- A date text gives an invalid expression only when the date reader refuses it. -/
theorem anchorOfDate_dateMath {e d : String} {zone : Zone} {f : Fault}
    (failed : anchorOfDate e d zone = .error f) (reported : f.isDateMath = true) :
    ¬(Loose.isDigitText d = true ∧ 9 ≤ d.length) ∧ ∃ failure, Loose.read d = .error failure ∧
      failure ≠ .quotientTooLarge ∧ f = .invalidDateMath e (.unreadableDate failure) := by
  by_cases epoch : Loose.isDigitText d = true ∧ 9 ≤ d.length
  · rw [anchorOfDate_epoch epoch.1 epoch.2] at failed
    have never : NoDateMath (integerOf d.toList >>= fun millis => epochMoment millis zone) :=
      (integerOf_noDateMath _).bind fun millis => epochMoment_noDateMath millis zone
    simp [never f failed] at reported
  refine ⟨epoch, ?_⟩
  cases read : Loose.read d with
  | ok stamp => simp [anchorOfDate_read epoch read f failed] at reported
  | error failure =>
    rw [anchorOfDate_refused epoch read] at failed
    cases failed
    cases failure
    case quotientTooLarge => cases reported
    all_goals exact ⟨_, rfl, nofun, rfl⟩

theorem nowMoment_noDateMath (now : Stamp) (zone : Zone) : NoDateMath (nowMoment now zone) :=
  Zone.convert_noDateMath _ _ zone

/-- An operation that does not read is reported only after the steps before it were applied;
their arithmetic, and the instant, never report an invalid expression. -/
theorem settle_dateMath {zone : Zone} {up : Bool} {todo : List Step} {failure : Option Fault}
    {anchor : Moment} {f : Fault} (failed : settle zone up todo failure anchor = .error f)
    (reported : f.isDateMath = true) : failure = some f := by
  unfold settle at failed
  cases applied : apply { zone, moment := anchor } up todo with
  | error f' =>
    rw [applied] at failed
    injection (failed : Except.error f' = .error f) with same
    subst same
    simp [apply_noDateMath _ up todo f' applied] at reported
  | ok z =>
    rw [applied] at failed
    cases failure with
    | some f' =>
      injection (failed : Except.error f' = .error f) with same
      rw [same]
    | none =>
      have never := (z.zone.instant_noDateMath z.moment).bind fun i => NoDateMath.ok (i / 1000)
      simp [never f failed] at reported

/-- Evaluating a date-math expression follows its grammar. A text of nothing but white space is
an invalid expression. Any other is read as its anchor and the text of its operations; the
anchor is computed first, then the steps of the operations before the first that does not read
(`Reads`) are applied, and that operation's fault comes only after them, so a range error of
their arithmetic is reported in its place. A date of nine or more characters that are digits to
the scanner is read as milliseconds since the epoch through integer reading, which refuses a
digit that is not decimal or more than 4300 digits; any other date the date reader reads, its
refusal reported as an invalid expression. An invalid expression is reported only for an empty
text, a refused date or an operation that does not read: arithmetic never reports one. -/
theorem evaluate_follows_grammar (e : String) (now : Stamp) (up : Bool) (zone : Zone) :
    ((Text.strip e).toList = [] → evaluate e now up zone = .error (.invalidDateMath e .empty)) ∧
    ((Text.strip e).toList ≠ [] → ∃ a math, Split e a math ∧ ∃ todo failure,
      Reads e math todo failure ∧
      (failure = none ↔
        ∃ ops : List OpText, (∀ o ∈ ops, o.WellFormed) ∧ math = ops.flatMap OpText.chars) ∧
      evaluate e now up zone = anchorMoment e now zone a >>= settle zone up todo failure) ∧
    (∀ d, Loose.isDigitText d = true → 9 ≤ d.length →
      anchorOfDate e d zone = integerOf d.toList >>= fun millis => epochMoment millis zone) ∧
    (∀ d failure, ¬(Loose.isDigitText d = true ∧ 9 ≤ d.length) → Loose.read d = .error failure →
      anchorOfDate e d zone = .error (dateFault e failure)) ∧
    (∀ f, evaluate e now up zone = .error f → f.isDateMath = true →
      (Text.strip e).toList = [] ∨ (∃ d math, Split e (some d) math ∧ anchorOfDate e d zone = .error f) ∨
        ∃ a math todo, Split e a math ∧ Reads e math todo (some f)) := by
  have parts : (Text.strip e).toList ≠ [] → ∃ a math, Split e a math ∧ ∃ todo failure,
      Reads e math todo failure ∧
      (failure = none ↔
        ∃ ops : List OpText, (∀ o ∈ ops, o.WellFormed) ∧ math = ops.flatMap OpText.chars) ∧
      evaluate e now up zone = anchorMoment e now zone a >>= settle zone up todo failure := by
    intro given
    obtain ⟨a, math, split⟩ := split_of_ne_nil given
    obtain ⟨read, grammatical⟩ := operations_follow_grammar e math
    exact ⟨a, math, split, _, _, read, grammatical, evaluate_of_split now up zone split⟩
  refine ⟨evaluate_empty now up zone, parts, fun d => anchorOfDate_epoch,
    fun d failure => anchorOfDate_refused, fun f failed reported => ?_⟩
  by_cases blank : (Text.strip e).toList = []
  · exact .inl blank
  obtain ⟨a, math, split, todo, failure, read, -, evaluated⟩ := parts blank
  rw [evaluated] at failed
  cases anchored : anchorMoment e now zone a with
  | error f' =>
    rw [anchored] at failed
    injection (failed : Except.error f' = .error f) with same
    subst same
    -- the anchor failed: `now` never reports an invalid expression, so it is a date
    cases a with
    | none => simp [nowMoment_noDateMath now zone f' anchored] at reported
    | some d => exact .inr (.inl ⟨d, math, split, anchored⟩)
  | ok m =>
    rw [anchored] at failed
    have stopped := settle_dateMath failed reported
    subst stopped
    exact .inr (.inr ⟨a, math, todo, split, read⟩)

end DateMath

end PortableSearch
