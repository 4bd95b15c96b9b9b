import Mathlib.Data.List.TakeWhile
import PortableSearch.DateMath
import PortableSearch.Proofs.ExpressionForms

/-! The grammar of the operations after a date-math anchor. The text after the anchor reads to its
end exactly when it is a run of well-formed operations (`OpText.WellFormed`), and otherwise stops
at the first that is not, with the fault that reports it (`Reads`). -/

namespace PortableSearch.DateMath

def isDecimal (c : Char) : Bool := (Text.decimalValue? c).isSome

def IsAmountDigit (c : Char) : Prop := Text.isDigitLike c = true ∧ isDecimal c = true

def amountValue (ds : List Char) : Int :=
  ds.foldl (fun n c => n * 10 + ((Text.decimalValue? c).getD 0 : Int)) 0

/-- An operation as written: its operator, the digits of its amount and its unit letter. -/
structure OpText where
  operator : Char
  digits : List Char
  letter : Char

def OpText.chars (o : OpText) : List Char := o.operator :: (o.digits ++ [o.letter])

def TakesAmount (operator : Char) (digits : List Char) : Prop :=
  operator = '+' ∨ operator = '-' ∨ operator = '/' ∧ digits = []

/-- The grammar of one operation: `+` or `-` with at most 4300 decimal digits, or `/` alone,
then a unit letter. -/
structure OpText.WellFormed (o : OpText) : Prop where
  operator : TakesAmount o.operator o.digits
  digits : ∀ c ∈ o.digits, IsAmountDigit c
  short : o.digits.length ≤ 4300
  unit : (unitOf? o.letter).isSome

/-- The step an operation stands for in unit `u`: a rounding, or adding its amount (one when it
has no digits), subtracted after `-`. -/
def OpText.toStep (o : OpText) (u : TimeUnit) : Step :=
  if o.operator = '/' then .round u
  else
    let n := if o.digits = [] then 1 else amountValue o.digits
    .add (if o.operator = '-' then -n else n) u

def OpText.step? (o : OpText) : Option Step := (unitOf? o.letter).map o.toStep

/-- How the text after an anchor of expression `e` reads: the steps of its well-formed operations
in order, then the end of the text or the first operation that does not read, with the fault
that reports it. -/
inductive Reads (e : String) : List Char → List Step → Option Fault → Prop
  | done : Reads e [] [] none
  | op {o : OpText} {u : TimeUnit} {rest : List Char} {later : List Step} {failure : Option Fault}
      (wf : o.WellFormed) (unit : unitOf? o.letter = some u) (next : Reads e rest later failure) :
      Reads e (o.chars ++ rest) (o.toStep u :: later) failure
  | unexpectedOperator {c : Char} {rest : List Char} (other : c ≠ '+' ∧ c ≠ '-' ∧ c ≠ '/') :
      Reads e (c :: rest) [] (some (.invalidDateMath e (.unexpectedOperator (Text.headPoint (c :: rest)))))
  | missingUnit {c : Char} {ds : List Char} (operator : c = '+' ∨ c = '-' ∨ c = '/')
      (digits : ∀ d ∈ ds, IsAmountDigit d) (short : ds.length ≤ 4300) :
      Reads e (c :: ds) [] (some (.invalidDateMath e .missingUnit))
  | roundingAmount {ds : List Char} {u : Char} {rest : List Char} (given : ds ≠ [])
      (digits : ∀ d ∈ ds, IsAmountDigit d) (short : ds.length ≤ 4300)
      (letter : Text.isDigitLike u = false) :
      Reads e ('/' :: (ds ++ u :: rest)) [] (some (.invalidDateMath e .roundingAmount))
  | unknownUnit {c : Char} {ds : List Char} {u : Char} {rest : List Char}
      (operator : TakesAmount c ds) (digits : ∀ d ∈ ds, IsAmountDigit d) (short : ds.length ≤ 4300)
      (letter : Text.isDigitLike u = false) (unknown : unitOf? u = none) :
      Reads e (c :: (ds ++ u :: rest)) [] (some (.invalidDateMath e (.unknownUnit (Text.headPoint (u :: rest)))))
  /-- An amount with more than 4300 decimal digits before any other digit. -/
  | tooManyDigits {c : Char} {ds rest : List Char} (operator : c = '+' ∨ c = '-' ∨ c = '/')
      (scanned : ∀ d ∈ ds, Text.isDigitLike d = true)
      (ends : ∀ a r, rest = a :: r → Text.isDigitLike a = false)
      (long : 4300 < (ds.takeWhile isDecimal).length) :
      Reads e (c :: (ds ++ rest)) [] (some (.tooManyDigits (ds.takeWhile isDecimal).length))
  /-- An amount holding a digit that integer reading refuses. -/
  | notDecimal {c : Char} {ds rest : List Char} (operator : c = '+' ∨ c = '-' ∨ c = '/')
      (scanned : ∀ d ∈ ds, Text.isDigitLike d = true)
      (ends : ∀ a r, rest = a :: r → Text.isDigitLike a = false)
      (within : (ds.takeWhile isDecimal).length ≤ 4300) (refused : ∃ d ∈ ds, isDecimal d = false) :
      Reads e (c :: (ds ++ rest)) [] (some (.invalidInteger (String.ofList ds)))

/-! ## Reading an amount -/

theorem isDigitLike_of_unit {c : Char} {u : TimeUnit} (named : unitOf? c = some u) :
    Text.isDigitLike c = false := by
  unfold unitOf? at named
  split at named
  case h_9 => cases named
  all_goals decide

theorem integerOf_decimal {ds : List Char} (digits : ∀ d ∈ ds, isDecimal d = true)
    (given : ds ≠ []) (short : ds.length ≤ 4300) : integerOf ds = .ok (amountValue ds) := by
  have all : ds.takeWhile isDecimal = ds := List.takeWhile_eq_self_iff.mpr digits
  have empty : ds.isEmpty = false := List.isEmpty_eq_false_iff.mpr given
  unfold integerOf
  simp only [show (fun c => (Text.decimalValue? c).isSome) = isDecimal from rfl, all, empty]
  simp [short, amountValue]

theorem integerOf_ok {ds : List Char} {n : Int} (read : integerOf ds = .ok n) :
    (∀ d ∈ ds, isDecimal d = true) ∧ ds.length ≤ 4300 ∧ n = amountValue ds := by
  unfold integerOf at read
  simp only [show (fun c => (Text.decimalValue? c).isSome) = isDecimal from rfl] at read
  split at read
  next => cases read
  split at read
  next => cases read
  next notLong notShorter =>
    simp only [not_or, Nat.not_lt, Bool.not_eq_true, List.isEmpty_eq_false_iff] at notLong notShorter
    have all : ds.takeWhile isDecimal = ds :=
      List.IsPrefix.eq_of_length (List.takeWhile_prefix isDecimal)
        (Nat.le_antisymm (List.takeWhile_prefix isDecimal).length_le notShorter.1)
    cases read
    refine ⟨List.takeWhile_eq_self_iff.mp all, by rw [← all]; omega, ?_⟩
    rw [all]
    rfl

/-- Integer reading fails on more than 4300 decimal digits before any other, and otherwise on a
digit it refuses. -/
theorem integerOf_error {ds : List Char} {f : Fault} (failed : integerOf ds = .error f)
    (given : ds ≠ []) :
    (4300 < (ds.takeWhile isDecimal).length ∧ f = .tooManyDigits (ds.takeWhile isDecimal).length) ∨
      ((ds.takeWhile isDecimal).length ≤ 4300 ∧ (∃ d ∈ ds, isDecimal d = false) ∧
        f = .invalidInteger (String.ofList ds)) := by
  unfold integerOf at failed
  simp only [show (fun c => (Text.decimalValue? c).isSome) = isDecimal from rfl] at failed
  split at failed
  next long =>
    cases failed
    exact .inl ⟨long, rfl⟩
  split at failed
  next notLong shorter =>
    cases failed
    refine .inr ⟨by omega, ?_, rfl⟩
    have notAll : ds.takeWhile isDecimal ≠ ds := by
      rcases shorter with shorter | empty
      · exact fun same => by rw [same] at shorter; omega
      · exact absurd (List.isEmpty_iff.mp empty) given
    by_contra allDecimal
    exact notAll (List.takeWhile_eq_self_iff.mpr fun d mem => by
      by_contra refused
      exact allDecimal ⟨d, mem, by simpa using refused⟩)
  next => cases failed

theorem isDigitLike_head_dropWhile {cs rest : List Char} {a : Char}
    (dropped : cs.dropWhile Text.isDigitLike = a :: rest) : Text.isDigitLike a = false := by
  have stop := @List.head_dropWhile_not _ Text.isDigitLike cs (by simp [dropped])
  simpa [dropped] using stop

/-! ## Reading one operation -/

theorem stepOf_ok {e : String} {op u : Char} {amount : Option Int} {shown : Nat} {step : Step}
    (read : stepOf e op amount u shown = .ok step) :
    ∃ unit, unitOf? u = some unit ∧
      (op = '/' ∧ amount = none ∧ step = .round unit ∨
        op ≠ '/' ∧ step = .add (if op = '-' then -amount.getD 1 else amount.getD 1) unit) := by
  unfold stepOf at read
  split at read
  next slash =>
    split at read
    next => cases read
    next noAmount =>
      split at read
      next unit named =>
        cases read
        exact ⟨unit, named, .inl ⟨slash, by simpa using noAmount, rfl⟩⟩
      next => cases read
  next notSlash =>
    split at read
    next unit named =>
      cases read
      exact ⟨unit, named, .inr ⟨notSlash, rfl⟩⟩
    next => cases read

theorem stepOf_error {e : String} {op u : Char} {amount : Option Int} {shown : Nat} {f : Fault}
    (failed : stepOf e op amount u shown = .error f) :
    op = '/' ∧ amount.isSome ∧ f = .invalidDateMath e .roundingAmount ∨
      (op = '/' → amount = none) ∧ unitOf? u = none ∧ f = .invalidDateMath e (.unknownUnit shown) := by
  unfold stepOf at failed
  split at failed
  next slash =>
    split at failed
    next given =>
      cases failed
      exact .inl ⟨slash, given, rfl⟩
    next noAmount =>
      split at failed
      next => cases failed
      next unknown =>
        cases failed
        exact .inr ⟨fun _ => by simpa using noAmount, unknown, rfl⟩
  next notSlash =>
    split at failed
    next => cases failed
    next unknown =>
      cases failed
      exact .inr ⟨fun slash => absurd slash notSlash, unknown, rfl⟩

theorem steps_op (e : String) {o : OpText} {u : TimeUnit} (wf : o.WellFormed)
    (unit : unitOf? o.letter = some u) (rest : List Char) :
    steps e (o.chars ++ rest) = (o.toStep u :: (steps e rest).1, (steps e rest).2) := by
  obtain ⟨operator, digits, short, -⟩ := wf
  have letter := isDigitLike_of_unit unit
  have scanned : ∀ d ∈ o.digits, Text.isDigitLike d = true := fun d mem => (digits d mem).1
  have taken : (o.digits ++ o.letter :: rest).takeWhile Text.isDigitLike = o.digits := by
    rw [List.takeWhile_append_of_pos scanned, List.takeWhile_cons_of_neg (by simp [letter]),
      List.append_nil]
  have dropped : (o.digits ++ o.letter :: rest).dropWhile Text.isDigitLike = o.letter :: rest := by
    rw [List.dropWhile_append_of_pos scanned, List.dropWhile_cons_of_neg (by simp [letter])]
  have isOperator : ¬(o.operator ≠ '+' ∧ o.operator ≠ '-' ∧ o.operator ≠ '/') := by
    rcases operator with plus | minus | ⟨slash, -⟩ <;> simp_all
  have amount : (if (o.digits.isEmpty = true) then (Except.ok none : Outcome (Option Int))
      else (integerOf o.digits).map some) =
      .ok (if o.digits = [] then none else some (amountValue o.digits)) := by
    by_cases none : o.digits = []
    · simp [none]
    · rw [if_neg (by simpa using none), if_neg none,
        integerOf_decimal (fun d mem => (digits d mem).2) none short]
      rfl
  have read : stepOf e o.operator (if o.digits = [] then none else some (amountValue o.digits))
      o.letter (Text.headPoint (o.letter :: rest)) = .ok (o.toStep u) := by
    unfold stepOf OpText.toStep
    rcases operator with plus | minus | ⟨slash, none⟩
    · by_cases none : o.digits = [] <;> simp [plus, unit, none]
    · by_cases none : o.digits = [] <;> simp [minus, unit, none]
    · simp [slash, none, unit]
  rw [OpText.chars, List.cons_append, List.append_assoc, List.singleton_append, steps]
  simp only [isOperator, if_false, taken, amount]
  split
  · rename_i gone
    rw [dropped] at gone
    cases gone
  · rename_i v more split
    rw [dropped, List.cons.injEq] at split
    obtain ⟨rfl, rfl⟩ := split
    rw [read]

/-! ## Reading the whole text -/

theorem amount_read {ds : List Char} {amount : Option Int}
    (read : (if ds = [] then (.ok none : Outcome (Option Int)) else (integerOf ds).map some) =
      .ok amount) :
    ds = [] ∧ amount = none ∨
      ds ≠ [] ∧ (∀ d ∈ ds, isDecimal d = true) ∧ ds.length ≤ 4300 ∧ amount = some (amountValue ds) := by
  by_cases empty : ds = []
  · rw [if_pos empty, Except.ok.injEq] at read
    exact .inl ⟨empty, read.symm⟩
  · rw [if_neg empty] at read
    cases integer : integerOf ds with
    | error f => simp [integer, Except.map] at read
    | ok n =>
      obtain ⟨decimal, short, rfl⟩ := integerOf_ok integer
      simp only [integer, Except.map, Except.ok.injEq] at read
      exact .inr ⟨empty, decimal, short, read.symm⟩

theorem amount_failed {ds : List Char} {f : Fault}
    (failed : (if ds = [] then (.ok none : Outcome (Option Int)) else (integerOf ds).map some) =
      .error f) : ds ≠ [] ∧ integerOf ds = .error f := by
  by_cases empty : ds = []
  · simp [empty] at failed
  · rw [if_neg empty] at failed
    cases integer : integerOf ds with
    | error f' =>
      simp only [integer, Except.map, Except.error.injEq] at failed
      exact ⟨empty, by rw [failed]⟩
    | ok n => simp [integer, Except.map] at failed

theorem operator_cases {op : Char} (isOperator : ¬(op ≠ '+' ∧ op ≠ '-' ∧ op ≠ '/')) :
    op = '+' ∨ op = '-' ∨ op = '/' := by
  by_cases plus : op = '+'
  · exact .inl plus
  by_cases minus : op = '-'
  · exact .inr (.inl minus)
  by_cases slash : op = '/'
  · exact .inr (.inr slash)
  exact absurd ⟨plus, minus, slash⟩ isOperator

/-- Whatever the text after an anchor, its reading follows the grammar: the steps of its
well-formed operations, then the end of the text or the fault of the first operation that is not
one. -/
theorem steps_reads (e : String) (cs : List Char) : Reads e cs (steps e cs).1 (steps e cs).2 := by
  fun_induction steps e cs with
  | case1 => exact .done
  | case2 op rest other => exact .unexpectedOperator other
  | case3 op rest isOperator digits amount f failed =>
    have scanned : ∀ d ∈ digits, Text.isDigitLike d = true := fun d => List.mem_takeWhile_imp
    have ends : ∀ a r, rest.dropWhile Text.isDigitLike = a :: r → Text.isDigitLike a = false :=
      fun a r dropped => isDigitLike_head_dropWhile dropped
    have split : rest = digits ++ rest.dropWhile Text.isDigitLike :=
      List.takeWhile_append_dropWhile.symm
    obtain ⟨given, refused⟩ := amount_failed (by simpa [amount] using failed)
    show Reads e (op :: rest) [] (some f)
    rw [split]
    rcases integerOf_error refused given with ⟨long, rfl⟩ | ⟨within, notAll, rfl⟩
    · exact .tooManyDigits (operator_cases isOperator) scanned ends long
    · exact .notDecimal (operator_cases isOperator) scanned ends within notAll
  | case4 op rest isOperator digits amount0 amount read gone =>
    have whole : digits = rest :=
      List.takeWhile_eq_self_iff.mpr (List.dropWhile_eq_nil_iff.mp gone)
    have scanned : ∀ d ∈ digits, Text.isDigitLike d = true := fun d => List.mem_takeWhile_imp
    show Reads e (op :: rest) [] (some (.invalidDateMath e .missingUnit))
    rw [← whole]
    rcases amount_read (by simpa [amount0] using read) with ⟨none, -⟩ | ⟨-, decimal, short, -⟩
    · rw [none]
      exact .missingUnit (operator_cases isOperator) (by simp) (by simp)
    · exact .missingUnit (operator_cases isOperator)
        (fun d mem => ⟨scanned d mem, decimal d mem⟩) short
  | case5 op rest isOperator digits amount0 amount read u more next f failed =>
    have scanned : ∀ d ∈ digits, Text.isDigitLike d = true := fun d => List.mem_takeWhile_imp
    have split : rest = digits ++ u :: more := by
      rw [← next]
      exact List.takeWhile_append_dropWhile.symm
    have letter : Text.isDigitLike u = false := isDigitLike_head_dropWhile next
    show Reads e (op :: rest) [] (some f)
    rw [split]
    rcases amount_read (by simpa [amount0] using read) with
      ⟨none, noAmount⟩ | ⟨given, decimal, short, valued⟩
    · rcases stepOf_error failed with ⟨-, withAmount, -⟩ | ⟨-, unknown, rfl⟩
      · simp [noAmount] at withAmount
      · have takes : TakesAmount op [] := by
          rcases operator_cases isOperator with h | h | h
          · exact .inl h
          · exact .inr (.inl h)
          · exact .inr (.inr ⟨h, rfl⟩)
        rw [none]
        exact .unknownUnit takes (by simp) (by simp) letter unknown
    · rcases stepOf_error failed with ⟨slash, -, rfl⟩ | ⟨noAmount, unknown, rfl⟩
      · rw [slash]
        exact .roundingAmount given (fun d mem => ⟨scanned d mem, decimal d mem⟩) short letter
      · have takes : TakesAmount op digits := by
          rcases operator_cases isOperator with h | h | h
          · exact .inl h
          · exact .inr (.inl h)
          · simp [noAmount h] at valued
        exact .unknownUnit takes (fun d mem => ⟨scanned d mem, decimal d mem⟩) short letter unknown
  | case6 op rest isOperator digits amount0 amount read u more next step stepped later failure rest' ih =>
    have scanned : ∀ d ∈ digits, Text.isDigitLike d = true := fun d => List.mem_takeWhile_imp
    have split : rest = digits ++ u :: more := by
      rw [← next]
      exact List.takeWhile_append_dropWhile.symm
    obtain ⟨unit, named, shape⟩ := stepOf_ok stepped
    have amounted := amount_read (by simpa [amount0] using read)
    have wf : (OpText.mk op digits u).WellFormed := by
      refine ⟨?_, ?_, ?_, by simp [named]⟩
      · rcases operator_cases isOperator with h | h | h
        · exact .inl h
        · exact .inr (.inl h)
        · rcases shape with ⟨-, noAmount, -⟩ | ⟨notSlash, -⟩
          · rcases amounted with ⟨empty, -⟩ | ⟨-, -, -, valued⟩
            · exact .inr (.inr ⟨h, empty⟩)
            · simp [noAmount] at valued
          · exact absurd h notSlash
      · rcases amounted with ⟨empty, -⟩ | ⟨-, decimal, -, -⟩
        · simp [empty]
        · exact fun d mem => ⟨scanned d mem, decimal d mem⟩
      · rcases amounted with ⟨empty, -⟩ | ⟨-, -, short, -⟩
        · simp [empty]
        · exact short
    have same : (OpText.mk op digits u).toStep unit = step := by
      rcases shape with ⟨slash, -, rfl⟩ | ⟨notSlash, rfl⟩
      · simp [OpText.toStep, slash]
      · simp only [OpText.toStep, if_neg notSlash]
        rcases amounted with ⟨empty, none⟩ | ⟨given, -, -, valued⟩
        · simp [empty, none]
        · simp [given, valued]
    have after : Reads e more later failure := by
      rw [rest'] at ih
      exact ih
    have read := Reads.op wf named after
    rw [same] at read
    show Reads e (op :: rest) (step :: later) failure
    rw [split]
    simpa [OpText.chars] using read

theorem steps_ops_append (e : String) (ops : List OpText) (wf : ∀ o ∈ ops, o.WellFormed)
    (rest : List Char) :
    steps e (ops.flatMap OpText.chars ++ rest) =
      (ops.filterMap OpText.step? ++ (steps e rest).1, (steps e rest).2) := by
  induction ops with
  | nil => rfl
  | cons o more ih =>
    obtain ⟨u, named⟩ := Option.isSome_iff_exists.mp (wf o List.mem_cons_self).unit
    rw [List.flatMap_cons, List.append_assoc, steps_op e (wf o List.mem_cons_self) named,
      ih (fun o' mem => wf o' (List.mem_cons_of_mem o mem))]
    simp [OpText.step?, named]

theorem steps_ops (e : String) (ops : List OpText) (wf : ∀ o ∈ ops, o.WellFormed) :
    steps e (ops.flatMap OpText.chars) = (ops.filterMap OpText.step?, none) := by
  simpa [steps] using steps_ops_append e ops wf []

theorem Reads.grammatical {e : String} {cs : List Char} {todo : List Step}
    (read : Reads e cs todo none) :
    ∃ ops : List OpText, (∀ o ∈ ops, o.WellFormed) ∧ cs = ops.flatMap OpText.chars := by
  generalize noFault : (none : Option Fault) = failure at read
  induction read
  case done => exact ⟨[], by simp, rfl⟩
  case op o u rest later failure wf unit next ih =>
    obtain ⟨ops, all, rfl⟩ := ih noFault
    refine ⟨o :: ops, ?_, by simp⟩
    intro o' mem
    rcases List.mem_cons.mp mem with rfl | mem
    · exact wf
    · exact all o' mem
  -- every other production ends in a fault
  all_goals cases noFault

/-- Operations that read to their end are read the same before any text, whatever the
expression, and the reading goes on in that text. -/
theorem steps_append_of_read {e : String} {cs : List Char} (read : (steps e cs).2 = none)
    (e' : String) (rest : List Char) :
    steps e' (cs ++ rest) = ((steps e cs).1 ++ (steps e' rest).1, (steps e' rest).2) := by
  have reads := steps_reads e cs
  rw [read] at reads
  obtain ⟨ops, wf, rfl⟩ := reads.grammatical
  rw [steps_ops_append e' ops wf rest, steps_ops e ops wf]

/-- The operations after a date-math anchor follow their grammar. The text reads to its end
exactly when it is a run of well-formed operations; otherwise the reading takes the steps of the
well-formed operations before the first one that is not, and stops there with the fault that
reports it (`Reads`): an invalid date-math expression naming the operator or unit that is wrong,
a missing unit or an amount on a rounding, unless the amount holds a digit that integer reading
refuses or more than 4300 decimal digits. -/
theorem operations_follow_grammar (e : String) (cs : List Char) :
    Reads e cs (steps e cs).1 (steps e cs).2 ∧
      ((steps e cs).2 = none ↔
        ∃ ops : List OpText, (∀ o ∈ ops, o.WellFormed) ∧ cs = ops.flatMap OpText.chars) := by
  have read := steps_reads e cs
  refine ⟨read, ⟨fun accepted => ?_, ?_⟩⟩
  · rw [accepted] at read
    exact read.grammatical
  · rintro ⟨ops, wf, rfl⟩
    rw [steps_ops e ops wf]

theorem steps_long_amount (e : String) {op : Char} {ds rest : List Char}
    (operator : op = '+' ∨ op = '-' ∨ op = '/') (digits : ∀ d ∈ ds, IsAmountDigit d)
    (long : 4300 < ds.length) (ends : ∀ a r, rest = a :: r → Text.isDigitLike a = false) :
    steps e (op :: (ds ++ rest)) = ([], some (.tooManyDigits ds.length)) := by
  have scanned : ∀ d ∈ ds, Text.isDigitLike d = true := fun d mem => (digits d mem).1
  have taken : (ds ++ rest).takeWhile Text.isDigitLike = ds := by
    rw [List.takeWhile_append_of_pos scanned]
    cases rest with
    | nil => simp
    | cons a r => simp [List.takeWhile_cons_of_neg, ends a r rfl]
  have given : ds.isEmpty = false := by
    cases ds with
    | nil => simp at long
    | cons => rfl
  -- every digit is decimal, so it is the limit of integer conversion that refuses the amount
  have refused : integerOf ds = .error (.tooManyDigits ds.length) := by
    have all : ds.takeWhile isDecimal = ds :=
      List.takeWhile_eq_self_iff.mpr fun d mem => (digits d mem).2
    unfold integerOf
    simp only [show (fun c => (Text.decimalValue? c).isSome) = isDecimal from rfl, all]
    simp [long]
  have isOperator : ¬(op ≠ '+' ∧ op ≠ '-' ∧ op ≠ '/') := by
    rcases operator with plus | minus | slash <;> simp_all
  rw [steps]
  simp [isOperator, taken, given, refused, Except.map]

/-- `now+`, more than 4300 ones and a letter that names no unit: whatever `now` reads as, the
expression fails with the limit of integer conversion. -/
theorem evaluate_long_amount {n : Nat} (long : 4300 < n) (now : Time.Stamp) (up : Bool)
    (zone : Zone) :
    evaluate ("now+" ++ String.ofList (List.replicate n '1') ++ "x") now up zone =
      (nowMoment now zone >>= fun _ => .error (.tooManyDigits n)) := by
  let e := "now+" ++ String.ofList (List.replicate n '1') ++ "x"
  have chars : e.toList = 'n' :: 'o' :: 'w' :: ('+' :: (List.replicate n '1' ++ ['x'])) := by
    simp [e]
  have stripped : (Text.strip e).toList =
      'n' :: 'o' :: 'w' :: ('+' :: (List.replicate n '1' ++ ['x'])) :=
    @Text.strip_now e ('+' :: List.replicate n '1') 'x' chars (by decide)
  have read := @steps_long_amount e '+' (List.replicate n '1') ['x'] (.inl rfl)
    (fun d mem => by rw [List.eq_of_mem_replicate mem]; exact ⟨by decide, by decide⟩) (by simpa using long)
    (fun a r rest => by cases rest; decide)
  rw [List.length_replicate] at read
  rw [evaluate_now _ _ _ stripped]
  refine bind_congr_ok fun m _ => ?_
  simp only [finish, read, apply, ok_bind]
  rfl

/-- `now+` and 4301 ones before the letter `x`, which names no unit, is not reported as an
invalid date-math expression but as a plain value error of integer conversion. -/
theorem long_amount_escapes_date_math_fault :
    evaluate ("now+" ++ String.ofList (List.replicate 4301 '1') ++ "x") { wall := 0 } false .utc =
      .error (.tooManyDigits 4301) ∧ (Fault.tooManyDigits 4301).kind = "ValueError" := by
  refine ⟨?_, rfl⟩
  rw [evaluate_long_amount (by decide)]
  rfl

end PortableSearch.DateMath
