import PortableSearch.Engine.Aggregations
import PortableSearch.Proofs.LastWins
import PortableSearch.Proofs.Outcome
import PortableSearch.Proofs.QueryWire

/-! The aggregations section, stated without the builder that fills it: compiling aggregations
yields the last-wins object of their entries (`Aggregation.wire`), or the first failure among them. -/

namespace PortableSearch

def minDocCountMembers : Option Int → Members
  | some n => [("min_doc_count", .int n)]
  | none => []

/-- The entry of an aggregation of operation `op` under `key`, whose children's section is
`sub`: a native body with the children merged into its `aggs` member; any other body under the
engine's name for the operation, with the least document count as its last member, followed by
the children's section under `aggs` exactly when there are children. -/
def Operation.entry (ctx : Context) (key : String) (hasChildren : Bool) (sub : Members)
    (minDocCount : Option Int) : Operation → Outcome Value
  | .native v => do
    let body ← nativeObject key v
    let body ← mergeChildren body sub
    pure (Value.ofEntries (withMinDocCount body minDocCount))
  | .generic kind => throw (.unsupportedAgg key kind)
  | op => do
    match ← op.body ctx key with
    | some (name, body) =>
      pure (.obj ((name, .obj (body ++ minDocCountMembers minDocCount)) ::
        (if hasChildren then [("aggs", .obj sub)] else [])))
    | none => throw (.unsupportedAgg key "Agg")

mutual

/-- The entry of an aggregation in the context `ctx`. -/
def Aggregation.wire (ctx : Context) : Aggregation → Outcome Value
  | .mk key children minDocCount op => do
    let es ← Aggregation.wireEntries ctx children
    op.entry ctx key (!children.isEmpty) (Members.lastWins es) minDocCount

/-- The keys and entries of aggregations, in order; the first failure stops the list. -/
def Aggregation.wireEntries (ctx : Context) : List Aggregation → Outcome (List (String × Value))
  | [] => .ok []
  | a :: rest => do
    let v ← a.wire ctx
    let vs ← Aggregation.wireEntries ctx rest
    pure ((a.key, v) :: vs)

end

theorem Members.put_of_contains_eq_false {ms : Members} {k : String}
    (fresh : ms.contains k = false) (v : Value) : ms.put k v = ms ++ [(k, v)] := by
  induction ms with
  | nil => rfl
  | cons m rest ih =>
    simp only [Members.contains, Bool.or_eq_false_iff] at fresh
    have differ : m.1 ≠ k := by simpa using fresh.1
    simp [Members.put, differ, ih fresh.2]

@[simp] theorem Members.contains_append (a b : Members) (k : String) :
    Members.contains (a ++ b) k = (a.contains k || b.contains k) := by
  induction a with
  | nil => simp [Members.contains]
  | cons m rest ih => simp [Members.contains, ih, Bool.or_assoc]

theorem setMembers_contains {ms : List (String × Option Value)} {k : String}
    (absent : ∀ m ∈ ms, m.1 ≠ k) : Members.contains (setMembers ms) k = false := by
  induction ms with
  | nil => rfl
  | cons m rest ih =>
    obtain ⟨name, value⟩ := m
    have differ : name ≠ k := absent (name, value) List.mem_cons_self
    have others := ih fun m mem => absent m (List.mem_cons_of_mem _ mem)
    cases value <;> simp [setMembers_cons, Members.contains, differ, others]

theorem Operation.body_contains_minDocCount {ctx : Context} {key name : String} {op : Operation}
    {body : Members} (built : op.body ctx key = .ok (some (name, body))) :
    body.contains "min_doc_count" = false := by
  cases op with
  | terms field size order absent =>
    simp only [Operation.body, pure, Except.pure, Except.ok.injEq, Option.some.injEq,
      Prod.mk.injEq] at built
    obtain ⟨-, rfl⟩ := built
    cases absent.isNull <;> simp [Members.contains]
  | dateHistogram field interval format offset timeZone =>
    simp only [Operation.body] at built
    split at built
    · rename_i kind _
      simp only [pure, Except.pure] at built
      obtain ⟨-, rfl⟩ := built
      cases kind <;> simp [Members.contains, IntervalKind.memberName, setMembers_contains]
    · simp [throw, throwThe, MonadExceptOf.throw, bind, Except.bind] at built
  | dateRanges field rs format timeZone =>
    simp only [Operation.body, bind_eq_ok, pure, Except.pure, Except.ok.injEq, Option.some.injEq,
      Prod.mk.injEq] at built
    obtain ⟨zone, -, resolved, -, -, rfl⟩ := built
    simp [Members.contains, setMembers_contains]
  | filters named =>
    simp only [Operation.body, bind_eq_ok, pure, Except.pure, Except.ok.injEq, Option.some.injEq,
      Prod.mk.injEq] at built
    obtain ⟨compiled, -, -, rfl⟩ := built
    simp [Members.contains]
  | native v => simp [Operation.body, pure, Except.pure] at built
  | generic kind => simp [Operation.body, pure, Except.pure] at built
  | _ =>
    simp only [Operation.body, pure, Except.pure, Except.ok.injEq, Option.some.injEq,
      Prod.mk.injEq] at built
    obtain ⟨-, rfl⟩ := built
    simp [Members.contains, setMembers_contains]

/-- The builder's entry is the reference entry, given whether its children's section is empty. -/
theorem entryOf_eq_entry (ctx : Context) (key : String) (sub : Members) (minDocCount : Option Int)
    (op : Operation) {hasChildren : Bool} (children : sub.isEmpty = !hasChildren) :
    entryOf ctx key sub minDocCount op = op.entry ctx key hasChildren sub minDocCount := by
  cases op
  case native => rfl
  case generic => rfl
  all_goals
    simp only [entryOf, Operation.entry]
    apply bind_congr_ok
    intro shaped built
    rcases shaped with _ | ⟨name, body⟩
    · rfl
    · have fresh := Operation.body_contains_minDocCount built
      cases minDocCount <;> cases hasChildren <;>
        simp_all [minDocCountMembers, Members.put_of_contains_eq_false fresh, pure, Except.pure]

theorem wireEntries_keys {ctx : Context} :
    ∀ {as : List Aggregation} {es : List (String × Value)},
      Aggregation.wireEntries ctx as = .ok es → es.map Prod.fst = as.map Aggregation.key
  | [], es, listed => by
    simp only [Aggregation.wireEntries, Except.ok.injEq] at listed
    simp [← listed]
  | a :: rest, es, listed => by
    simp only [Aggregation.wireEntries, bind_eq_ok, pure, Except.pure, Except.ok.injEq] at listed
    obtain ⟨v, -, vs, others, rfl⟩ := listed
    simp [wireEntries_keys others]

theorem lastWins_isEmpty {ctx : Context} {children : List Aggregation} {es : List (String × Value)}
    (listed : Aggregation.wireEntries ctx children = .ok es) :
    (Members.lastWins es).isEmpty = !(!children.isEmpty) := by
  have keys := congrArg List.length (wireEntries_keys listed)
  simp only [List.length_map] at keys
  cases es with
  | nil => cases children <;> simp_all [Members.lastWins]
  | cons e rest => cases children <;> simp_all [Members.lastWins, List.eraseDups_cons]

mutual

theorem compileInto_eq (ctx : Context) (entries : Members) :
    ∀ a : Aggregation,
      Aggregation.compileInto ctx entries a = (fun v => entries.put a.key v) <$> a.wire ctx
  | .mk key children minDocCount op => by
    simp only [Aggregation.compileInto, Aggregation.wire, compileAll_eq ctx [] children]
    cases listed : Aggregation.wireEntries ctx children with
    | error e => rfl
    | ok es =>
      simp only [map_ok, ok_bind, Members.putAll_eq_lastWins,
        entryOf_eq_entry ctx key _ minDocCount op (lastWins_isEmpty listed)]
      cases op.entry ctx key (!children.isEmpty) (Members.lastWins es) minDocCount <;> rfl

theorem compileAll_eq (ctx : Context) :
    ∀ (entries : Members) (as : List Aggregation),
      Aggregation.compileAll ctx entries as = Members.putAll entries <$> Aggregation.wireEntries ctx as
  | entries, [] => rfl
  | entries, a :: rest => by
    simp only [Aggregation.compileAll, Aggregation.wireEntries, compileInto_eq ctx entries a]
    cases a.wire ctx with
    | error e => rfl
    | ok v =>
      simp only [map_ok, ok_bind, compileAll_eq ctx _ rest]
      cases Aggregation.wireEntries ctx rest <;> rfl

end

/-- The aggregations section of a list of aggregations is the last-wins object of their entries:
one member per key, in order of first occurrence, holding the entry of the last aggregation
with that key; compiling fails with the first entry that fails. -/
theorem compileAll_section (ctx : Context) (aggs : List Aggregation) :
    Aggregation.compileAll ctx [] aggs = Members.lastWins <$> Aggregation.wireEntries ctx aggs ∧
    ∀ es, Aggregation.wireEntries ctx aggs = .ok es → es.map Prod.fst = aggs.map Aggregation.key := by
  refine ⟨?_, fun _ listed => wireEntries_keys listed⟩
  rw [compileAll_eq]
  cases Aggregation.wireEntries ctx aggs with
  | error e => rfl
  | ok es => simp [Members.putAll_eq_lastWins]

-- a repeated key keeps its first place and takes the later entry
example : Aggregation.compileAll { now := { wall := 0 } } []
    [.mk "k" [] none (.stats "depth"), .mk "j" [] none (.cardinality "id"),
      .mk "k" [] (some 2) (.missing "depth")] =
    .ok [("k", .obj [("missing", .obj [("field", .str "depth"), ("min_doc_count", .int 2)])]),
      ("j", .obj [("cardinality", .obj [("field", .str "id")])])] := rfl

end PortableSearch
