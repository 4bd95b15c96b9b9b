import PortableSearch.Searcher
import PortableSearch.Proofs.AggregationSection

/-! Which fault compiling a request reports: the query's first, then the first aggregation in
post-order, children before their parent, whose own step fails (`Aggregation.stepFault`). -/

namespace PortableSearch

mutual

/-- An aggregation and those below it in the order they are finished: each child's in turn,
then the aggregation itself. -/
def Aggregation.postOrder : Aggregation → List Aggregation
  | .mk key children minDocCount op =>
    Aggregation.postOrderAll children ++ [.mk key children minDocCount op]

def Aggregation.postOrderAll : List Aggregation → List Aggregation
  | [] => []
  | a :: rest => a.postOrder ++ Aggregation.postOrderAll rest

end

def rangesFault (zone : Zone) (now : Time.Stamp) (rs : List KeyedRange) : Option Fault :=
  (rs.flatMap fun r => [r.lower, r.upper]).findSome? fun v => faultOf (resolveEnd zone now v)

def nativeMergeFault (body : List (Value × Value)) : Option Fault :=
  let current := (entryValue? body (.str "aggs")).getD .null
  if current.truthy then
    match mappingOf current with
    | .error issue => some (.notMapping issue)
    | .ok _ => none
  else none

/-- The fault of an aggregation's own step once its children are compiled: a date histogram's
multiple of a calendar unit; a date range's zone that names none, even with no ends to read, and
else its first failing end; a filter query in which a generic query occurs; a native body that is
no object, or whose `aggs` member is no mapping when there are children to merge into it; an
aggregation of no particular kind. -/
def Aggregation.stepFault (ctx : Context) : Aggregation → Option Fault
  | .mk key children _ op =>
    match op with
    | .dateHistogram _ interval _ _ _ =>
      if IntervalKind.of? interval = none then some (.invalidInterval key interval) else none
    | .dateRanges _ rs _ timeZone =>
      match Zone.resolve ((rangeZone timeZone ctx.timeZone).getD "") with
      | .error f => some f
      | .ok zone => rangesFault zone ctx.now rs
    | .filters named =>
      if named.any (·.2.hasGeneric) then some (.unsupportedQuery "Query") else none
    | .native v =>
      match nativeObject key v with
      | .error f => some f
      | .ok body => if children.isEmpty then none else nativeMergeFault body
    | .generic kind => some (.unsupportedAgg key kind)
    | _ => none

def queryFault (q : Query) : Option Fault :=
  if q.hasGeneric then some (.unsupportedQuery "Query") else none

/-- The fault compiling a request reports: its query's, else the first own-step fault of its
aggregations in the order they are finished. -/
def SearchRequest.fault (ctx : Context) (r : SearchRequest) : Option Fault :=
  (r.query.bind queryFault).or ((Aggregation.postOrderAll r.aggs).findSome? (Aggregation.stepFault ctx))

theorem resolveRanges_fault (zone : Zone) (now : Time.Stamp) (rs : List KeyedRange) :
    faultOf (resolveRanges zone now rs) = rangesFault zone now rs := by
  induction rs with
  | nil => rfl
  | cons r rest ih =>
    simp only [rangesFault, List.flatMap_cons, List.findSome?_append] at ih ⊢
    cases lower : resolveEnd zone now r.lower with
    | error f => simp [resolveRanges, lower]
    | ok lo =>
      cases upper : resolveEnd zone now r.upper with
      | error f => simp [resolveRanges, lower, upper]
      | ok up =>
        simp only [resolveRanges, lower, upper, ok_bind, ← ih]
        simp [lower, upper]

theorem mergeChildren_fault (body : List (Value × Value)) (sub : Members) :
    faultOf (mergeChildren body sub) = if sub.isEmpty then none else nativeMergeFault body := by
  unfold mergeChildren nativeMergeFault
  split
  · rfl
  · dsimp only
    by_cases truthy : ((entryValue? body (.str "aggs")).getD .null).truthy
    · simp only [truthy, if_true]
      cases mappingOf ((entryValue? body (.str "aggs")).getD .null) <;> rfl
    · simp [truthy]

theorem compileFilters_fault (zone : Option String) (named : List (String × Query)) :
    faultOf (compileFilters zone named) =
      if named.any (·.2.hasGeneric) then some (.unsupportedQuery "Query") else none := by
  induction named with
  | nil => rfl
  | cons entry rest ih =>
    obtain ⟨label, q⟩ := entry
    obtain ⟨occurs, failed⟩ | ⟨clean, e, compiled, rendered⟩ :=
      Query.map_eq_expected_iff.mp (Query.toJson_compile zone q)
    · simp [compileFilters, failed, occurs]
    · simp only [compileFilters, compiled, rendered, ok_bind, pure, List.any_cons, clean,
        Bool.false_or]
      rw [← ih]
      cases compileFilters zone rest <;> rfl

theorem entry_fault (ctx : Context) (key : String) (children : List Aggregation)
    (minDocCount : Option Int) (op : Operation) {sub : Members}
    (sized : sub.isEmpty = children.isEmpty) :
    faultOf (op.entry ctx key (!children.isEmpty) sub minDocCount) =
      (Aggregation.mk key children minDocCount op).stepFault ctx := by
  cases op with
  | dateHistogram field interval format offset timeZone =>
    simp only [Operation.entry, Operation.body, Aggregation.stepFault]
    cases IntervalKind.of? interval <;> rfl
  | dateRanges field rs format timeZone =>
    simp only [Operation.entry, Operation.body, Aggregation.stepFault]
    cases Zone.resolve ((rangeZone timeZone ctx.timeZone).getD "") with
    | error f => rfl
    | ok zone =>
      simp only [ok_bind]
      rw [← resolveRanges_fault]
      cases resolveRanges zone ctx.now rs <;> rfl
  | filters named =>
    simp only [Operation.entry, Operation.body, Aggregation.stepFault]
    rw [← compileFilters_fault]
    cases compileFilters ctx.timeZone named <;> rfl
  | native v =>
    simp only [Operation.entry, Aggregation.stepFault]
    cases nativeObject key v with
    | error f => rfl
    | ok body =>
      simp only [ok_bind, faultOf_bind_pure, mergeChildren_fault, sized]
  | generic kind => rfl
  | _ => rfl

mutual

theorem wire_fault (ctx : Context) :
    ∀ a : Aggregation, faultOf (a.wire ctx) = a.postOrder.findSome? (Aggregation.stepFault ctx)
  | .mk key children minDocCount op => by
    have below := wireEntries_fault ctx children
    simp only [Aggregation.wire, Aggregation.postOrder, List.findSome?_append,
      List.findSome?_singleton]
    cases listed : Aggregation.wireEntries ctx children with
    | error f =>
      rw [listed] at below
      simp [← below]
    | ok es =>
      rw [listed] at below
      have sized : (Members.lastWins es).isEmpty = children.isEmpty := by
        simpa using lastWins_isEmpty listed
      simp only [ok_bind, ← below, faultOf_ok, Option.none_or]
      exact entry_fault ctx key children minDocCount op sized

theorem wireEntries_fault (ctx : Context) :
    ∀ as : List Aggregation, faultOf (Aggregation.wireEntries ctx as) =
      (Aggregation.postOrderAll as).findSome? (Aggregation.stepFault ctx)
  | [] => rfl
  | a :: rest => by
    have here := wire_fault ctx a
    have later := wireEntries_fault ctx rest
    simp only [Aggregation.wireEntries, Aggregation.postOrderAll, List.findSome?_append]
    cases built : a.wire ctx with
    | error f =>
      rw [built] at here
      simp [← here]
    | ok v =>
      rw [built] at here
      simp only [ok_bind, faultOf_bind_pure, ← here, ← later, faultOf_ok, Option.none_or]

end

/-- Compiling aggregations reports the first own-step fault in post-order. -/
theorem compileAll_fault (ctx : Context) (aggs : List Aggregation) :
    faultOf (Aggregation.compileAll ctx [] aggs) =
      (Aggregation.postOrderAll aggs).findSome? (Aggregation.stepFault ctx) := by
  rw [compileAll_eq, faultOf_map]
  exact wireEntries_fault ctx aggs

theorem section_fault (ctx : Context) (aggs : List Aggregation) (base : Members)
    (build : Members → Members) :
    faultOf (if aggs.isEmpty = true then pure base
      else do let s ← Aggregation.compileAll ctx [] aggs; pure (build s)) =
      (Aggregation.postOrderAll aggs).findSome? (Aggregation.stepFault ctx) := by
  split
  · rename_i empty
    rw [List.isEmpty_iff.mp empty]
    rfl
  · simp only [faultOf_bind_pure, compileAll_fault]

/-- Compiling a request fails exactly when its query has a generic query in it or one of its
aggregations fails, at any depth; the query's fault is reported first, then the first own-step
fault among the aggregations, children before their parent and siblings left to right. -/
theorem body_fault (ctx : Context) (r : SearchRequest) : faultOf (r.body ctx) = r.fault ctx := by
  unfold SearchRequest.body SearchRequest.fault
  cases r.query with
  | none =>
    simp only [pure_bind, Option.bind_none, Option.none_or]
    exact section_fault ctx r.aggs _ _
  | some q =>
    obtain ⟨occurs, failed⟩ | ⟨clean, e, compiled, rendered⟩ :=
      Query.map_eq_expected_iff.mp (Query.toJson_compile ctx.timeZone q)
    · simp [failed, queryFault, occurs]
    · simp only [compiled, rendered, ok_bind, pure_bind, Option.bind_some, queryFault, clean,
        Bool.false_eq_true, if_false, Option.none_or]
      exact section_fault ctx r.aggs _ _

end PortableSearch
