import Mathlib.Data.String.Basic
import PortableSearch.Searcher
import PortableSearch.Proofs.AggregationSection

/-! The body of an engine request, stated with the reference renderings of its parts
(`SearchRequest.wireBody`), in the context given or else in the zone the request asks for; the
context reaches every query, those of `filters` aggregations at any depth included. -/

namespace PortableSearch

/-! ## Returned fields -/

/-- The returned fields as the engine is sent them are the distinct fields of the request, in
strictly increasing order of their code points. -/
theorem sortedDistinct_spec (xs : List String) :
    ((sortedDistinct xs).map Text.points).Pairwise (List.Lex (· < ·)) ∧
      ∀ ps, ps ∈ (sortedDistinct xs).map Text.points ↔ ps ∈ xs.map Text.points := by
  let sorted := (xs.map Text.points).eraseDups.mergeSort Text.pointsLE
  have perm : sorted.Perm (xs.map Text.points).eraseDups := List.mergeSort_perm _ _
  have members : ∀ ps, ps ∈ sorted ↔ ps ∈ xs.map Text.points := fun ps =>
    perm.mem_iff.trans List.mem_eraseDups
  -- the sorted point lists are those of texts, so encoding them and reading them back is exact
  have decoded : (sortedDistinct xs).map Text.points = sorted := by
    rw [sortedDistinct, List.map_map]
    refine (List.map_congr_left fun ps mem => ?_).trans (List.map_id _)
    obtain ⟨x, -, rfl⟩ := List.mem_map.mp ((members ps).mp mem)
    rw [Function.comp_apply, id_eq]
    exact Text.points_ofPoints fun _ => Text.lt_of_mem_points
  have ordered : sorted.Pairwise fun a b => Text.pointsLE a b = true :=
    @List.pairwise_mergeSort _ Text.pointsLE (fun _ _ _ ab bc => Text.pointsLE_trans ab bc)
      Text.pointsLE_total _
  have distinct : sorted.Nodup := perm.nodup_iff.mpr (Members.nodup_eraseDups _)
  rw [decoded]
  exact ⟨(ordered.and distinct).imp fun both => Text.lex_of_pointsLE both.1 both.2, members⟩

/-! ## Queries inside aggregations -/

theorem compileFilters_wire (zone : Option String) :
    ∀ named : List (String × Query), compileFilters zone named =
      if named.any (·.2.hasGeneric) then .error (.unsupportedQuery "Query")
      else .ok (named.map fun (label, q) => (label, q.wire zone))
  | [] => rfl
  | (label, q) :: rest => by
    obtain ⟨occurs, failed⟩ | ⟨clean, e, compiled, rendered⟩ :=
      Query.map_eq_expected_iff.mp (Query.toJson_compile zone q)
    · simp [compileFilters, failed, occurs]
    · have others := compileFilters_wire zone rest
      simp only [compileFilters, compiled, rendered, ok_bind, others, List.any_cons, clean,
        Bool.false_or]
      split <;> rfl

/-! ## The body -/

/-- The body a request should give in the context `c`, with the reference renderings of its
query and aggregations: a generic query fails it first, then the aggregations' first failure. -/
def SearchRequest.wireBody (r : SearchRequest) (c : Context) : Outcome Members := do
  let query ← match r.query with
    | some q => if q.hasGeneric then .error (.unsupportedQuery "Query") else .ok [("query", q.wire c.timeZone)]
    | none => .ok []
  let aggs ← if r.aggs.isEmpty then .ok []
    else (fun es => [("aggs", Value.obj (Members.lastWins es))]) <$> Aggregation.wireEntries c r.aggs
  pure ([("from", .int r.offset), ("size", .int (r.limit.getD defaultLimit))] ++ query ++
    (if r.fields.isEmpty then [] else [("_source", .list ((sortedDistinct r.fields).map .str))]) ++
    aggs ++
    (if r.sorts.isEmpty then []
      else [("sort", .list (r.sorts.map fun s =>
        .obj [(s.field, .str (if s.direction = .ascending then "asc" else "desc"))]))]) ++
    (match r.storedFields with
      | some fs => if fs.isEmpty then [] else [("stored_fields", .list (fs.map .str))]
      | none => []))

theorem sortMembers_eq (sorts : List SortField) :
    sorts.map SortField.toValue =
      sorts.map fun s => .obj [(s.field, .str (if s.direction = .ascending then "asc" else "desc"))] := by
  refine List.map_congr_left fun s _ => ?_
  cases direction : s.direction <;> simp [SortField.toValue, Direction.text, direction]

theorem wireEntries_outcome (c : Context) (aggs : List Aggregation) :
    aggs.isEmpty = true ∨ (aggs.isEmpty = false ∧ ∃ e, Aggregation.wireEntries c aggs = .error e) ∨
      (aggs.isEmpty = false ∧ ∃ es, Aggregation.wireEntries c aggs = .ok es ∧
        Members.lastWins es ≠ []) := by
  cases empty : aggs.isEmpty with
  | true => exact .inl rfl
  | false =>
    cases listed : Aggregation.wireEntries c aggs with
    | error e => exact .inr (.inl ⟨rfl, e, rfl⟩)
    | ok es =>
      have filled := lastWins_isEmpty listed
      rw [empty] at filled
      exact .inr (.inr ⟨rfl, es, rfl, List.isEmpty_eq_false_iff.mp filled⟩)

/-- The body of a request is the reference body: the compilers give the reference renderings, in
the one context `c`. -/
theorem body_eq_wireBody (r : SearchRequest) (c : Context) : r.body c = r.wireBody c := by
  unfold SearchRequest.body SearchRequest.wireBody
  rw [sortMembers_eq, compileAll_eq]
  -- three outcomes of the aggregations part, against three of the query part; the stored
  -- fields are matched alike
  cases r.storedFields <;>
  obtain empty | ⟨full, e, broken⟩ | ⟨full, es, listed, filled⟩ := wireEntries_outcome c r.aggs <;>
  cases r.query with
  | none => simp [*, Members.putAll_eq_lastWins, pure, Except.pure]
  | some q =>
    obtain ⟨occurs, failed⟩ | ⟨clean, e, compiled, rendered⟩ :=
      Query.map_eq_expected_iff.mp (Query.toJson_compile c.timeZone q)
    · simp [*]
    · simp [*, Members.putAll_eq_lastWins, pure, Except.pure]

/-! ## The context -/

/-- The time zone a request asks for: the first truthy of its parameters `timeZone` and
`time_zone` and the default zone, else the default zone. -/
def SearchRequest.askedZone (r : SearchRequest) (defaultZone : Value) : Value :=
  firstTruthy [(r.params.get? "timeZone").getD .null, (r.params.get? "time_zone").getD .null,
    defaultZone]

theorem context_of_askedZone (r : SearchRequest) (defaultZone : Value) (now : Time.Stamp)
    (zone : Option String) (asked : r.askedZone defaultZone = (zone.map .str).getD .null) :
    r.context defaultZone now = .ok { timeZone := zone, now } := by
  show (fun timeZone => ({ timeZone, now } : Context)) <$>
    Model.optional [("time_zone", r.askedZone defaultZone)] "time_zone" Model.str = _
  rw [asked]
  cases zone <;> rfl

/-- Compiling a request gives the reference body in the context given, or else in the one of the
zone the request asks for. -/
theorem compile_eq_wireBody (r : SearchRequest) (given : Option Context) (defaultZone : Value)
    (now : Time.Stamp) (zone : Option String)
    (asked : r.askedZone defaultZone = (zone.map .str).getD .null) :
    r.compile given defaultZone now = r.wireBody (given.getD { timeZone := zone, now }) := by
  cases given with
  | some c => exact body_eq_wireBody r c
  | none =>
    simp only [SearchRequest.compile, context_of_askedZone r defaultZone now zone asked]
    exact body_eq_wireBody r _

/-! ## The context at every depth -/

theorem filters_body (c : Context) (key : String) (named : List (String × Query)) :
    (Operation.filters named).body c key =
      if named.any (·.2.hasGeneric) then .error (.unsupportedQuery "Query")
      else .ok (some ("filters",
        [("filters", .obj (named.map fun (label, q) => (label, q.wire c.timeZone)))])) := by
  simp only [Operation.body, compileFilters_wire]
  split <;> rfl

/-! ## Searchers -/

theorem Searcher.compile_eq_wireBody (s : Searcher) (r : SearchRequest) (c : Context) :
    s.compile r c = { r with limit := r.limit <|> s.pageSize }.wireBody c := by
  rw [Searcher.compile, body_eq_wireBody]
  obtain ⟨offset, limit, query, aggs, sorts, fields, stored, params⟩ := r
  unfold Searcher.paged
  cases s.pageSize <;> cases limit <;> rfl

/-! ## Assembly -/

/-- A request whose asked zone is a text or null compiles, in the context given or else in one of
that zone, to the reference body: its members in order, each conditional one exactly when the
request sets it nonempty, the returned fields distinct and increasing; every `filters`
aggregation renders its queries in the zone of that one context; and a searcher sets its page size
as the limit of a request that sets none. -/
theorem request_assembly (r : SearchRequest) (given : Option Context) (defaultZone : Value)
    (now : Time.Stamp) (zone : Option String)
    (asked : r.askedZone defaultZone = (zone.map .str).getD .null) :
    let c := given.getD { timeZone := zone, now }
    r.compile given defaultZone now = r.wireBody c ∧
      (((sortedDistinct r.fields).map Text.points).Pairwise (List.Lex (· < ·)) ∧
        ∀ ps, ps ∈ (sortedDistinct r.fields).map Text.points ↔ ps ∈ r.fields.map Text.points) ∧
      (∀ key named, (Operation.filters named).body c key =
        if named.any (·.2.hasGeneric) then .error (.unsupportedQuery "Query")
        else .ok (some ("filters",
          [("filters", .obj (named.map fun (label, q) => (label, q.wire c.timeZone)))]))) ∧
      ∀ s : Searcher, s.compile r c = { r with limit := r.limit <|> s.pageSize }.wireBody c :=
  ⟨compile_eq_wireBody r given defaultZone now zone asked, sortedDistinct_spec r.fields,
    filters_body _, fun s => s.compile_eq_wireBody r _⟩

/-- A request asking for the zone `+02:00` by its parameter `timeZone` is compiled in it. -/
theorem request_assembly_in_asked_zone :
    SearchRequest.askedZone { params := [("timeZone", .str "+02:00")] } (.str "UTC") = .str "+02:00" ∧
      SearchRequest.compile { params := [("timeZone", .str "+02:00")] } none (.str "UTC") { wall := 0 } =
        SearchRequest.wireBody { params := [("timeZone", .str "+02:00")] }
          { timeZone := some "+02:00", now := { wall := 0 } } :=
  ⟨rfl, (request_assembly _ none (.str "UTC") { wall := 0 } (some "+02:00") rfl).1⟩

end PortableSearch
