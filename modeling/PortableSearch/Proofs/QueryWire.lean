import PortableSearch.Engine.Aggregations

/-! The engine JSON of a compiled query, stated without the engine's query tree. `Query.wire`
renders a portable query straight to JSON, node by node; compiling fails exactly when a generic
query occurs, and otherwise the engine query it gives renders to `Query.wire`. -/

namespace PortableSearch

open Engine (single)

namespace Query

mutual

/-- Whether a generic query occurs in a query at some depth. -/
def hasGeneric : Query → Bool
  | .allOf qs | .anyOf qs | .noneOf qs => anyGeneric qs
  | .generic => true
  | _ => false

def anyGeneric : List Query → Bool
  | [] => false
  | q :: rest => q.hasGeneric || anyGeneric rest

end

/-- The clause of a boolean query named `name` holding `vs`; an empty clause is left out. -/
def clauseMembers (name : String) (vs : List Value) : Members :=
  if vs.isEmpty then [] else [(name, .list vs)]

def presentMembers (ms : Members) : Members :=
  ms.filter fun m => !m.2.isNull

mutual

/-- The JSON a query renders to when compiled in the zone `zone`: one `bool` clause per
composition, holding the children in order (no clause for no children, which the query model
rules out), and each leaf as the engine spells it. A `terms`
query on a field named `boost` loses its values to the unset boost member of the same object.
The generic query has no rendering; its value here is never used. -/
def wire (zone : Option String) : Query → Value
  | .allOf qs => single "bool" (.obj (clauseMembers "must" (wireAll zone qs)))
  | .anyOf qs => single "bool" (.obj (clauseMembers "should" (wireAll zone qs)))
  | .noneOf qs => single "bool" (.obj (clauseMembers "must_not" (wireAll zone qs)))
  | .matchAll => single "match_all" (.obj [])
  | .term field value => single "term" (single field (single "value" (.str (termText value))))
  | .terms field values =>
    single "terms" (.obj (if field = "boost" then []
      else [(field, .list (values.map fun v => .str (termText v)))]))
  | .fullText field text operator =>
    single "match" (single field (.obj (("query", .str text) ::
      (operator.map fun o => ("operator", .str o)).toList)))
  | .range field gte gt lte lt =>
    single "range" (single field (.obj (presentMembers
      [("gte", gte), ("gt", gt), ("lte", lte), ("lt", lt)])))
  | .dateRange field gte gt lte lt own =>
    let math := (dateBounds gte gt lte lt).any DateBound.isExpression
    single "range" (single field (.obj (setMembers
      [("gte", gte.map DateBound.toValue), ("gt", gt.map DateBound.toValue),
        ("lte", lte.map DateBound.toValue), ("lt", lt.map DateBound.toValue),
        ("time_zone", if math then (rangeZone own zone).map .str else none)])))
  | .regex field pattern => single "regexp" (single field (single "value" (.str pattern)))
  | .startsWith field text => single "prefix" (single field (single "value" (.str text)))
  | .wildcard field pattern => single "wildcard" (single field (single "value" (.str pattern)))
  | .hasField field present =>
    if present then single "exists" (single "field" (.str field))
    else single "bool" (single "must_not" (.list [single "exists" (single "field" (.str field))]))
  | .withinBox field box =>
    single "geo_bounding_box" (single field (.obj
      [("top_left", .obj [("lon", .float box.minX), ("lat", .float box.maxY)]),
        ("bottom_right", .obj [("lon", .float box.maxX), ("lat", .float box.minY)])]))
  | .queryString text defaultField defaultOperator =>
    single "query_string" (.obj (("query", .str text) ::
      (defaultField.map fun f => ("default_field", .str f)).toList ++
      [("default_operator", .str defaultOperator)]))
  | .generic => .null

def wireAll (zone : Option String) : List Query → List Value
  | [] => []
  | q :: rest => q.wire zone :: wireAll zone rest

end

end Query

namespace Members

theorem compact_eq_presentMembers (ms : Members) : Members.compact ms = Query.presentMembers ms := by
  unfold Members.compact Query.presentMembers
  congr 1
  funext m
  cases m.2 <;> rfl

@[simp] theorem compact_nil : Members.compact [] = [] := rfl

@[simp] theorem compact_cons_null (k : String) (ms : Members) :
    Members.compact ((k, .null) :: ms) = Members.compact ms := rfl

theorem compact_cons_optionValue (k : String) (b : Option DateBound) (ms : Members) :
    Members.compact ((k, DateBound.optionValue b) :: ms) =
      (b.map fun d => (k, d.toValue)).toList ++ Members.compact ms := by
  cases b with
  | none => rfl
  | some d => cases d <;> rfl

theorem compact_cons_textValue (k : String) (t : Option String) (ms : Members) :
    Members.compact ((k, Engine.textValue t) :: ms) =
      (t.map fun s => (k, Value.str s)).toList ++ Members.compact ms := by
  cases t <;> rfl

end Members

theorem setMembers_cons (k : String) (v : Option Value) (ms : List (String × Option Value)) :
    setMembers ((k, v) :: ms) = (v.map fun w => (k, w)).toList ++ setMembers ms := by
  cases v <;> rfl

@[simp] theorem setMembers_nil : setMembers [] = [] := rfl

namespace Query

/-- What compiling `q` and rendering the result should give: the unsupported-kind fault when a
generic query occurs in it, else the reference rendering. -/
def expected {α : Type} (generic : Bool) (rendering : α) : Outcome (Option α) :=
  if generic then .error (.unsupportedQuery "Query") else .ok (some rendering)

theorem map_eq_expected_iff {α β : Type} {generic : Bool} {rendering : α} {x : Outcome β}
    {render : β → Option α} :
    render <$> x = expected generic rendering ↔
      (generic = true ∧ x = .error (.unsupportedQuery "Query")) ∨
      (generic = false ∧ ∃ c, x = .ok c ∧ render c = some rendering) := by
  cases x <;> cases generic <;> simp [expected, Functor.map, Except.map, eq_comm]

theorem bool_toJson {cs : List Engine.Query} {vs : List Value}
    (rendered : Engine.Query.listToJson? cs = some vs) :
    (Engine.Query.bool cs [] [] []).toJson? = some (single "bool" (.obj (clauseMembers "must" vs))) ∧
    (Engine.Query.bool [] [] cs []).toJson? =
      some (single "bool" (.obj (clauseMembers "should" vs))) ∧
    (Engine.Query.bool [] [] [] cs).toJson? =
      some (single "bool" (.obj (clauseMembers "must_not" vs))) := by
  cases vs <;> simp [Engine.Query.toJson?, Engine.Query.listToJson?, rendered, clauseMembers,
    single, bind, Option.bind, pure]

theorem compose_toJson {zone : Option String} {qs : List Query}
    (build : List Engine.Query → Engine.Query) (name : String)
    (clause : ∀ cs vs, Engine.Query.listToJson? cs = some vs →
      (build cs).toJson? = some (single "bool" (.obj (clauseMembers name vs))))
    (children : Engine.Query.listToJson? <$> compileAll zone qs =
      expected (anyGeneric qs) (wireAll zone qs)) :
    Engine.Query.toJson? <$> (do let cs ← compileAll zone qs; pure (build cs)) =
      expected (anyGeneric qs) (single "bool" (.obj (clauseMembers name (wireAll zone qs)))) := by
  rw [map_eq_expected_iff]
  obtain ⟨occurs, failed⟩ | ⟨clean, cs, compiled, rendered⟩ := map_eq_expected_iff.mp children
  · exact .inl ⟨occurs, by simp [failed, bind, Except.bind]⟩
  · refine .inr ⟨clean, build cs, ?_, clause cs _ rendered⟩
    simp [compiled, bind, Except.bind, pure, Except.pure]

mutual

theorem toJson_compile (zone : Option String) :
    ∀ q : Query, Engine.Query.toJson? <$> q.compile zone = expected q.hasGeneric (q.wire zone)
  | .allOf qs => compose_toJson (.bool · [] [] []) "must" (fun _ _ rendered => (bool_toJson rendered).1)
      (listToJson_compileAll zone qs)
  | .anyOf qs => compose_toJson (.bool [] [] · []) "should"
      (fun _ _ rendered => (bool_toJson rendered).2.1) (listToJson_compileAll zone qs)
  | .noneOf qs => compose_toJson (.bool [] [] [] ·) "must_not"
      (fun _ _ rendered => (bool_toJson rendered).2.2) (listToJson_compileAll zone qs)
  | .generic => rfl
  | .matchAll => rfl
  | .term field value => rfl
  | .terms field values => by
    -- the field and the boost member share one object: a field named `boost` is overwritten
    by_cases boost : field = "boost"
    · subst boost
      rfl
    · simp [Query.compile, Engine.Query.toJson?, expected, hasGeneric, wire, boost, Members.ofList,
        Members.put, single, Engine.boostValue, Members.compact_eq_presentMembers, presentMembers,
        Value.isNull, Function.comp_def, Functor.map, Except.map, pure, Except.pure]
  | .fullText field text operator => by cases operator <;> rfl
  | .range field gte gt lte lt => by
    simp [Query.compile, Engine.Query.toJson?, expected, hasGeneric, wire, single, Engine.boostValue,
      Engine.textValue, Members.compact_eq_presentMembers, presentMembers, List.filter_cons,
      Value.isNull, Functor.map, Except.map, pure, Except.pure]
  | .dateRange field gte gt lte lt own => by
    simp [Query.compile, Engine.Query.toJson?, expected, hasGeneric, wire, single, Engine.boostValue,
      Members.compact_cons_optionValue, Members.compact_cons_textValue, setMembers_cons,
      Option.map_map, Function.comp_def, Functor.map, Except.map, pure, Except.pure]
    split <;> simp [Function.comp_def]
  | .regex field pattern => rfl
  | .startsWith field text => rfl
  | .wildcard field pattern => rfl
  | .hasField field present => by cases present <;> rfl
  | .withinBox field box => rfl
  | .queryString text defaultField defaultOperator => by cases defaultField <;> rfl

theorem listToJson_compileAll (zone : Option String) :
    ∀ qs : List Query,
      Engine.Query.listToJson? <$> compileAll zone qs = expected (anyGeneric qs) (wireAll zone qs)
  | [] => rfl
  | q :: rest => by
    rw [map_eq_expected_iff]
    obtain ⟨occurs, failed⟩ | ⟨clean, c, compiled, rendered⟩ :=
      map_eq_expected_iff.mp (toJson_compile zone q)
    · exact .inl ⟨by simp [anyGeneric, occurs], by simp [compileAll, failed, bind, Except.bind]⟩
    obtain ⟨occurs, failed⟩ | ⟨cleanRest, cs, compiledRest, renderedRest⟩ :=
      map_eq_expected_iff.mp (listToJson_compileAll zone rest)
    · exact .inl ⟨by simp [anyGeneric, occurs],
        by simp [compileAll, compiled, failed, bind, Except.bind]⟩
    refine .inr ⟨by simp [anyGeneric, clean, cleanRest], c :: cs, ?_, ?_⟩
    · simp [compileAll, compiled, compiledRest, bind, Except.bind, pure, Except.pure]
    · simp [Engine.Query.listToJson?, rendered, renderedRest, wireAll, bind, Option.bind, pure]

end

/-- Compiling a query fails exactly when a generic query occurs in it, with the unsupported-kind
fault; otherwise the engine query renders to the reference rendering. -/
theorem compile_renders_wire (zone : Option String) (q : Query) :
    Engine.Query.toJson? <$> q.compile zone =
      if q.hasGeneric then .error (.unsupportedQuery "Query") else .ok (some (q.wire zone)) :=
  toJson_compile zone q

-- a field named `boost` shares its object with the boost member, which drops the values
example : Engine.Query.toJson? <$> (Query.terms "boost" [.int 1]).compile none =
    .ok (some (single "terms" (.obj []))) := rfl

end Query

end PortableSearch
