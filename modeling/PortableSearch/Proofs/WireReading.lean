import PortableSearch.Proofs.QueryWire

/-! Reading engine queries back from their JSON. Reading the rendering of a query gives it back,
unless a `terms` query on a field named `boost` occurs in it, whose values share their object with
the boost member; so only such a query makes two renderings meet. -/

namespace PortableSearch.Engine

open PortableSearch.Query (clauseMembers presentMembers)

/-! ## Members read back -/

def presentOf (v : Option Value) : Value := v.getD .null

def boostOf : Option Value → Option (Option Float)
  | none => some none
  | some (.float b) => some (some b)
  | some _ => none

def textOf : Option Value → Option (Option String)
  | none => some none
  | some (.str s) => some (some s)
  | some _ => none

def stringOf : Option Value → Option String
  | some (.str s) => some s
  | _ => none

def stringsOf : List Value → Option (List String)
  | [] => some []
  | .str s :: rest => (stringsOf rest).map (s :: ·)
  | _ :: _ => none

theorem stringsOf_map_str (values : List String) : stringsOf (values.map .str) = some values := by
  induction values with
  | nil => rfl
  | cons v rest ih => simp [stringsOf, ih]

def valueBoostOf (ms : Members) : Option (String × Option Float) := do
  let value ← stringOf (Members.get? ms "value")
  let boost ← boostOf (Members.get? ms "boost")
  pure (value, boost)

/-- The leaf query of kind `kind` whose JSON under that kind is `body`. -/
def leafOfJson? (kind : String) (body : Value) : Option Query :=
  match kind, body with
  | "match_all", .obj [] => some .matchAll
  | "range", .obj [(field, .obj ms)] => do
    let boost ← boostOf (Members.get? ms "boost")
    let format ← textOf (Members.get? ms "format")
    let timeZone ← textOf (Members.get? ms "time_zone")
    pure (.range field (presentOf (Members.get? ms "gte")) (presentOf (Members.get? ms "gt"))
      (presentOf (Members.get? ms "lte")) (presentOf (Members.get? ms "lt")) boost format timeZone)
  | "term", .obj [(field, .obj ms)] => (valueBoostOf ms).map fun (v, b) => .term field v b
  | "terms", .obj ((field, .list vs) :: rest) =>
    if field = "boost" then none else do
      let values ← stringsOf vs
      let boost ← boostOf (Members.get? rest "boost")
      pure (.terms field values boost)
  | "match", .obj [(field, .obj ms)] => do
    let value ← stringOf (Members.get? ms "query")
    let boost ← boostOf (Members.get? ms "boost")
    let operator ← textOf (Members.get? ms "operator")
    pure (.fullText field value operator boost)
  | "wildcard", .obj [(field, .obj [("value", .str value)])] => some (.wildcard field value)
  | "regexp", .obj [(field, .obj ms)] => (valueBoostOf ms).map fun (v, b) => .regexp field v b
  | "prefix", .obj [(field, .obj ms)] => (valueBoostOf ms).map fun (v, b) => .startsWith field v b
  | "query_string", .obj ms => do
    let query ← stringOf (Members.get? ms "query")
    let defaultField ← textOf (Members.get? ms "default_field")
    let defaultOperator ← textOf (Members.get? ms "default_operator")
    pure (.queryString query defaultField defaultOperator)
  | "template", .obj [("inline", .str template), ("params", .obj params)] =>
    some (.inlineTemplate template params)
  | "template", .obj [("id", .str id), ("params", .obj params)] => some (.storedTemplate id params)
  | "geo_bounding_box", .obj [(field, .obj [("top_left", .obj [("lon", .float minX), ("lat", .float maxY)]),
      ("bottom_right", .obj [("lon", .float maxX), ("lat", .float minY)])])] =>
    some (.geoBox field ⟨minX, maxX, minY, maxY⟩)
  | "exists", .obj [("field", .str field)] => some (.hasField field)
  | _, _ => none

theorem leafOfJson?_range (field : String) (ms : Members) :
    leafOfJson? "range" (.obj [(field, .obj ms)]) = (do
      let boost ← boostOf (Members.get? ms "boost")
      let format ← textOf (Members.get? ms "format")
      let timeZone ← textOf (Members.get? ms "time_zone")
      pure (.range field (presentOf (Members.get? ms "gte")) (presentOf (Members.get? ms "gt"))
        (presentOf (Members.get? ms "lte")) (presentOf (Members.get? ms "lt")) boost format timeZone)) :=
  rfl

theorem leafOfJson?_terms (field : String) (vs : List Value) (rest : Members) :
    leafOfJson? "terms" (.obj ((field, .list vs) :: rest)) =
      if field = "boost" then none else (do
        let values ← stringsOf vs
        let boost ← boostOf (Members.get? rest "boost")
        pure (.terms field values boost)) :=
  rfl

mutual

/-- Read a query from its JSON: a one-member object naming its kind. -/
def Query.ofJson? : Value → Option Query
  | .obj [("bool", .obj cs)] => do
    let must ← Query.clauseOfJson? cs "must"
    let filter ← Query.clauseOfJson? cs "filter"
    let should ← Query.clauseOfJson? cs "should"
    let mustNot ← Query.clauseOfJson? cs "must_not"
    pure (.bool must filter should mustNot)
  | .obj [(kind, body)] => leafOfJson? kind body
  | _ => none
termination_by structural v => v

def Query.listOfJson? : List Value → Option (List Query)
  | [] => some []
  | v :: vs => do
    let q ← Query.ofJson? v
    let qs ← Query.listOfJson? vs
    pure (q :: qs)
termination_by structural vs => vs

def Query.clauseOfJson? : List (String × Value) → String → Option (List Query)
  | [], _ => some []
  | (k, v) :: rest, name =>
    if k = name then
      match v with
      | .list vs => Query.listOfJson? vs
      | _ => none
    else Query.clauseOfJson? rest name
termination_by structural cs => cs

end

/-! ## Which queries lose part of themselves -/

mutual

/-- Whether a `terms` query on a field named `boost` occurs in a query. -/
def Query.hasBoostTerms : Query → Bool
  | .bool must filter should mustNot =>
    Query.anyBoostTerms must || Query.anyBoostTerms filter || Query.anyBoostTerms should ||
      Query.anyBoostTerms mustNot
  | .terms field _ _ => field == "boost"
  | _ => false

def Query.anyBoostTerms : List Query → Bool
  | [] => false
  | q :: rest => q.hasBoostTerms || Query.anyBoostTerms rest

end

/-! ## Reading members of a rendering -/

theorem get?_eq_none_of_absent {ms : Members} {k : String} (absent : k ∉ ms.map Prod.fst) :
    Members.get? ms k = none := by
  induction ms with
  | nil => rfl
  | cons m rest ih =>
    simp only [List.map_cons, List.mem_cons, not_or] at absent
    simp [Members.get?, Ne.symm absent.1, ih absent.2]

/-- Leaving out null members hides exactly the null values, when names stand once. -/
theorem get?_compact {ms : Members} (distinct : (ms.map Prod.fst).Nodup) (k : String) :
    Members.get? (Members.compact ms) k = (Members.get? ms k).filter fun v => !v.isNull := by
  rw [Members.compact_eq_presentMembers]
  unfold presentMembers
  induction ms with
  | nil => rfl
  | cons m rest ih =>
    obtain ⟨name, v⟩ := m
    simp only [List.map_cons, List.nodup_cons] at distinct
    by_cases same : name = k
    · subst same
      cases null : v.isNull <;>
        simp [Members.get?, Option.filter, null, ih distinct.2, get?_eq_none_of_absent distinct.1]
    · cases null : v.isNull <;> simp [Members.get?, null, same, ih distinct.2]

@[simp] theorem presentOf_present (v : Value) :
    presentOf ((some v).filter fun v => !v.isNull) = v := by
  cases v <;> rfl

@[simp] theorem boostOf_present (b : Option Float) :
    boostOf ((some (boostValue b)).filter fun v => !v.isNull) = some b := by
  cases b <;> rfl

@[simp] theorem textOf_present (t : Option String) :
    textOf ((some (textValue t)).filter fun v => !v.isNull) = some t := by
  cases t <;> rfl

/-- The object of a `terms` query on a field not named `boost`: the values, then the boost when
it is set. -/
theorem termsMembers {field : String} {values : List String} {boost : Option Float}
    (named : field ≠ "boost") :
    Members.compact (Members.ofList [(field, .list (values.map .str)), ("boost", boostValue boost)]) =
      (field, .list (values.map .str)) :: (boost.map fun b => ("boost", Value.float b)).toList := by
  cases boost <;> simp [Members.ofList, Members.put, named, Members.compact, boostValue]

theorem ofJson?_leaf {kind : String} (body : Value) (leaf : kind ≠ "bool") :
    Query.ofJson? (.obj [(kind, body)]) = leafOfJson? kind body := by
  unfold Query.ofJson?
  split
  · rename_i same
    simp only [Value.obj.injEq, List.cons.injEq, Prod.mk.injEq, and_true] at same
    exact absurd same.1 leaf
  · rename_i matched
    simp only [Value.obj.injEq, List.cons.injEq, Prod.mk.injEq, and_true] at matched
    rw [matched.1, matched.2]
  · rename_i other
    exact absurd rfl (other kind body)

/-! ## Boolean queries read back -/

theorem clauseOfJson?_other {k name : String} (vs : List Value) (rest : Members) (differ : k ≠ name) :
    Query.clauseOfJson? (clauseMembers k vs ++ rest) name = Query.clauseOfJson? rest name := by
  cases vs <;> simp [clauseMembers, Query.clauseOfJson?, differ]

theorem clauseOfJson?_self {name : String} (vs : List Value) {rest : Members}
    (absent : Query.clauseOfJson? rest name = some []) :
    Query.clauseOfJson? (clauseMembers name vs ++ rest) name = Query.listOfJson? vs := by
  cases vs with
  | nil => simp [clauseMembers, absent, Query.listOfJson?]
  | cons v vs => simp [clauseMembers, Query.clauseOfJson?]

theorem boolMembers_eq (m f s n : List Value) :
    ([("must", m), ("filter", f), ("should", s), ("must_not", n)].filter fun c => !c.2.isEmpty).map
        (fun c => (c.1, Value.list c.2)) =
      clauseMembers "must" m ++ (clauseMembers "filter" f ++ (clauseMembers "should" s ++
        (clauseMembers "must_not" n ++ []))) := by
  cases m <;> cases f <;> cases s <;> cases n <;> rfl

/-- Each clause of a rendered boolean query reads back as the array it holds; the other clauses
are passed over. -/
theorem clausesOfJson?_bool (m f s n : List Value) :
    let ms := clauseMembers "must" m ++ (clauseMembers "filter" f ++ (clauseMembers "should" s ++
      (clauseMembers "must_not" n ++ [])))
    Query.clauseOfJson? ms "must" = Query.listOfJson? m ∧
    Query.clauseOfJson? ms "filter" = Query.listOfJson? f ∧
    Query.clauseOfJson? ms "should" = Query.listOfJson? s ∧
    Query.clauseOfJson? ms "must_not" = Query.listOfJson? n := by
  intro ms
  refine ⟨clauseOfJson?_self m ?_, ?_, ?_, ?_⟩
  · rw [clauseOfJson?_other f _ (by decide), clauseOfJson?_other s _ (by decide),
      clauseOfJson?_other n _ (by decide)]
    rfl
  · rw [clauseOfJson?_other m _ (by decide)]
    refine clauseOfJson?_self f ?_
    rw [clauseOfJson?_other s _ (by decide), clauseOfJson?_other n _ (by decide)]
    rfl
  · rw [clauseOfJson?_other m _ (by decide), clauseOfJson?_other f _ (by decide)]
    refine clauseOfJson?_self s ?_
    rw [clauseOfJson?_other n _ (by decide)]
    rfl
  · rw [clauseOfJson?_other m _ (by decide), clauseOfJson?_other f _ (by decide),
      clauseOfJson?_other s _ (by decide)]
    exact clauseOfJson?_self n rfl

/-! ## Reading back what was written -/

theorem boolOfJson? (a b c d : Bool) (must filter should mustNot : List Query) :
    (do
      let must ← (if a then none else some must)
      let filter ← (if b then none else some filter)
      let should ← (if c then none else some should)
      let mustNot ← (if d then none else some mustNot)
      pure (Query.bool must filter should mustNot)) =
      if (a || b || c || d) then none else some (Query.bool must filter should mustNot) := by
  cases a <;> cases b <;> cases c <;> cases d <;> rfl

theorem consOfJson? (a b : Bool) (q : Query) (rest : List Query) :
    (do
      let q ← (if a then none else some q)
      let qs ← (if b then none else some rest)
      pure (q :: qs)) = if (a || b) then none else some (q :: rest) := by
  cases a <;> cases b <;> rfl

mutual

/-- Reading the JSON of a query gives the query back, unless a `terms` query on a field named
`boost` occurs in it; then reading fails. -/
theorem ofJson?_toJson? : ∀ (q : Query) (j : Value), q.toJson? = some j →
    Query.ofJson? j = if q.hasBoostTerms then none else some q
  | .bool must filter should mustNot, j, rendered => by
    simp only [Query.toJson?, Option.bind_eq_bind, Option.bind_eq_some_iff, Option.pure_def,
      Option.some.injEq] at rendered
    obtain ⟨m, readM, f, readF, s, readS, n, readN, rfl⟩ := rendered
    obtain ⟨mustBack, filterBack, shouldBack, mustNotBack⟩ := clausesOfJson?_bool m f s n
    simp only [single, boolMembers_eq, Query.ofJson?, mustBack, filterBack, shouldBack,
      mustNotBack, listOfJson?_listToJson? must m readM, listOfJson?_listToJson? filter f readF,
      listOfJson?_listToJson? should s readS, listOfJson?_listToJson? mustNot n readN,
      Query.hasBoostTerms]
    exact boolOfJson? _ _ _ _ must filter should mustNot
  | .matchAll, j, rendered => by
    cases rendered
    rfl
  | .range field gte gt lte lt boost format timeZone, j, rendered => by
    cases rendered
    have distinct : ([("gte", gte), ("gt", gt), ("lte", lte), ("lt", lt), ("boost", boostValue boost),
        ("format", textValue format), ("time_zone", textValue timeZone)].map Prod.fst).Nodup := by
      simp only [List.map_cons, List.map_nil]
      decide
    rw [single, single, ofJson?_leaf _ (by decide), leafOfJson?_range]
    simp [get?_compact distinct, Members.get?, Query.hasBoostTerms]
  | .term field value boost, j, rendered => by
    cases rendered
    cases boost <;> rfl
  | .terms field values boost, j, rendered => by
    cases rendered
    -- a field named `boost` is overwritten by the boost member, and its values are lost
    by_cases named : field = "boost"
    · subst named
      cases boost <;> rfl
    · rw [single, termsMembers named, ofJson?_leaf _ (by decide), leafOfJson?_terms]
      cases boost <;> simp [named, stringsOf_map_str, boostOf, Members.get?, Query.hasBoostTerms]
  | .fullText field value operator boost, j, rendered => by
    cases rendered
    cases operator <;> cases boost <;> rfl
  | .wildcard field value, j, rendered => by
    cases rendered
    rfl
  | .regexp field value boost, j, rendered => by
    cases rendered
    cases boost <;> rfl
  | .startsWith field value boost, j, rendered => by
    cases rendered
    cases boost <;> rfl
  | .queryString query defaultField defaultOperator, j, rendered => by
    cases rendered
    cases defaultField <;> cases defaultOperator <;> rfl
  | .inlineTemplate template params, j, rendered => by
    cases rendered
    rfl
  | .storedTemplate id params, j, rendered => by
    cases rendered
    rfl
  | .geoBox field box, j, rendered => by
    cases rendered
    rfl
  | .hasField field, j, rendered => by
    cases rendered
    rfl
  | .abstract, j, rendered => by cases rendered

theorem listOfJson?_listToJson? : ∀ (qs : List Query) (vs : List Value), Query.listToJson? qs = some vs →
    Query.listOfJson? vs = if Query.anyBoostTerms qs then none else some qs
  | [], vs, rendered => by
    cases rendered
    rfl
  | q :: rest, vs, rendered => by
    simp only [Query.listToJson?, Option.bind_eq_bind, Option.bind_eq_some_iff, Option.pure_def,
      Option.some.injEq] at rendered
    obtain ⟨v, readV, others, readOthers, rfl⟩ := rendered
    simp only [Query.listOfJson?, ofJson?_toJson? q v readV,
      listOfJson?_listToJson? rest others readOthers, Query.anyBoostTerms]
    exact consOfJson? _ _ q rest

end

/-- Two engine queries with the same JSON are the same query, once one of them holds no `terms`
query on a field named `boost`. -/
theorem wire_determines_query {w₁ w₂ : Query} {j : Value} (clean : w₁.hasBoostTerms = false)
    (first : w₁.toJson? = some j) (second : w₂.toJson? = some j) : w₁ = w₂ := by
  have readFirst := ofJson?_toJson? w₁ j first
  have readSecond := ofJson?_toJson? w₂ j second
  rw [clean] at readFirst
  cases lossy : w₂.hasBoostTerms
  · simp_all
  · simp_all

/-- A boolean query over a lookup and a field test, with its JSON: the query is the only one with
that JSON. -/
theorem wire_determines_bool_query :
    let w := Query.bool [.term "kind" "quake" (some 2.0)] [] [] [.hasField "depth"]
    w.hasBoostTerms = false ∧
      w.toJson? = some (single "bool" (.obj
        [("must", .list [single "term" (single "kind" (.obj [("value", .str "quake"), ("boost", .float 2.0)]))]),
          ("must_not", .list [single "exists" (single "field" (.str "depth"))])])) ∧
      ∀ w₂ : Query, w₂.toJson? = w.toJson? → w₂ = w :=
  ⟨rfl, rfl, fun _ same => (wire_determines_query rfl rfl same).symm⟩

/-- Two `terms` queries on a field named `boost` with different values have the same JSON. -/
theorem wire_rendering_loses_boost_terms :
    ¬ ∀ (w₁ w₂ : Query) (j : Value), w₁.toJson? = some j → w₂.toJson? = some j → w₁ = w₂ := by
  intro lossless
  have same := lossless (.terms "boost" ["a"] none) (.terms "boost" ["b"] none)
    (single "terms" (.obj [])) rfl rfl
  simp at same

end PortableSearch.Engine
