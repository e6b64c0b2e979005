import Polystore.Proofs.Search.Weights
import Polystore.Proofs.Search.WrittenFilters

/-!
# Weights in bodies

Where the weights of fields stand in the body of a search.  A weight is looked up at each place that
writes a clause, and each kind of clause has its own level for it.  `Clause.Weighed` writes down the
clauses that a body may consist of, each with the weight of its field and nothing else that could
be one; `Clause.unweighted` takes the weights out of a written query and touches nothing else.

    Weighed suffix r.boostOf (r.toQuery suffix).toJson                            (threaded_toQuery)
    unweightedBody (r.body suffix limit) = (r.weighted []).body suffix limit      (body_weighed)
-/

namespace Polystore

/-! ## Weighed clauses -/

namespace Clause

/-- A combination of sections, each with its clauses. -/
def combination (sections : List (String × List Json)) (minimum : Option Nat) : Json :=
  .obj [("bool", .obj (sections.map (fun p => (p.1, .arr p.2)) ++
    (minimum.map fun n => ("minimum_should_match", .ofNat n)).toList))]

/-- A written query whose clauses carry the weights of their fields, wherever they stand.  A clause
on a sub-field carries the weight of the field itself, and one on no field of its own has none. -/
inductive Weighed (suffix : String) (weight : String → Option Number) : Json → Prop
  | term (field : String) (v : Json) : Weighed suffix weight
      (.obj [("term", .obj [(field ++ suffix, weighted (weight field) [("value", v)])])])
  | terms (field : String) (vs : List Json) : Weighed suffix weight
      (.obj [("terms", weighted (weight field) [(field ++ suffix, .arr vs)])])
  | range (field : String) (bounds : List (Bound × Json)) : Weighed suffix weight
      (.obj [("range", .obj [(field ++ suffix,
        weighted (weight field) (bounds.map fun p => (p.1.key, p.2)))])])
  | start (field text : String) : Weighed suffix weight
      (.obj [("prefix", .obj [(field ++ suffix,
        weighted (weight field) [("value", .str text)])])])
  | pattern (field source : String) : Weighed suffix weight
      (.obj [("regexp", .obj [(field ++ suffix,
        weighted (weight field) [("value", .str source)])])])
  | hasValue (field : String) : Weighed suffix weight
      (.obj [("exists", weighted (weight field) [("field", .str field)])])
  | words (field text : String) : Weighed suffix weight
      (.obj [("match", .obj [(field, weighted (weight field)
        [("query", .str text), ("fuzziness", .str "AUTO"),
          ("fuzzy_transpositions", .bool true)])])])
  | wordsIn (fields : List String) (text : String) : Weighed suffix weight
      (.obj [("multi_match", .obj [("query", .str text), ("fields", .ofStrings fields),
        ("fuzziness", .str "AUTO"), ("lenient", .bool true)])])
  | all : Weighed suffix weight (.obj [("match_all", .obj [])])
  | inScope (path : String) {clause : Json} : Weighed suffix weight clause →
      Weighed suffix weight (inScope path clause)
  | combination {sections : List (String × List Json)} (minimum : Option Nat) :
      (∀ p ∈ sections, ∀ clause ∈ p.2, Weighed suffix weight clause) →
      Weighed suffix weight (combination sections minimum)

/-! ## Clauses without weights -/

/-- The kinds of clauses that hold their parameters under the name of their field. -/
def fieldKinds : List String := ["term", "range", "prefix", "regexp", "match"]

/-- Parameters without a weight. -/
def dropWeight : Json → Json
  | .obj params => .obj (Assoc.erase "boost" params)
  | v => v

/-- What stands under the kind of a clause without clauses inside it, with the weight taken out. -/
def unweightedLeaf (kind : String) (params : Record) : Record :=
  if kind ∈ fieldKinds then params.map fun p => (p.1, dropWeight p.2)
  else Assoc.erase "boost" params

mutual

/-- A written query with the weight taken out of each of its clauses. -/
def unweighted : Json → Json
  | .obj [(kind, .obj params)] =>
    if kind = "bool" then .obj [(kind, .obj (unweightedSections params))]
    else if kind = "nested" then .obj [(kind, .obj (unweightedScope params))]
    else .obj [(kind, .obj (unweightedLeaf kind params))]
  | v => v

/-- The parameters of a combination, without the weights of its clauses. -/
def unweightedSections : List (String × Json) → List (String × Json)
  | [] => []
  | (name, v) :: params => (name, unweightedSection v) :: unweightedSections params

/-- A section of a combination, without the weights of its clauses. -/
def unweightedSection : Json → Json
  | .arr clauses => .arr (unweightedAll clauses)
  | v => v

/-- The parameters of a nested clause, without the weights of the clause inside it. -/
def unweightedScope : List (String × Json) → List (String × Json)
  | [] => []
  | (name, v) :: params =>
    (name, if name = "query" then unweighted v else v) :: unweightedScope params

/-- Several clauses without their weights. -/
def unweightedAll : List Json → List Json
  | [] => []
  | clause :: clauses => unweighted clause :: unweightedAll clauses

end

theorem unweightedAll_eq_map (clauses : List Json) :
    unweightedAll clauses = clauses.map unweighted := by
  induction clauses with
  | nil => rfl
  | cons clause clauses ih => rw [unweightedAll, ih, List.map_cons]

theorem unweightedSections_eq_map (params : Record) :
    unweightedSections params = params.map fun p => (p.1, unweightedSection p.2) := by
  induction params with
  | nil => rfl
  | cons p params ih => rw [unweightedSections, ih, List.map_cons]

theorem dropWeight_withBoost (boost : Option Number) {params : Record}
    (h : "boost" ∉ Assoc.keys params) : dropWeight (withBoost boost params) = .obj params := by
  cases boost with
  | none => exact congrArg Json.obj (Assoc.erase_of_not_mem h)
  | some w =>
    show Json.obj (Assoc.erase "boost" (Assoc.put "boost" (.num w) params)) = _
    rw [Assoc.erase_put, Assoc.erase_of_not_mem h]

/-- A clause with its parameters under its field loses the weight there. -/
theorem unweighted_onField {kind : String} (hk : kind ∈ fieldKinds) (target : String)
    (boost : Option Number) {params : Record} (h : "boost" ∉ Assoc.keys params) :
    unweighted (onField kind target (withBoost boost params)) =
      onField kind target (withBoost none params) := by
  have hb : kind ≠ "bool" := by
    rintro rfl
    exact absurd hk (by decide)
  have hn : kind ≠ "nested" := by
    rintro rfl
    exact absurd hk (by decide)
  rw [onField, ofKind, unweighted, if_neg hb, if_neg hn, unweightedLeaf, if_pos hk,
    List.map_singleton, dropWeight_withBoost boost h]
  rfl

/-- A clause of another kind loses the weight next to its parameters. -/
theorem unweighted_ofKind {kind : String} (hk : kind ∉ "bool" :: "nested" :: fieldKinds)
    (boost : Option Number) {params : Record} (h : "boost" ∉ Assoc.keys params) :
    unweighted (ofKind kind (withBoost boost params)) = ofKind kind (withBoost none params) := by
  simp only [List.mem_cons, not_or] at hk
  have hdrop := dropWeight_withBoost boost h
  rw [Query.withBoost_eq] at hdrop ⊢
  rw [ofKind, unweighted, if_neg hk.1, if_neg hk.2.1, unweightedLeaf, if_neg]
  · rw [Json.obj.inj hdrop]
    rfl
  · simpa using hk.2.2

theorem unweighted_inScope (path : String) (clause : Json) :
    unweighted (inScope path clause) = inScope path (unweighted clause) := rfl

theorem unweighted_combination (sections : List (String × List Json)) (minimum : Option Nat) :
    unweighted (combination sections minimum) =
      combination (sections.map fun p => (p.1, p.2.map unweighted)) minimum := by
  have hminimum : unweightedSections
      (minimum.map fun n => ("minimum_should_match", Json.ofNat n)).toList =
        (minimum.map fun n => ("minimum_should_match", Json.ofNat n)).toList := by
    cases minimum <;> rfl
  rw [combination, unweighted, if_pos rfl, unweightedSections_eq_map, List.map_append,
    ← unweightedSections_eq_map (Option.toList _), hminimum, List.map_map, combination,
    List.map_map]
  simp only [Function.comp_def, unweightedSection, unweightedAll_eq_map]

/-! ## Sections of combinations -/

/-- The sections that are written of a combination. -/
def sectionsOf (must filter mustNot should : List Json) : List (String × List Json) :=
  let sections := [("must", must), ("filter", filter), ("must_not", mustNot),
    ("should", should)].filter fun p => !p.2.isEmpty
  if sections.isEmpty then [("must", [])] else sections

theorem combine_eq (must filter mustNot should : List Json) (minimum : Option Nat) :
    combine must filter mustNot should minimum none =
      combination (sectionsOf must filter mustNot should) minimum := by
  cases must <;> cases filter <;> cases mustNot <;> cases should <;> cases minimum <;> rfl

theorem map_sectionsOf (f : Json → Json) (must filter mustNot should : List Json) :
    (sectionsOf must filter mustNot should).map (fun p => (p.1, p.2.map f)) =
      sectionsOf (must.map f) (filter.map f) (mustNot.map f) (should.map f) := by
  cases must <;> cases filter <;> cases mustNot <;> cases should <;> rfl

theorem mem_of_mem_sectionsOf {must filter mustNot should : List Json} {p : String × List Json}
    (hp : p ∈ sectionsOf must filter mustNot should) {clause : Json} (hc : clause ∈ p.2) :
    clause ∈ must ++ filter ++ mustNot ++ should := by
  unfold sectionsOf at hp
  dsimp only at hp
  split at hp
  · -- the section that is written where there is no clause at all
    obtain rfl := List.mem_singleton.1 hp
    cases hc
  · have hmem := List.mem_of_mem_filter hp
    simp only [List.mem_cons, List.not_mem_nil, or_false] at hmem
    obtain rfl | rfl | rfl | rfl := hmem <;> simp [hc]

end Clause

/-! ## Queries that carry their weights into the body -/

namespace Query

/-- A query that is written with the weights of its fields, and without weights as it would be
written without them. -/
structure Threaded (suffix : String) (weight : String → Option Number) (q : Query) : Prop where
  weighed : Clause.Weighed suffix weight q.toJson
  unweighted_toJson : Clause.unweighted q.toJson = q.unweighted.toJson

section
variable {suffix : String} {weight : String → Option Number} {q : Query} {qs : List Query}

/-! ### Single clauses -/

theorem threaded_onField {kind target : String} {boost : Option Number} {params : Record}
    (hq : q.toJson = Clause.onField kind target (Clause.withBoost boost params))
    (hu : q.unweighted.toJson = Clause.onField kind target (Clause.withBoost none params))
    (hk : kind ∈ Clause.fieldKinds) (hb : "boost" ∉ Assoc.keys params)
    (hw : Clause.Weighed suffix weight
      (.obj [(kind, .obj [(target, Clause.weighted boost params)])])) :
    Threaded suffix weight q where
  weighed := by rwa [hq, Clause.withBoost_eq_weighted boost hb]
  unweighted_toJson := by rw [hq, hu, Clause.unweighted_onField hk target boost hb]

theorem threaded_ofKind {kind : String} {boost : Option Number} {params : Record}
    (hq : q.toJson = Clause.ofKind kind (Clause.withBoost boost params))
    (hu : q.unweighted.toJson = Clause.ofKind kind (Clause.withBoost none params))
    (hk : kind ∉ "bool" :: "nested" :: Clause.fieldKinds) (hb : "boost" ∉ Assoc.keys params)
    (hw : Clause.Weighed suffix weight (.obj [(kind, Clause.weighted boost params)])) :
    Threaded suffix weight q where
  weighed := by rwa [hq, Clause.withBoost_eq_weighted boost hb]
  unweighted_toJson := by rw [hq, hu, Clause.unweighted_ofKind hk boost hb]

theorem threaded_term (field : String) (v : Json) :
    Threaded suffix weight (.term (field ++ suffix) v (weight field)) :=
  threaded_onField rfl rfl (by decide) (by simp [Assoc.keys]) (.term field v)

theorem threaded_terms (hs : Text.startsWith suffix "." = true) (field : String)
    (vs : List Json) : Threaded suffix weight (.terms (field ++ suffix) vs (weight field)) :=
  threaded_ofKind rfl rfl (by decide) (by simpa [Assoc.keys] using (append_ne_boost hs field).symm)
    (.terms field vs)

theorem threaded_start (field text : String) :
    Threaded suffix weight (.start (field ++ suffix) text (weight field)) :=
  threaded_onField rfl rfl (by decide) (by simp [Assoc.keys]) (.start field text)

theorem threaded_pattern (field source : String) :
    Threaded suffix weight (.pattern (field ++ suffix) source (weight field)) :=
  threaded_onField rfl rfl (by decide) (by simp [Assoc.keys]) (.pattern field source)

theorem threaded_hasValue (field : String) :
    Threaded suffix weight (.hasValue field (weight field)) :=
  threaded_ofKind rfl rfl (by decide) (by simp [Assoc.keys]) (.hasValue field)

theorem threaded_fuzzy (field text : String) :
    Threaded suffix weight (fuzzy field text (weight field)) :=
  threaded_onField rfl rfl (by decide) (by simp [Assoc.keys]) (.words field text)

theorem threaded_wordsIn (fields : List String) (text : String) :
    Threaded suffix weight (.wordsIn fields text .auto none) where
  weighed := .wordsIn fields text
  unweighted_toJson := rfl

theorem threaded_range (field : String) {bounds : List (Bound × Json)}
    (hn : (Assoc.keys bounds).Nodup) :
    Threaded suffix weight (.range (field ++ suffix) bounds (weight field)) := by
  refine threaded_onField ?_ ?_ (by decide) (Clause.boost_notMem_bounds bounds)
    (.range field bounds)
  · exact Clause.range_of_nodup hn
  · exact Clause.range_of_nodup hn

/-! ### Clauses on clauses -/

theorem Threaded.nested (h : Threaded suffix weight q) (path : String) :
    Threaded suffix weight (.nested path q false) where
  weighed := .inScope path h.weighed
  unweighted_toJson := (Clause.unweighted_inScope path q.toJson).trans
    (congrArg (Clause.inScope path) h.unweighted_toJson)

/-- The clauses of several queries lose their weights query by query. -/
theorem map_unweighted_toJsons (h : ∀ q ∈ qs, Threaded suffix weight q) :
    (toJsons qs).map Clause.unweighted = toJsons (unweightedAll qs) := by
  rw [toJsons_eq_map, toJsons_eq_map, unweightedAll_eq_map, List.map_map, List.map_map]
  exact List.map_congr_left fun q hq => (h q hq).unweighted_toJson

theorem threaded_bool {must mustNot should : List Query} (minimum : Option Nat)
    (hm : ∀ q ∈ must, Threaded suffix weight q) (hn : ∀ q ∈ mustNot, Threaded suffix weight q)
    (hs : ∀ q ∈ should, Threaded suffix weight q) :
    Threaded suffix weight (.bool must [] mustNot should minimum none) where
  weighed := by
    show Clause.Weighed suffix weight (Clause.combine (toJsons must) [] (toJsons mustNot)
      (toJsons should) minimum none)
    rw [Clause.combine_eq]
    refine .combination minimum fun p hp clause hc => ?_
    have hmem := Clause.mem_of_mem_sectionsOf hp hc
    simp only [toJsons_eq_map, List.append_nil, List.mem_append, List.mem_map] at hmem
    obtain (⟨q, hq, rfl⟩ | ⟨q, hq, rfl⟩) | ⟨q, hq, rfl⟩ := hmem
    · exact (hm q hq).weighed
    · exact (hn q hq).weighed
    · exact (hs q hq).weighed
  unweighted_toJson := by
    show Clause.unweighted (Clause.combine (toJsons must) [] (toJsons mustNot)
        (toJsons should) minimum none) =
      Clause.combine (toJsons (unweightedAll must)) [] (toJsons (unweightedAll mustNot))
        (toJsons (unweightedAll should)) minimum none
    rw [Clause.combine_eq, Clause.combine_eq, Clause.unweighted_combination,
      Clause.map_sectionsOf, map_unweighted_toJsons hm, map_unweighted_toJsons hn,
      map_unweighted_toJsons hs, List.map_nil]

theorem closed_threaded : Closed (Threaded suffix weight) where
  all := ⟨.all, rfl⟩
  nested path h := h.nested path
  bool hm hn hs _ := threaded_bool _ hm hn hs

end

end Query

/-! ## Requests -/

/-- The clauses of a criterion on a sub-field carry the weight of the field. -/
theorem Criterion.threaded_queries {suffix : String} (hs : Text.startsWith suffix "." = true)
    (weight : String → Option Number) (field : String) (c : Criterion) :
    ∀ q ∈ c.queries (field ++ suffix) (weight field), q.Threaded suffix weight := by
  cases c with
  | scalar v => exact List.forall_mem_singleton.2 (Query.threaded_term field v.fold)
  | list vs => exact List.forall_mem_singleton.2 (Query.threaded_terms hs field _)
  | operators ops =>
    show ∀ q ∈ ops.queries (field ++ suffix) (weight field), q.Threaded suffix weight
    unfold Operators.queries
    refine List.forall_mem_append.2 ⟨?_, List.forall_mem_map.2 fun p _ => ?_⟩
    · split
      · simp
      · exact List.forall_mem_singleton.2
          (Query.threaded_range field (Assoc.nodup_keys_ofList _))
    · obtain ⟨a, text⟩ := p
      cases a with
      | startsWith => exact Query.threaded_start field (Text.lower text)
      | endsWith => exact Query.threaded_pattern field (".*" ++ Pattern.escape (Text.lower text))

/-- The query of a request carries the weights of the request. -/
theorem SearchRequest.threaded_toQuery {suffix : String}
    (hs : Text.startsWith suffix "." = true) (r : SearchRequest) :
    (r.toQuery suffix).Threaded suffix r.boostOf :=
  Query.closed_threaded.toQuery {
    filters := fun _ _ p _ => Criterion.threaded_queries hs r.boostOf p.1 p.2
    anywhere := fun text => Query.threaded_wordsIn ["*"] text
    query := fun text _ field _ => Query.threaded_fuzzy field text
    fuzzy := fun p _ => Query.threaded_fuzzy p.1 p.2
    presence := fun field => Query.threaded_hasValue field }

/-! ## Bodies -/

/-- A body with the weight taken out of each clause of its query. -/
def Search.unweightedBody : Json → Json
  | .obj parts =>
    .obj (parts.map fun p => (p.1, if p.1 = "query" then Clause.unweighted p.2 else p.2))
  | v => v

/-- Parts of a body that are no query stay as they are. -/
theorem Search.unweightedBody_cons (query : Json) {parts : Record}
    (h : "query" ∉ Assoc.keys parts) :
    unweightedBody (.obj (("query", query) :: parts)) =
      .obj (("query", Clause.unweighted query) :: parts) := by
  have hparts : parts.map (fun p => (p.1, if p.1 = "query" then Clause.unweighted p.2 else p.2)) =
      parts := by
    refine (List.map_congr_left fun p hp => ?_).trans (List.map_id parts)
    have hne : p.1 ≠ "query" := by
      intro he
      exact h (he ▸ Assoc.mem_keys_of_mem hp)
    rw [if_neg hne]
    rfl
  rw [unweightedBody, List.map_cons, if_pos rfl, hparts]

namespace SearchRequest

variable (r : SearchRequest) (suffix : String) (defaultLimit : Nat)

/-- The parts of a body behind its query do not know of weights. -/
theorem exists_body_eq :
    ∃ parts : Record, "query" ∉ Assoc.keys parts ∧ ∀ weights,
      (r.weighted weights).body suffix defaultLimit =
        .obj (("query", ((r.weighted weights).toQuery suffix).toJson) :: parts) := by
  refine ⟨[("from", .ofInt (r.offset.getD 0)),
      ("size", .ofNat ((r.limit.map wrapU64).getD defaultLimit)),
      ("track_total_hits", .bool true)] ++
    ((sortSection? r.sort suffix).map fun s => ("sort", s)).toList ++
    ((aggregations? r.facets suffix).map fun a => ("aggs", a)).toList ++
    if r.fields.isEmpty then [] else [("_source", .ofStrings r.fields)], ?_, fun _ => rfl⟩
  cases sortSection? r.sort suffix <;> cases aggregations? r.facets suffix <;> split <;>
    simp [Assoc.keys]

/-- Each clause of a body carries the weight of its field where the request gives it one, at its own
place, and the body without these weights is the body of the request without weights. -/
theorem body_weighed (hs : Text.startsWith suffix "." = true) :
    (∃ query, (r.body suffix defaultLimit).get? "query" = some query ∧
      Clause.Weighed suffix (fun field => (r.boost? field).map .int) query) ∧
    Search.unweightedBody (r.body suffix defaultLimit) =
      (r.weighted []).body suffix defaultLimit := by
  obtain ⟨hweighed, hunweighted⟩ := threaded_toQuery hs r
  refine ⟨⟨_, r.get?_body_query suffix defaultLimit, hweighed⟩, ?_⟩
  obtain ⟨parts, hparts, hbody⟩ := r.exists_body_eq suffix defaultLimit
  have hr : r.body suffix defaultLimit = .obj (("query", (r.toQuery suffix).toJson) :: parts) :=
    hbody r.boosts
  rw [hr, hbody, Search.unweightedBody_cons _ hparts, hunweighted, unweighted_toQuery]

/-- A name of weight three that begins like another, inside an object, and an age of no weight. -/
theorem body_weighed_name :
    Text.startsWith ".raw" "." = true ∧
    ∃ r : SearchRequest, ∃ query : Json,
      r.boosts = [("name.last", 3)] ∧ (r.body ".raw" 10).get? "query" = some query ∧
      query = .obj [("bool", .obj [("must", .arr [
        Clause.inScope "name" (.obj [("prefix", .obj [("name.last.raw",
          .obj [("value", .str "jo"), ("boost", .num (.int 3))])])]),
        .obj [("exists", .obj [("field", .str "age")])]])])] ∧
      Clause.Weighed ".raw" (fun field => (r.boost? field).map .int) query ∧
      Search.unweightedBody (r.body ".raw" 10) = (r.weighted []).body ".raw" 10 := by
  let r : SearchRequest :=
    { empty with
      filters := some ⟨[("name.last", .operators ⟨[], [(.startsWith, "Jo")]⟩)], []⟩
      present := ["age"]
      boosts := [("name.last", 3)] }
  have hs : Text.startsWith ".raw" "." = true := by decide
  obtain ⟨⟨query, hq, hw⟩, hu⟩ := r.body_weighed ".raw" 10 hs
  refine ⟨hs, r, query, rfl, hq, ?_, hw, hu⟩
  exact (Option.some.inj hq).symm.trans rfl

end SearchRequest

end Polystore
