import Polystore.Proofs.Filter.Grammar
import Polystore.Proofs.Search.Compilation
import Polystore.Response.Hits

/-!
# Filters in bodies

How the conditions of a filter stand in the body of a search.  `Clause.Emits` writes down the
clauses of a value, from the value itself: no operator is lost on the way through reading, sorting
and the query.  A dotted field puts each clause into a nested scope, the clauses of all entries
stand side by side, and those of the group are alternatives in one clause.

    Criterion.ofJson field v = .ok c → Emits target boost v (c.clauses target boost)
                                                                       (emits_clauses)
    (r.body suffix limit).listAt ["query", "bool", "must"] =
      before ++ f.clauses suffix r.boostOf ++ after                    (exists_must_body_of_filters)
-/

namespace Polystore

/-! ## Clauses of a value -/

namespace Clause

/-- Parameters with a weight behind them, if there is one. -/
def weighted (boost : Option Number) (params : Record) : Json :=
  .obj (params ++ (boost.map fun w => ("boost", Json.num w)).toList)

/-- A clause on one object at a path, without a score. -/
def inScope (path : String) (clause : Json) : Json :=
  .obj [("nested",
    .obj [("path", .str path), ("query", clause), ("score_mode", .str "none")])]

/-- The clause of a test on the text, as it is named among operators. -/
def ofTest? (target : String) (boost : Option Number) : String × Json → Option Json
  | ("startsWith", .str text) =>
    some (.obj [("prefix", .obj [(target, weighted boost [("value", .str (Text.lower text))])])])
  | ("endsWith", .str text) =>
    some (.obj [("regexp", .obj [(target,
      weighted boost [("value", .str (".*" ++ Pattern.escape (Text.lower text)))])])])
  | _ => none

/-- The clauses that a value of a filter is written as: one for a scalar, one for a list, and for
operators one with all bounds, each under its own key, if there is a bound, and then one for each
test on the text. -/
inductive Emits (target : String) (boost : Option Number) : Json → List Json → Prop
  | scalar {v : Json} : v.isScalar = true →
      Emits target boost v
        [.obj [("term", .obj [(target, weighted boost [("value", v.fold)])])]]
  | list (items : List Json) :
      Emits target boost (.arr items)
        [.obj [("terms", weighted boost [(target, .arr (items.map Json.fold))])]]
  | operators {fields : Record} {bounds : List (Bound × Json)} : (Assoc.keys bounds).Nodup →
      (∀ b v, (b, v) ∈ bounds ↔ (b.symbol, v) ∈ fields) →
      Emits target boost (.obj fields)
        ((if bounds.isEmpty then []
          else [.obj [("range", .obj [(target,
            weighted boost (bounds.map fun p => (p.1.key, p.2)))])]]) ++
          fields.filterMap (ofTest? target boost))

theorem withBoost_eq_weighted (boost : Option Number) {params : Record}
    (h : "boost" ∉ Assoc.keys params) : withBoost boost params = weighted boost params := by
  rw [Query.withBoost_eq, Query.boosted_eq_append boost h, weighted]

theorem boost_notMem_bounds (bounds : List (Bound × Json)) :
    "boost" ∉ Assoc.keys (bounds.map fun p => (p.1.key, p.2)) := by
  rw [Query.keys_written, List.mem_map]
  rintro ⟨b, -, h⟩
  cases b <;> exact absurd h (by decide)

/-- No bound is lost under the key of another if each side stands once. -/
theorem range_of_nodup {target : String} {bounds : List (Bound × Json)} {boost : Option Number}
    (hn : (Assoc.keys bounds).Nodup) :
    range target bounds boost =
      onField "range" target (withBoost boost (bounds.map fun p => (p.1.key, p.2))) := by
  have hn' : (Assoc.keys (bounds.map fun p => (p.1.key, p.2))).Nodup := by
    rw [Query.keys_written]
    exact hn.map Query.key_injective
  rw [range, Assoc.ofList_of_nodup hn']

end Clause

/-- The written clauses of a criterion on a field, without any scope. -/
def Criterion.clauses (target : String) (boost : Option Number) (c : Criterion) : List Json :=
  (c.queries target boost).map Query.toJson

/-- The written clauses of an entry of a filter. -/
def Filter.entryClauses (suffix : String) (boost : Option Number) (field : String)
    (c : Criterion) : List Json :=
  (Filter.entryQueries suffix boost field c).map Query.toJson

section
variable {target field suffix : String} {boost : Option Number} {v : Json} {c : Criterion}

namespace Operators

theorem bounds_add (ops : Operators) (p : String × Json) :
    (add ops p).bounds =
      (Bound.ofSymbol? p.1).elim ops.bounds fun b => placeBound b p.2 ops.bounds := by
  rw [add]
  cases Bound.ofSymbol? p.1 with
  | some b => rfl
  | none => cases Affix.ofName? p.1 <;> cases p.2.str? <;> rfl

/-- All bounds are read, and nothing else becomes one. -/
theorem mem_bounds_foldl_add {fields : Record} {ops : Operators} {b : Bound} {v : Json} :
    (b, v) ∈ (fields.foldl add ops).bounds ↔ (b, v) ∈ ops.bounds ∨ (b.symbol, v) ∈ fields := by
  induction fields generalizing ops with
  | nil => simp
  | cons p fields ih =>
    obtain ⟨name, w⟩ := p
    have hadd : (b, v) ∈ (add ops (name, w)).bounds ↔
        (b, v) ∈ ops.bounds ∨ (b.symbol, v) = (name, w) := by
      rw [bounds_add]
      cases hn : Bound.ofSymbol? name with
      | some b' =>
        obtain rfl := Bound.ofSymbol?_eq_some_iff.1 hn
        rw [Option.elim_some, mem_placeBound, or_comm, Prod.mk.injEq, Prod.mk.injEq,
          Bound.symbol_injective.eq_iff]
      | none =>
        have hne : b.symbol ≠ name := by
          rintro rfl
          rw [Bound.ofSymbol?_eq_some_iff.2 rfl] at hn
          cases hn
        simp [hne]
    rw [List.foldl_cons, ih, hadd, List.mem_cons, or_assoc]

/-- Bounds with each side at most once are written each under its own key. -/
theorem toJson_range {bounds : List (Bound × Json)} (hn : (Assoc.keys bounds).Nodup) :
    (Query.range target bounds boost).toJson =
      .obj [("range", .obj [(target,
        Clause.weighted boost (bounds.map fun p => (p.1.key, p.2)))])] := by
  show Clause.range target bounds boost = _
  rw [Clause.range_of_nodup hn,
    Clause.withBoost_eq_weighted boost (Clause.boost_notMem_bounds bounds)]
  rfl

theorem toJson_affix (p : Affix × String) :
    Clause.ofTest? target boost (p.1.name, .str p.2) =
      some (p.1.query target p.2 boost).toJson := by
  have hb : ∀ s, "boost" ∉ Assoc.keys [("value", Json.str s)] := by simp [Assoc.keys]
  obtain ⟨a, text⟩ := p
  cases a with
  | startsWith =>
    show _ = some (Clause.start target (Text.lower text) boost)
    rw [Clause.start, Clause.withBoost_eq_weighted boost (hb _)]
    rfl
  | endsWith =>
    show _ = some (Clause.pattern target (".*" ++ Pattern.escape (Text.lower text)) boost)
    rw [Clause.pattern, Clause.withBoost_eq_weighted boost (hb _)]
    rfl

/-- The tests on the text are written in the order in which they are named. -/
theorem map_affixesOf (fields : Record) :
    (affixesOf fields).map (fun p => (p.1.query target p.2 boost).toJson) =
      fields.filterMap (Clause.ofTest? target boost) := by
  rw [affixesOf, List.map_filterMap]
  refine List.filterMap_congr fun p _ => ?_
  obtain ⟨name, v⟩ := p
  dsimp only
  cases ha : Affix.ofName? name with
  | some a =>
    obtain rfl := Affix.ofName?_eq_some_iff.1 ha
    cases v with
    | str text => exact (toJson_affix (a, text)).symm
    | null | bool | num | arr | obj => cases a <;> rfl
  | none =>
    have hnone : Clause.ofTest? target boost (name, v) = none := by
      unfold Clause.ofTest?
      split
      · next h =>
        cases h
        cases ha
      · next h =>
        cases h
        cases ha
      · rfl
    rw [hnone]
    rfl

/-- Operators are written as one clause with all bounds, if there are any, and then one clause for
each test on the text. -/
theorem emits_clauses (fields : Record) (hn : (Assoc.keys (fields.foldl add empty).bounds).Nodup)
    (boost : Option Number) :
    Clause.Emits target boost (.obj fields)
      ((Criterion.operators (fields.foldl add empty)).clauses target boost) := by
  have hclauses : (Criterion.operators (fields.foldl add empty)).clauses target boost =
      (if (fields.foldl add empty).bounds.isEmpty then []
        else [.obj [("range", .obj [(target, Clause.weighted boost
          ((fields.foldl add empty).bounds.map fun p => (p.1.key, p.2)))])]]) ++
        fields.filterMap (Clause.ofTest? target boost) := by
    rw [Criterion.clauses, Criterion.queries, queries, List.map_append, List.map_map,
      affixes_foldl_add, rangeBounds, Assoc.ofList_of_nodup hn, ← map_affixesOf]
    congr 1
    split
    · rfl
    · rw [List.map_singleton, toJson_range hn]
  rw [hclauses]
  refine .operators hn fun b v => ?_
  rw [mem_bounds_foldl_add]
  simp [empty]

end Operators

/-- A value that is read is written as its clauses. -/
theorem Criterion.emits_clauses (ht : target ≠ "boost") (h : Criterion.ofJson field v = .ok c)
    (boost : Option Number) : Clause.Emits target boost v (c.clauses target boost) := by
  have hterm : ∀ w : Json, Criterion.clauses target boost (.scalar w) =
      [.obj [("term", .obj [(target, Clause.weighted boost [("value", w.fold)])])]] := by
    intro w
    have hb : "boost" ∉ Assoc.keys [("value", w.fold)] := by simp [Assoc.keys]
    show [Clause.term target w.fold boost] = _
    rw [Clause.term, Clause.withBoost_eq_weighted boost hb]
    rfl
  cases v with
  | null => exact absurd h Outcome.throw_ne_ok
  | bool | num | str =>
    obtain rfl := Outcome.pure_eq_ok.1 h
    rw [hterm]
    exact .scalar rfl
  | arr items =>
    have hc : Criterion.list items = c := by
      rw [Criterion.ofJson] at h
      split at h
      · exact absurd h Outcome.throw_ne_ok
      · split at h
        · exact Outcome.pure_eq_ok.1 h
        · exact absurd h Outcome.throw_ne_ok
    subst hc
    -- the weight of this clause stands next to the field, so the field must not be named like it
    have hb : "boost" ∉ Assoc.keys [(target, Json.arr (items.map Json.fold))] := by
      simpa [Assoc.keys] using ht.symm
    show Clause.Emits target boost (.arr items) [Clause.terms target (items.map Json.fold) boost]
    rw [Clause.terms, Clause.withBoost_eq_weighted boost hb]
    exact .list items
  | obj fields =>
    rw [Criterion.ofJson, Outcome.bind_eq_ok] at h
    simp only [Operators.read_eq_ok, Outcome.then_eq_ok, Outcome.pure_eq_ok] at h
    obtain ⟨_, ⟨-, rfl⟩, hc, rfl⟩ := h
    exact Operators.emits_clauses fields
      (Operators.nodup_of_boundConflict? (Operators.check_eq_ok.1 hc).2.1) boost

/-! ### Scopes -/

theorem nestedPath?_of_notMem (h : '.' ∉ field.toList) : nestedPath? field = none := if_neg h

/-- What stands before the first dot is the path. -/
theorem nestedPath?_append {path : String} (h : '.' ∉ path.toList) (rest : String) :
    nestedPath? (path ++ "." ++ rest) = some path := by
  have hlist : (path ++ "." ++ rest).toList = path.toList ++ '.' :: rest.toList := by
    simp [String.toList_append]
  have hpath : ∀ x ∈ path.toList, decide (x ≠ '.') = true := by
    intro x hx
    refine decide_eq_true ?_
    rintro rfl
    exact h hx
  unfold nestedPath? Text.before?
  rw [hlist, if_pos (by simp), List.takeWhile_append_of_pos hpath]
  simp

/-- The clauses of a field without a dot stand for themselves. -/
theorem Filter.entryClauses_of_notMem (h : '.' ∉ field.toList) :
    Filter.entryClauses suffix boost field c = c.clauses (field ++ suffix) boost := by
  rw [entryClauses, entryQueries, nestedPath?_of_notMem h]
  rfl

/-- Each clause of a dotted field stands in a scope of its own. -/
theorem Filter.entryClauses_append {path : String} (h : '.' ∉ path.toList) (rest : String) :
    Filter.entryClauses suffix boost (path ++ "." ++ rest) c =
      (c.clauses (path ++ "." ++ rest ++ suffix) boost).map (Clause.inScope path) := by
  rw [entryClauses, entryQueries, nestedPath?_append h, Criterion.clauses, List.map_map,
    List.map_map]
  rfl

end

/-! ## Bodies -/

namespace Query

theorem toJsons_eq_map (qs : List Query) : toJsons qs = qs.map toJson := by
  induction qs with
  | nil => rfl
  | cons q qs ih => rw [toJsons, ih, List.map_cons]

/-- All of some queries are written as all of their clauses. -/
theorem toJson_allOf (qs : List Query) : (allOf qs).toJson = Clause.allOf (qs.map toJson) := by
  match qs with
  | [] => rfl
  | [q] => rfl
  | q :: q' :: qs =>
    rw [allOf, toJson, toJsons_eq_map]
    · rfl
    · simp

/-- Any of some queries are written as any of their clauses. -/
theorem toJson_anyOf {qs : List Query} (h : qs ≠ []) :
    (anyOf qs).toJson = Clause.anyOf (qs.map toJson) := by
  cases qs with
  | nil => exact absurd rfl h
  | cons q qs =>
    rw [← toJsons_eq_map]
    rfl

end Query

/-- The written clauses of a filter, the fields weighted: those of its entries in their order, and
one for the group with an alternative for each member. -/
def Filter.clauses (suffix : String) (weight : String → Option Number) (f : Filter) : List Json :=
  (f.entries.flatMap fun p => Filter.entryClauses suffix (weight p.1) p.1 p.2) ++
    if f.anyOf.isEmpty then []
    else [Clause.anyOf (f.anyOf.map fun p =>
      Clause.allOf (Filter.entryClauses suffix (weight p.1) p.1 p.2))]

namespace SearchRequest

variable (r : SearchRequest) (suffix : String) (defaultLimit : Nat)

theorem map_toJson_filterQueries (f : Filter) :
    (r.filterQueries suffix f).map Query.toJson = f.clauses suffix r.boostOf := by
  rw [filterQueries, Filter.clauses, List.map_append, List.map_flatMap]
  congr 1
  split
  · rfl
  · next he =>
    have hne : f.anyOf.map (fun p => Query.allOf (r.entryQueries suffix p)) ≠ [] := by
      simpa using he
    rw [List.map_singleton, Query.toJson_anyOf hne, List.map_map]
    refine congrArg (fun alternatives => [Clause.anyOf alternatives]) ?_
    exact List.map_congr_left fun p _ => Query.toJson_allOf _

/-- The clauses that have to match stand in the body as they are. -/
theorem listAt_body_must :
    (r.body suffix defaultLimit).listAt ["query", "bool", "must"] =
      (r.mustQueries suffix).map Query.toJson := by
  have hquery : (r.body suffix defaultLimit).listAt ["query", "bool", "must"] =
      (r.toQuery suffix).toJson.listAt ["bool", "must"] := rfl
  rw [hquery, toQuery, ← Query.toJsons_eq_map]
  cases hm : r.mustQueries suffix with
  | nil =>
    cases r.mustNotQueries with
    | nil => rfl
    | cons q qs => rfl
  | cons q qs => rfl

/-- A filter adds its clauses to those that have to match, behind the clauses on words, and takes
none of the others away. -/
theorem exists_must_body_of_filters {f : Filter} (hf : r.filters = some f) :
    ∃ before after : List Json,
      ({ r with filters := none }.body suffix defaultLimit).listAt ["query", "bool", "must"] =
        before ++ after ∧
      (r.body suffix defaultLimit).listAt ["query", "bool", "must"] =
        before ++ f.clauses suffix r.boostOf ++ after := by
  have hfilter : r.filterClauses suffix = r.filterQueries suffix f := by
    rw [filterClauses, hf]
  have hnone : { r with filters := none }.filterClauses suffix = [] := rfl
  refine ⟨((r.query.map r.textQuery).toList ++
      r.fuzzy.map fun p => Query.fuzzy p.1 p.2 (r.boostOf p.1)).map Query.toJson,
    (r.present.map r.presence ++ r.nestedPresent.map r.nestedPresence).map Query.toJson, ?_, ?_⟩
  · rw [listAt_body_must, mustQueries_eq, wordlessQueries, hnone, List.nil_append, List.map_append]
    rfl
  · rw [listAt_body_must, mustQueries_eq, wordlessQueries, hfilter, ← map_toJson_filterQueries]
    simp only [List.map_append, List.append_assoc]

end SearchRequest

/-! ## From values to bodies -/

namespace Filter

/-- Each value that is read is written as its clauses, on the sub-field, and in a scope if and only
if its field is dotted.  The body has the clauses of all entries in their order among those that
have to match, and behind them one clause for the group with an alternative for each member. -/
theorem no_operator_lost {suffix : String} (hs : Text.startsWith suffix "." = true) :
    (∀ (field : String) (v : Json) (c : Criterion) (boost : Option Number),
      Criterion.ofJson field v = .ok c → ∃ clauses,
        Clause.Emits (field ++ suffix) boost v clauses ∧
        ('.' ∉ field.toList → entryClauses suffix boost field c = clauses) ∧
        ∀ path rest, '.' ∉ path.toList → field = path ++ "." ++ rest →
          entryClauses suffix boost field c = clauses.map (Clause.inScope path)) ∧
    (∀ (r : SearchRequest) (f : Filter) (defaultLimit : Nat), r.filters = some f →
      ∃ before after : List Json,
        ({ r with filters := none }.body suffix defaultLimit).listAt ["query", "bool", "must"] =
          before ++ after ∧
        (r.body suffix defaultLimit).listAt ["query", "bool", "must"] =
          before ++
            (f.entries.flatMap fun p => entryClauses suffix (r.boostOf p.1) p.1 p.2) ++
            (if f.anyOf.isEmpty then []
              else [Clause.anyOf (f.anyOf.map fun p =>
                Clause.allOf (entryClauses suffix (r.boostOf p.1) p.1 p.2))]) ++
            after) := by
  refine ⟨fun field v c boost hc => ?_, fun r f defaultLimit hf => ?_⟩
  · refine ⟨c.clauses (field ++ suffix) boost,
      Criterion.emits_clauses (append_ne_boost hs field) hc boost, entryClauses_of_notMem, ?_⟩
    rintro path rest hp rfl
    exact entryClauses_append hp rest
  · obtain ⟨before, after, hnone, hsome⟩ :=
      r.exists_must_body_of_filters suffix defaultLimit hf
    refine ⟨before, after, hnone, hsome.trans ?_⟩
    rw [clauses, ← List.append_assoc]

/-- A name between two bounds that ends like another stands in two scopes of a body. -/
theorem no_operator_lost_lastName :
    Text.startsWith ".raw" "." = true ∧
    ∃ c clauses,
      Criterion.ofJson "name.last" (.obj [("<=", .str "m"), ("endsWith", .str "Son"),
        (">", .str "a")]) = .ok c ∧
      Clause.Emits ("name.last" ++ ".raw") (some (.int 2)) (.obj [("<=", .str "m"),
        ("endsWith", .str "Son"), (">", .str "a")]) clauses ∧
      entryClauses ".raw" (some (.int 2)) "name.last" c = clauses.map (Clause.inScope "name") ∧
      clauses.length = 2 := by
  have hs : Text.startsWith ".raw" "." = true := by decide
  have hc : Criterion.ofJson "name.last" (.obj [("<=", .str "m"), ("endsWith", .str "Son"),
      (">", .str "a")]) =
        .ok (.operators ⟨[(.above, .str "a"), (.atMost, .str "m")], [(.endsWith, "Son")]⟩) := rfl
  obtain ⟨clauses, hemits, -, hscope⟩ :=
    (no_operator_lost hs).1 "name.last" _ _ (some (.int 2)) hc
  have hwritten := hscope "name" "last" (by decide) (by decide)
  refine ⟨hs, _, clauses, hc, hemits, hwritten, ?_⟩
  have hlength := congrArg List.length hwritten
  rw [List.length_map] at hlength
  exact hlength.symm

end Filter

end Polystore
