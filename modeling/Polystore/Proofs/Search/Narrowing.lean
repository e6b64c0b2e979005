import Polystore.Proofs.Search.Decisions
import Polystore.Proofs.Search.Response

/-!
# A filter with one more entry

A request can be narrowed by an entry on a field that its filter does not name yet.  Its clauses
stand among others, which may be evaluated before or after them or not at all, and which may show a
fault.  Where the request could be evaluated, the narrowed one can be too, and it asks for both.

    (r.matcher suffix).decides suffix doc = .ok b →
      ((r.narrowed field c).matcher suffix).decides suffix doc =
        .ok (b && byEachTest (doc.valuesAt field) c)                  (decides_narrowed)
-/

namespace Polystore

/-! ## Clauses among others -/

namespace Query

variable {suffix : String} {doc : Json} {q : Query} {qs before after must mustNot : List Query}
  {b : Bool}

/-- Clauses that can be evaluated, in front of others that could be, decide together with them. -/
theorem allMatch_prepend (hq : ∀ q ∈ qs, q.Runs suffix doc)
    (h : allMatch suffix after doc = .ok b) :
    allMatch suffix (qs ++ after) doc = .ok (qs.all (holds suffix doc) && b) := by
  induction qs with
  | nil => exact h
  | cons q qs ih =>
    obtain ⟨hr, hrs⟩ := List.forall_mem_cons.1 hq
    rw [List.cons_append, allMatch_cons, decides_eq_ok.2 ⟨hr, rfl⟩, List.all_cons]
    cases q.holds suffix doc with
    | false => rfl
    | true => exact ih hrs

/-- The same inside a list: the clauses before them are evaluated as ever. -/
theorem allMatch_insert (hq : ∀ q ∈ qs, q.Runs suffix doc)
    (h : allMatch suffix (before ++ after) doc = .ok b) :
    allMatch suffix (before ++ (qs ++ after)) doc = .ok (qs.all (holds suffix doc) && b) := by
  induction before with
  | nil =>
    rw [List.nil_append] at h ⊢
    exact allMatch_prepend hq h
  | cons p before ih =>
    rw [List.cons_append, allMatch_cons] at h ⊢
    obtain ⟨c, hc, h⟩ := Outcome.bind_eq_ok.1 h
    rw [hc]
    cases c with
    | true => exact ih h
    | false =>
      obtain rfl : false = b := Except.ok.inj h
      rw [Bool.and_false]
      rfl

/-- Clauses that can be evaluated narrow a combination, wherever they stand in it. -/
theorem decides_insert (hq : ∀ q ∈ qs, q.Runs suffix doc)
    (h : (bool (before ++ after) [] mustNot [] none none).decides suffix doc = .ok b) :
    (bool (before ++ (qs ++ after)) [] mustNot [] none none).decides suffix doc =
      .ok (b && qs.all (holds suffix doc)) := by
  rw [decides_conditions] at h ⊢
  obtain ⟨c, hc, h⟩ := Outcome.bind_eq_ok.1 h
  rw [allMatch_insert hq hc]
  show (if (qs.all (holds suffix doc) && c) = true then _ else _) = _
  cases c with
  | false =>
    obtain rfl : false = b := Except.ok.inj h
    rw [Bool.and_false]
    rfl
  | true =>
    have h : noneMatch suffix mustNot doc = .ok b := h
    rw [Bool.and_true]
    cases qs.all (holds suffix doc) with
    | false => rw [Bool.and_false]; rfl
    | true => rw [Bool.and_true]; exact h

end Query

/-! ## Narrowed requests -/

namespace SearchRequest

/-- The request with one more entry in its filter, which must not name the field yet. -/
def narrow (r : SearchRequest) (field : String) (c : Criterion) : Checked SearchRequest := do
  let f ← (r.filters.getD .empty).pushed field c
  pure { r with filters := some f }

/-- The request with one more entry at the end of its filter. -/
def narrowed (r : SearchRequest) (field : String) (c : Criterion) : SearchRequest :=
  let f := r.filters.getD .empty
  { r with filters := some ⟨f.entries ++ [(field, c)], f.anyOf⟩ }

variable {r : SearchRequest} {suffix field : String} {doc : Json} {c : Criterion} {b : Bool}

/-- A filter can be narrowed on a field that is not blank and that it does not name. -/
theorem narrow_eq_ok (hb : Text.isBlank field = false)
    (hn : field ∉ Assoc.keys (r.filters.getD .empty).entries) (c : Criterion) :
    r.narrow field c = .ok (r.narrowed field c) := by
  unfold narrow
  rw [Filter.pushed_eq_ok.2 ⟨⟨hb, hn⟩, rfl⟩]
  rfl

/-- The clauses before those of a new entry. -/
def clausesBefore (r : SearchRequest) (suffix : String) : List Query :=
  (r.query.map r.textQuery).toList ++ r.fuzzy.map (fun p => .fuzzy p.1 p.2 (r.boostOf p.1)) ++
    (r.filters.getD .empty).entries.flatMap (r.entryQueries suffix)

/-- The clauses behind those of a new entry. -/
def clausesAfter (r : SearchRequest) (suffix : String) : List Query :=
  r.filterQueries suffix ⟨[], (r.filters.getD .empty).anyOf⟩ ++
    r.present.map r.presence ++ r.nestedPresent.map r.nestedPresence

theorem mustQueries_eq_append (r : SearchRequest) (suffix : String) :
    r.mustQueries suffix = r.clausesBefore suffix ++ r.clausesAfter suffix := by
  unfold mustQueries clausesBefore clausesAfter
  cases r.filters with
  | none => simp [filterQueries, Filter.empty]
  | some f => simp [filterQueries]

/-- The clauses of a new entry stand between those of the other entries and the group. -/
theorem mustQueries_narrowed (r : SearchRequest) (suffix field : String) (c : Criterion) :
    (r.narrowed field c).mustQueries suffix =
      r.clausesBefore suffix ++ (r.entryQueries suffix (field, c) ++ r.clausesAfter suffix) := by
  simp only [mustQueries, clausesBefore, clausesAfter, narrowed, filterQueries,
    List.flatMap_append, List.flatMap_singleton, List.flatMap_nil, List.nil_append,
    List.append_assoc]
  rfl

/-- The query of a request decides by its clauses, even if it has none. -/
theorem decides_matcher (r : SearchRequest) (suffix : String) (doc : Json) :
    (r.matcher suffix).decides suffix doc =
      (Query.bool ((r.mustQueries suffix).map Query.readBack) []
        (r.mustNotQueries.map Query.readBack) [] none none).decides suffix doc := by
  unfold matcher toQuery
  dsimp only
  split
  · next he =>
    obtain ⟨hm, hn⟩ := Bool.and_eq_true_iff.1 he
    rw [List.isEmpty_iff.1 hm, List.isEmpty_iff.1 hn]
    rfl
  · rw [Query.readBack_bool (by simp)]
    rfl

/-- A narrowed request asks for what the request asks for and for the new entry. -/
theorem decides_narrowed (hs : Text.startsWith suffix "." = true) (hc : c.Sound) (he : c.NoEnd)
    (field : String) (hb : (r.matcher suffix).decides suffix doc = .ok b) :
    ((r.narrowed field c).matcher suffix).decides suffix doc =
      .ok (b && byEachTest (doc.valuesAt field) c) := by
  have hw : ∀ q ∈ r.entryQueries suffix (field, c), q.WellFormed :=
    wellFormed_entryQueries hs he.endsFit
  have hmustNot : (r.narrowed field c).mustNotQueries = r.mustNotQueries := rfl
  rw [decides_matcher, mustQueries_eq_append, List.map_append] at hb
  rw [decides_matcher, mustQueries_narrowed, hmustNot, List.map_append, List.map_append,
    Query.map_readBack fun q hq => (hw q hq).readBack_eq,
    Query.decides_insert (fun q hq => (hw q hq).runs suffix doc) hb]
  exact congrArg (fun x => Except.ok (b && x)) (Filter.all_entryQueries hs hc he _ _ _)

/-- A narrowed request passes its check if the request does. -/
theorem check_narrowed {maxLimit : Nat} (h : r.check maxLimit = .ok ()) (field : String)
    (c : Criterion) : (r.narrowed field c).check maxLimit = .ok () := by
  obtain ⟨hlimit, hoffset, -, hfacets, hquery⟩ := check_eq_ok.1 h
  refine check_eq_ok.2 ⟨hlimit, hoffset, ?_, hfacets, hquery⟩
  rintro _ ⟨⟩
  simp [Filter.isEmpty]

end SearchRequest

end Polystore
