import Polystore.Proofs.Search.Compilation
import Polystore.Response.Hits
import Polystore.Search.Index

/-!
# What a search answers

The answer to a body over the documents of an index, step by step: the documents that match its
query, their order, the aggregations, and the page; and what the body of a request says of each
step.

    (∀ p ∈ docs, q.Runs suffix (.obj p.2)) → ∃ found, hits suffix q docs = .ok found ∧ …  (hits_eq)
-/

namespace Polystore

/-- The buckets of a facet, counted over documents under the name of its sub-field. -/
def FacetRequest.buckets (f : FacetRequest) (suffix field : String) (docs : List Json) :
    Except SearchFault (List Json) :=
  match f.kind with
  | .terms =>
    (Search.orPanic .noOrder (topValues? suffix field Search.defaultTermsSize docs)).map
      (List.map Search.valueBucket)
  | .dateHistogram =>
    (Search.orPanic .overflow ((dayStarts? suffix field docs).bind dayCounts?)).map
      (List.map Search.dayBucket)

namespace Search

/-! ## Steps of a search -/

/-- A query that shows no fault finds exactly the documents that it matches, in index order. -/
theorem hits_eq {q : Query} {suffix : String} {docs : Documents}
    (hq : ∀ p ∈ docs, q.Runs suffix (.obj p.2)) :
    ∃ found, hits suffix q docs = .ok found ∧
      (found.map fun h => (h.id, h.doc)) = docs.filter fun p => q.holds suffix (.obj p.2) := by
  induction docs with
  | nil => exact ⟨[], rfl, rfl⟩
  | cons p docs ih =>
    obtain ⟨id, doc⟩ := p
    obtain ⟨hrun, hruns⟩ := List.forall_mem_cons.1 hq
    obtain ⟨found, hf, hd⟩ := ih hruns
    obtain ⟨o, ho, hh⟩ := hrun.exists_score
    simp only [hits, ho, hf, bind, Except.bind, pure, Except.pure]
    cases o with
    | none =>
      refine ⟨found, rfl, ?_⟩
      rw [List.filter_cons_of_neg (by simp [← hh]), hd]
    | some s =>
      refine ⟨⟨s, id, doc⟩ :: found, rfl, ?_⟩
      rw [List.filter_cons_of_pos (by simp [← hh]), List.map_cons, hd]

/-- A search that succeeds has evaluated its query on every document. -/
theorem runs_of_hits {q : Query} {suffix : String} {docs : Documents} {found : List Hit}
    (h : hits suffix q docs = .ok found) : ∀ p ∈ docs, q.Runs suffix (.obj p.2) := by
  induction docs generalizing found with
  | nil => simp
  | cons p docs ih =>
    rw [hits] at h
    obtain ⟨o, ho, h⟩ := Outcome.bind_eq_ok.1 h
    obtain ⟨rest, hr, -⟩ := Outcome.bind_eq_ok.1 h
    exact List.forall_mem_cons.2 ⟨⟨o, ho⟩, ih hr⟩

theorem aggregationField_ok {spec : Json} {field : String}
    (h : spec.get? "field" = some (.str field)) : aggregationField spec = .ok field := by
  unfold aggregationField
  rw [h]
  rfl

theorem orPanic_eq_ok {α : Type} {p : Panic} {o : Option α} {a : α} :
    orPanic p o = .ok a ↔ o = some a := by
  cases o with
  | none => simp [orPanic]
  | some b => simp [orPanic]

/-! ### Aggregations -/

/-- The aggregation that a facet asks for is answered with the buckets of the facet. -/
theorem aggregate_eq (suffix suffix' name : String) (f : FacetRequest) (docs : List Json) :
    aggregate suffix name (f.aggregation suffix') docs =
      (f.buckets suffix (f.field ++ suffix') docs).map buckets := by
  obtain ⟨field, kind⟩ := f
  unfold aggregate FacetRequest.buckets
  cases kind with
  | terms =>
    have ht : (FacetRequest.aggregation suffix' ⟨field, .terms⟩).get? "terms" =
        some (.obj [("field", .str (field ++ suffix'))]) := rfl
    have hf : aggregationField (.obj [("field", .str (field ++ suffix'))]) =
        .ok (field ++ suffix') := aggregationField_ok rfl
    simp only [ht, hf]
    show orPanic .noOrder (topValues? suffix (field ++ suffix') defaultTermsSize docs) >>= _ = _
    cases topValues? suffix (field ++ suffix') defaultTermsSize docs <;> rfl
  | dateHistogram =>
    have ht : (FacetRequest.aggregation suffix' ⟨field, .dateHistogram⟩).get? "terms" = none := rfl
    have hd : (FacetRequest.aggregation suffix' ⟨field, .dateHistogram⟩).get? "date_histogram" =
        some (.obj [("field", .str (field ++ suffix')), ("calendar_interval", .str "1d")]) := rfl
    have hf : aggregationField
        (.obj [("field", .str (field ++ suffix')), ("calendar_interval", .str "1d")]) =
        .ok (field ++ suffix') := aggregationField_ok rfl
    simp only [ht, hd, hf]
    show orPanic .overflow ((dayStarts? suffix (field ++ suffix') docs).bind dayCounts?) >>= _ = _
    cases (dayStarts? suffix (field ++ suffix') docs).bind dayCounts? <;> rfl

end Search

/-! ## Bodies -/

namespace SearchRequest

variable (r : SearchRequest) (suffix : String) (defaultLimit : Nat)

/-- A part of a body that may be left out. -/
theorem find?_part (key name : String) (o : Option Json) :
    Assoc.find? key ((o.map fun v => (name, v)).toList) = if name = key then o else none := by
  cases o with
  | none => simp
  | some v => exact Assoc.find?_cons key name v []

theorem get?_body_query :
    (r.body suffix defaultLimit).get? "query" = some (r.toQuery suffix).toJson := rfl

theorem get?_body_from :
    (r.body suffix defaultLimit).get? "from" = some (.ofInt (r.offset.getD 0)) := rfl

theorem get?_body_size :
    (r.body suffix defaultLimit).get? "size" =
      some (.ofNat ((r.limit.map wrapU64).getD defaultLimit)) := rfl

/-- The keys behind the first four. -/
theorem get?_body_rest {key : String}
    (h : key ∉ ["query", "from", "size", "track_total_hits"]) :
    (r.body suffix defaultLimit).get? key =
      ((if "sort" = key then sortSection? r.sort suffix else none).or
        (if "aggs" = key then aggregations? r.facets suffix else none)).or
        (if "_source" = key then
          if r.fields.isEmpty then none else some (.ofStrings r.fields) else none) := by
  simp only [List.mem_cons, List.not_mem_nil, or_false, not_or] at h
  obtain ⟨h₁, h₂, h₃, h₄⟩ := h
  have hf : Assoc.find? key
      (if r.fields.isEmpty then [] else [("_source", Json.ofStrings r.fields)]) =
        if "_source" = key then
          if r.fields.isEmpty then none else some (.ofStrings r.fields) else none := by
    split
    · rw [Assoc.find?_nil, ite_self]
    · rw [Assoc.find?_cons, Assoc.find?_nil]
  have hb : ∀ q f n : Json, Assoc.find? key
      [("query", q), ("from", f), ("size", n), ("track_total_hits", .bool true)] = none := by
    intro q f n
    rw [Assoc.find?_cons, if_neg (Ne.symm h₁), Assoc.find?_cons, if_neg (Ne.symm h₂),
      Assoc.find?_cons, if_neg (Ne.symm h₃), Assoc.find?_cons, if_neg (Ne.symm h₄),
      Assoc.find?_nil]
  show Assoc.find? key (_ ++ _ ++ _ ++ _) = _
  rw [Assoc.find?_append, Assoc.find?_append, Assoc.find?_append, hb, find?_part, find?_part, hf,
    Option.none_or]

theorem get?_body_sort :
    (r.body suffix defaultLimit).get? "sort" = sortSection? r.sort suffix := by
  rw [get?_body_rest r suffix defaultLimit (by decide), if_pos rfl, if_neg (by decide),
    if_neg (by decide), Option.or_none, Option.or_none]

theorem get?_body_aggs :
    (r.body suffix defaultLimit).get? "aggs" = aggregations? r.facets suffix := by
  rw [get?_body_rest r suffix defaultLimit (by decide), if_neg (by decide), if_pos rfl,
    if_neg (by decide), Option.none_or, Option.or_none]

theorem get?_body_source :
    (r.body suffix defaultLimit).get? "_source" =
      if r.fields.isEmpty then none else some (.ofStrings r.fields) := by
  rw [get?_body_rest r suffix defaultLimit (by decide), if_neg (by decide), if_neg (by decide),
    if_pos rfl, Option.none_or, Option.none_or]

theorem get?_body_aggregations : (r.body suffix defaultLimit).get? "aggregations" = none := by
  rw [get?_body_rest r suffix defaultLimit (by decide), if_neg (by decide), if_neg (by decide),
    if_neg (by decide), Option.none_or, Option.none_or]

end SearchRequest

/-! ## Searches -/

/-- The answer tells how many hits there are and shows a page of them. -/
structure Search.Shows (index : String) (body : Json) (found : List Hit) (start size : Nat)
    (answer : Json) : Prop where
  total : answer.at? ["hits", "total", "value"] = some (.ofNat found.length)
  page : answer.listAt ["hits", "hits"] =
    ((found.drop start).take size).map (Search.hitJson index body)

theorem Search.shows_answerJson (index : String) (body : Json) (found : List Hit)
    (aggregated : Option Json) :
    Shows index body found (((body.get? "from").bind Json.u64?).getD 0)
      (((body.get? "size").bind Json.u64?).getD 10) (answerJson index body found aggregated) :=
  ⟨rfl, rfl⟩

theorem Search.get?_answerJson_aggregations (index : String) (body : Json) (found : List Hit)
    (aggregated : Option Json) :
    (answerJson index body found aggregated).get? "aggregations" = aggregated := by
  unfold answerJson
  cases aggregated with
  | none => rfl
  | some a => rfl

end Polystore
