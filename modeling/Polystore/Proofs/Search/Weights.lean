import Polystore.Proofs.Search.Paging
import Polystore.Proofs.Search.Unweighted

/-!
# Weights rank and never filter

Two requests that differ only in the weights of their fields find the same documents.  Weights move
documents within the order by score; where a request has sort keys, they change nothing at all.

    (r.toQuery suffix).unweighted = (r.weighted []).toQuery suffix             (unweighted_toQuery)
    r.sort ≠ [] → s.respond index (r.weighted w) defaultLimit =
      s.respond index (r.weighted w') defaultLimit                            (weights_never_filter)

The values of a facet are counted in the order of the hits.  Where they are of several kinds, they
may be sorted as they come under one weight, and not as they come under another one.
-/

namespace Polystore

/-! ## Requests with other weights -/

namespace Query

theorem unweighted_allOf (qs : List Query) :
    (allOf qs).unweighted = allOf (qs.map unweighted) := by
  match qs with
  | [] => rfl
  | [q] => rfl
  | q :: q' :: qs =>
    simp only [allOf, unweighted, unweightedAll_eq_map, List.map_cons, List.map_nil]

theorem unweighted_anyOf (qs : List Query) :
    (anyOf qs).unweighted = anyOf (qs.map unweighted) := by
  simp only [anyOf, unweighted, unweightedAll_eq_map, List.map_nil]

end Query

theorem Operators.map_unweighted (field : String) (boost : Option Number) (ops : Operators) :
    (ops.queries field boost).map Query.unweighted = ops.queries field none := by
  have ha : ∀ p : Affix × String,
      (p.1.query field p.2 boost).unweighted = p.1.query field p.2 none := by
    intro p
    cases p.1 <;> rfl
  unfold queries
  rw [List.map_append, List.map_map]
  congr 1
  · split <;> rfl
  · exact List.map_congr_left fun p _ => ha p

theorem Criterion.map_unweighted (field : String) (boost : Option Number) (c : Criterion) :
    (c.queries field boost).map Query.unweighted = c.queries field none := by
  cases c with
  | scalar v => rfl
  | list vs => rfl
  | operators ops => exact ops.map_unweighted field boost

theorem Filter.map_unweighted (suffix : String) (boost : Option Number) (field : String)
    (c : Criterion) :
    (entryQueries suffix boost field c).map Query.unweighted =
      entryQueries suffix none field c := by
  unfold entryQueries
  cases nestedPath? field with
  | none => exact c.map_unweighted _ boost
  | some path =>
    dsimp only
    rw [← c.map_unweighted (field ++ suffix) boost, List.map_map, List.map_map]
    rfl

namespace SearchRequest

/-- The request with other weights. -/
def weighted (r : SearchRequest) (weights : List (String × Int)) : SearchRequest :=
  { r with boosts := weights }

variable (r : SearchRequest) (suffix : String)

theorem map_unweighted_entryQueries (p : String × Criterion) :
    (r.entryQueries suffix p).map Query.unweighted = (r.weighted []).entryQueries suffix p :=
  Filter.map_unweighted suffix _ p.1 p.2

theorem unweighted_textQuery (text : String) :
    (r.textQuery text).unweighted = (r.weighted []).textQuery text := by
  have hfields : (r.weighted []).queryFields = r.queryFields := rfl
  unfold textQuery
  rw [hfields]
  split
  · rfl
  · rw [Query.unweighted_anyOf, List.map_map]
    rfl

theorem map_unweighted_filterQueries (f : Filter) :
    (r.filterQueries suffix f).map Query.unweighted = (r.weighted []).filterQueries suffix f := by
  unfold filterQueries
  rw [List.map_append, List.map_flatMap]
  congr 1
  · exact List.flatMap_congr fun p _ => map_unweighted_entryQueries r suffix p
  · split
    · rfl
    · rw [List.map_singleton, Query.unweighted_anyOf, List.map_map]
      refine congrArg (fun qs => [Query.anyOf qs]) (List.map_congr_left fun p _ => ?_)
      rw [Function.comp_apply, Query.unweighted_allOf, map_unweighted_entryQueries]

theorem map_unweighted_filterClauses :
    (r.filterClauses suffix).map Query.unweighted = (r.weighted []).filterClauses suffix := by
  have hfilters : (r.weighted []).filters = r.filters := rfl
  unfold filterClauses
  rw [hfilters]
  cases r.filters with
  | none => rfl
  | some f => exact map_unweighted_filterQueries r suffix f

theorem map_unweighted_wordlessQueries :
    (r.wordlessQueries suffix).map Query.unweighted = (r.weighted []).wordlessQueries suffix := by
  unfold wordlessQueries
  rw [List.map_append, List.map_append, map_unweighted_filterClauses, List.map_map, List.map_map]
  rfl

theorem map_unweighted_mustQueries :
    (r.mustQueries suffix).map Query.unweighted = (r.weighted []).mustQueries suffix := by
  have htext : (r.query.map r.textQuery).toList.map Query.unweighted =
      (r.query.map (r.weighted []).textQuery).toList := by
    cases r.query with
    | none => rfl
    | some text => exact congrArg (fun q => [q]) (unweighted_textQuery r text)
  rw [mustQueries_eq, mustQueries_eq, List.map_append, List.map_append, htext,
    map_unweighted_wordlessQueries, List.map_map]
  rfl

theorem map_unweighted_mustNotQueries :
    r.mustNotQueries.map Query.unweighted = (r.weighted []).mustNotQueries := by
  simp only [mustNotQueries, List.map_append, List.map_map]
  rfl

/-- Without its weights, the query of a request is that of the request without weights. -/
theorem unweighted_toQuery :
    (r.toQuery suffix).unweighted = (r.weighted []).toQuery suffix := by
  unfold toQuery
  dsimp only
  rw [← map_unweighted_mustQueries, ← map_unweighted_mustNotQueries, List.isEmpty_map,
    List.isEmpty_map]
  split
  · rfl
  · simp only [Query.unweighted, Query.unweightedAll_eq_map, List.map_nil]

/-- The queries of two requests with different weights decide alike, as the index reads them. -/
theorem decides_matcher_weighted (weights weights' : List (String × Int)) (doc : Json) :
    ((r.weighted weights).matcher suffix).decides suffix doc =
      ((r.weighted weights').matcher suffix).decides suffix doc := by
  refine Query.decides_readBack_congr ?_ suffix doc
  rw [unweighted_toQuery, unweighted_toQuery]
  rfl

end SearchRequest

/-! ## What two requests find -/

namespace Search

/-- Which documents are found is decided document by document. -/
theorem documents_hits_cons (suffix : String) (q : Query) (p : String × Record) (docs : Documents) :
    (hits suffix q (p :: docs)).map (List.map fun h => (h.id, h.doc)) =
      q.decides suffix (.obj p.2) >>= fun b =>
        ((hits suffix q docs).map (List.map fun h => (h.id, h.doc))).map fun rest =>
          if b then p :: rest else rest := by
  obtain ⟨id, doc⟩ := p
  rw [hits, Query.decides]
  rcases q.score suffix (.obj doc) with e | _ | a
  · rfl
  · rcases hits suffix q docs with e | found
    · rfl
    · rfl
  · rcases hits suffix q docs with e | found
    · rfl
    · rfl

/-- Queries that decide alike find the same documents in index order, or show the same fault. -/
theorem hits_congr {suffix : String} {q q' : Query}
    (h : ∀ doc, q.decides suffix doc = q'.decides suffix doc) (docs : Documents) :
    (hits suffix q docs).map (List.map fun h => (h.id, h.doc)) =
      (hits suffix q' docs).map (List.map fun h => (h.id, h.doc)) := by
  induction docs with
  | nil => rfl
  | cons p docs ih => rw [documents_hits_cons, documents_hits_cons, h, ih]

/-- Two searches for the same documents both fail or both succeed. -/
theorem cases_of_documents {ε : Type} {x y : Except ε (List Hit)}
    (h : x.map (List.map fun h => (h.id, h.doc)) = y.map (List.map fun h => (h.id, h.doc))) :
    (∃ fault, x = .error fault ∧ y = .error fault) ∨
      ∃ found found', x = .ok found ∧ y = .ok found' ∧
        found.map (fun h => (h.id, h.doc)) = found'.map fun h => (h.id, h.doc) := by
  rcases x with e | found <;> rcases y with e' | found'
  · exact .inl ⟨e, rfl, congrArg Except.error (Except.error.inj h).symm⟩
  · cases h
  · cases h
  · exact .inr ⟨found, found', rfl, rfl, Except.ok.inj h⟩

end Search

namespace SearchRequest

variable (r : SearchRequest) (suffix : String)

/-- The order by sort keys is an order of documents, whatever their scores. -/
theorem documents_arrange_of_sort (hs : r.sort ≠ []) (matched : List Hit) :
    (r.arrange suffix matched).map (List.map fun h => (h.id, h.doc)) =
      Search.orPanic .noOrder
        (sortBy? (fun a b => Search.compareByKeys suffix (r.sortFields suffix) a.2 b.2)
          (matched.map fun h => (h.id, h.doc))) := by
  have he : ¬ r.sort.isEmpty = true := by rwa [List.isEmpty_iff]
  have hmap := map_sortBy? (fun a b : String × Record =>
    Search.compareByKeys suffix (r.sortFields suffix) a.2 b.2)
    (fun h : Hit => (h.id, h.doc)) matched
  rw [arrange, if_neg he, ← hmap]
  cases sortBy? (fun a b : Hit =>
    Search.compareByKeys suffix (r.sortFields suffix) a.doc b.doc) matched <;> rfl

theorem countOf_congr {found found' : List Hit}
    (h : (found.map fun h => (h.id, h.doc)).Perm (found'.map fun h => (h.id, h.doc))) :
    countOf found = countOf found' := by
  have hlength := h.length_eq
  rw [List.length_map, List.length_map] at hlength
  rw [countOf, countOf, hlength]

theorem docs_eq {found found' : List Hit}
    (h : found.map (fun h => (h.id, h.doc)) = found'.map fun h => (h.id, h.doc)) :
    found.map Hit.doc = found'.map Hit.doc := by
  have hsnd := congrArg (List.map Prod.snd) h
  rwa [List.map_map, List.map_map] at hsnd

/-- A response tells of the documents that were found, and not of their scores. -/
theorem shown_congr (defaultLimit : Nat) {found found' : List Hit}
    (h : found.map (fun h => (h.id, h.doc)) = found'.map fun h => (h.id, h.doc))
    (counts : List (FacetRequest × List Json)) :
    r.shown defaultLimit found counts = r.shown defaultLimit found' counts := by
  have hpage : ∀ l : List Hit, ((l.drop r.start).take (r.size defaultLimit)).map
      (fun h => r.project h.doc) =
        (((l.map Hit.doc).drop r.start).take (r.size defaultLimit)).map r.project := by
    intro l
    rw [← List.map_drop, ← List.map_take, List.map_map]
    rfl
  rw [shown, shown, hpage, hpage, docs_eq h, countOf_congr (.of_eq h)]

/-- With sort keys, the response tells of the documents that match, and not of their scores. -/
theorem responseTo_congr (hs : r.sort ≠ []) (defaultLimit : Nat) {matched matched' : List Hit}
    (h : matched.map (fun h => (h.id, h.doc)) = matched'.map fun h => (h.id, h.doc)) :
    r.responseTo suffix defaultLimit matched = r.responseTo suffix defaultLimit matched' := by
  have harrange : (r.arrange suffix matched).map (List.map fun h => (h.id, h.doc)) =
      (r.arrange suffix matched').map (List.map fun h => (h.id, h.doc)) := by
    rw [documents_arrange_of_sort r suffix hs, documents_arrange_of_sort r suffix hs, h]
  unfold responseTo
  obtain ⟨fault, hm, hm'⟩ | ⟨found, found', hm, hm', hfound⟩ := Search.cases_of_documents harrange
  · rw [hm, hm']
  · have hfacets : (found.map fun h => Json.obj h.doc) = found'.map fun h => Json.obj h.doc := by
      have hobj := congrArg (List.map Json.obj) (docs_eq hfound)
      rwa [List.map_map, List.map_map] at hobj
    rw [hm, hm']
    show (r.counted suffix (found.map fun h => Json.obj h.doc) >>= _) =
      r.counted suffix (found'.map fun h => Json.obj h.doc) >>= _
    rw [hfacets]
    exact bind_congr fun counts => by rw [r.shown_congr defaultLimit hfound]

end SearchRequest

namespace SearchIndex

variable {s : SearchIndex} {index : String} {r : SearchRequest} {docs : Documents}
  {defaultLimit : Nat}

/-- Every page of a request shows its part of some hits, in their order.  Sizes and offsets are
those of 64 bits. -/
def Pages (s : SearchIndex) (index : String) (r : SearchRequest) (defaultLimit : Nat)
    (found : List Hit) : Prop :=
  ∀ n offset, n < Decimal.twoTo 64 → offset < Decimal.twoTo 64 → ∃ answer,
    s.search index ((r.page n offset).body s.suffix defaultLimit) = .ok answer ∧
    Search.Shows index ((r.page n offset).body s.suffix defaultLimit) found offset n answer

/-- The pages of a request that is answered show the documents that match. -/
theorem exists_pages_of_respond {matched : List Hit} {response : Response}
    (hn : (r.facets.map FacetRequest.field).Nodup) (hd : s.documents? index = some docs)
    (hm : Search.hits s.suffix (r.matcher s.suffix) docs = .ok matched)
    (hr : s.respond index r defaultLimit = .ok response) :
    ∃ found, response.count = SearchRequest.countOf found ∧ s.Pages index r defaultLimit found ∧
      (found.map fun h => (h.id, h.doc)).Perm (matched.map fun h => (h.id, h.doc)) := by
  rw [respond_of_hits hn hd hm] at hr
  obtain ⟨found, counts, hfound, hcounts, rfl⟩ := SearchRequest.responseTo_eq_ok.1 hr
  refine ⟨found, SearchRequest.count_shown, fun n offset hsize hstart => ?_,
    (SearchRequest.perm_of_arrange hfound).map _⟩
  obtain ⟨answer, ha, hshows⟩ := search_page hn hd hm hfound hcounts n offset defaultLimit
  rw [SearchRequest.start_page hstart, SearchRequest.size_page hsize] at hshows
  exact ⟨answer, ha, hshows⟩

/-- The search for the response to a request is broken off. -/
def BreaksOff (s : SearchIndex) (index : String) (r : SearchRequest) (defaultLimit : Nat) : Prop :=
  ∃ p, s.respond index r defaultLimit = .error (.panicked p)

theorem respond_of_noIndex (hd : s.documents? index = none) :
    s.respond index r defaultLimit = .error (.refused (.noIndex index)) := by
  rw [respond, search, hd]
  rfl

/-- A fault of the query is the fault of the search. -/
theorem respond_of_fault {fault : QueryFault} (hn : (r.facets.map FacetRequest.field).Nodup)
    (hd : s.documents? index = some docs)
    (hm : Search.hits s.suffix (r.matcher s.suffix) docs = .error fault) :
    s.respond index r defaultLimit = .error (.refused (.query fault)) := by
  rw [respond_eq hn hd, hm]
  rfl

/-- The weights are of no matter for which documents match. -/
theorem matching_weighted (s : SearchIndex) (index : String) (r : SearchRequest)
    (w : List (String × Int)) : s.matching index (r.weighted w) = s.matching index r := by
  refine List.filter_congr fun p _ => ?_
  have hdecides := r.decides_matcher_weighted s.suffix w r.boosts (.obj p.2)
  exact Query.holds_congr hdecides

theorem Answerable.weighted (h : s.Answerable index r) (w : List (String × Int)) :
    s.Answerable index (r.weighted w) := by
  obtain ⟨hsorted, hcounted⟩ := h
  rw [← matching_weighted s index r w] at hsorted hcounted
  exact ⟨hsorted, hcounted⟩

theorem Answerable.not_breaksOff {matched : List Hit} (h : s.Answerable index r)
    (hn : (r.facets.map FacetRequest.field).Nodup) (hd : s.documents? index = some docs)
    (hm : Search.hits s.suffix (r.matcher s.suffix) docs = .ok matched) :
    ¬ s.BreaksOff index r defaultLimit := by
  rintro ⟨p, hp⟩
  obtain ⟨response, hr⟩ := h.exists_respond hn hd hm defaultLimit
  rw [hp] at hr
  cases hr

/-- Two requests that differ only in their weights are both refused, with one fault, or neither of
them is.  If both are answered, then with one count and one set of hits over their pages; and both
are answered if the documents that match can be put in order and counted.  If there are sort keys,
the responses are equal. -/
theorem weights_never_filter {maxLimit : Nat} (hc : r.check maxLimit = .ok ())
    (w w' : List (String × Int)) :
    ((∃ fault, s.respond index (r.weighted w) defaultLimit = .error (.refused fault) ∧
        s.respond index (r.weighted w') defaultLimit = .error (.refused fault)) ∨
      ((∃ response, s.respond index (r.weighted w) defaultLimit = .ok response) ∨
        s.BreaksOff index (r.weighted w) defaultLimit) ∧
      ((∃ response', s.respond index (r.weighted w') defaultLimit = .ok response') ∨
        s.BreaksOff index (r.weighted w') defaultLimit) ∧
      ∀ response response', s.respond index (r.weighted w) defaultLimit = .ok response →
        s.respond index (r.weighted w') defaultLimit = .ok response' →
        response.count = response'.count ∧
        ∃ found found', s.Pages index (r.weighted w) defaultLimit found ∧
          s.Pages index (r.weighted w') defaultLimit found' ∧
          (found.map fun h => (h.id, h.doc)).Perm (found'.map fun h => (h.id, h.doc))) ∧
    (s.Answerable index r → ¬ s.BreaksOff index (r.weighted w) defaultLimit ∧
      ¬ s.BreaksOff index (r.weighted w') defaultLimit) ∧
    (r.sort ≠ [] → s.respond index (r.weighted w) defaultLimit =
      s.respond index (r.weighted w') defaultLimit) := by
  have hn : (r.facets.map FacetRequest.field).Nodup := SearchRequest.nodup_facets hc
  cases hd : s.documents? index with
  | none =>
    rw [BreaksOff, BreaksOff, respond_of_noIndex hd, respond_of_noIndex hd]
    exact ⟨.inl ⟨_, rfl, rfl⟩, fun _ => ⟨nofun, nofun⟩, fun _ => rfl⟩
  | some docs =>
    have hsame := Search.hits_congr (r.decides_matcher_weighted s.suffix w w') docs
    obtain ⟨fault, hm, hm'⟩ | ⟨matched, matched', hm, hm', hdocs⟩ :=
      Search.cases_of_documents hsame
    · rw [BreaksOff, BreaksOff, respond_of_fault (r := r.weighted w) hn hd hm,
        respond_of_fault (r := r.weighted w') hn hd hm']
      exact ⟨.inl ⟨_, rfl, rfl⟩, fun _ => ⟨nofun, nofun⟩, fun _ => rfl⟩
    · have hr := respond_of_hits (r := r.weighted w) hn hd hm defaultLimit
      have hr' := respond_of_hits (r := r.weighted w') hn hd hm' defaultLimit
      refine ⟨.inr ⟨?_, ?_, fun response response' ha ha' => ?_⟩, fun ha => ⟨?_, ?_⟩,
        fun hs => ?_⟩
      · rw [BreaksOff, hr]
        exact (SearchRequest.onlyPanics_responseTo _ _ _ _).cases
      · rw [BreaksOff, hr']
        exact (SearchRequest.onlyPanics_responseTo _ _ _ _).cases
      · obtain ⟨found, hcount, hpages, hperm⟩ :=
          exists_pages_of_respond (r := r.weighted w) hn hd hm ha
        obtain ⟨found', hcount', hpages', hperm'⟩ :=
          exists_pages_of_respond (r := r.weighted w') hn hd hm' ha'
        have hfound := (hperm.trans (.of_eq hdocs)).trans hperm'.symm
        rw [hcount, hcount']
        exact ⟨SearchRequest.countOf_congr hfound, found, found', hpages, hpages', hfound⟩
      · exact Answerable.not_breaksOff (r := r.weighted w) (ha.weighted w) hn hd hm
      · exact Answerable.not_breaksOff (r := r.weighted w') (ha.weighted w') hn hd hm'
      · rw [hr, hr']
        exact r.responseTo_congr s.suffix hs defaultLimit hdocs

/-- The three documents of a kind come in the order of their numbers, under a great weight as under
one below zero. -/
theorem itemsOfKind_weighted :
    itemsOfKind.check 100 = .ok () ∧ itemsOfKind.sort ≠ [] ∧
      ∃ response, itemIndex.respond "items" (itemsOfKind.weighted [("kind", 9)]) 10 = .ok response ∧
        itemIndex.respond "items" (itemsOfKind.weighted [("kind", -1)]) 10 = .ok response := by
  have hc : itemsOfKind.check 100 = .ok () := rfl
  have hs : itemsOfKind.sort ≠ [] := List.cons_ne_nil _ _
  obtain ⟨response, hr⟩ : ∃ response,
      itemIndex.respond "items" (itemsOfKind.weighted [("kind", 9)]) 10 = .ok response := ⟨_, rfl⟩
  have hsame : itemIndex.respond "items" (itemsOfKind.weighted [("kind", 9)]) 10 =
      itemIndex.respond "items" (itemsOfKind.weighted [("kind", -1)]) 10 :=
    (weights_never_filter hc _ _).2.2 hs
  exact ⟨hc, hs, response, hr, hsame.symm.trans hr⟩

end SearchIndex

end Polystore
