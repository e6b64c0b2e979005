import Polystore.Proofs.Search.DrillDown

/-!
# The values that a facet lists

A facet by value lists the ten values that the most documents have, each with its number of
documents.  A document counts once for a value, however often it has it, and texts are counted in
lower case.  Whenever the values are sorted, their numbers decrease, although the comparison of the
values may be no order: a value is compared only with values of its number.

    topValues? suffix (field ++ suffix) size docs = some counts →
      ListsTop field docs size counts                                          (listsTop_topValues)

More than twenty values of several kinds may not be sorted at all; then there is no list.
-/

namespace Polystore

open Json (SameBothWays)

/-! ## Specification -/

/-- The values that some documents have at a path, in lower case. -/
def occurring (field : String) (docs : List Json) : List Json :=
  docs.flatMap fun d => (d.valuesAt field).map Json.fold

/-- The number of documents that have a value at a path. -/
def documentsWith (field : String) (docs : List Json) (v : Json) : Nat :=
  docs.countP fun d => ((d.valuesAt field).map Json.fold).any fun w => v.same w

/-- The values with the greatest numbers of documents, up to a number of them. -/
structure ListsTop (field : String) (docs : List Json) (size : Nat) (counts : List (Json × Nat)) :
    Prop where
  distinct : counts.Pairwise fun p q => ¬ p.1.same q.1 = true ∧ ¬ q.1.same p.1 = true
  occurs : ∀ p ∈ counts, p.1 ∈ occurring field docs
  counted : ∀ p ∈ counts, p.2 = documentsWith field docs p.1
  decreasing : counts.Pairwise fun p q => q.2 ≤ p.2
  length_le : counts.length ≤ size
  complete : counts.length < size → ∀ v ∈ occurring field docs, ∃ p ∈ counts, v.same p.1 = true
  top : counts.length = size → ∀ v ∈ occurring field docs,
    (∀ p ∈ counts, ¬ v.same p.1 = true) → ∀ p ∈ counts, documentsWith field docs v ≤ p.2

/-! ## Values without repeated keys -/

namespace Json

theorem isWellKeyed_of_get? {key : String} {v w : Json} (hv : v.isWellKeyed = true)
    (h : v.get? key = some w) : w.isWellKeyed = true := by
  cases v with
  | obj fields =>
    obtain ⟨-, hfields⟩ := (isWellKeyed_obj_iff fields).1 hv
    exact hfields _ (Assoc.mem_of_find?_eq_some h)
  | null | bool | num | str | arr => cases h

theorem isWellKeyed_of_mem_step {key : String} {v w : Json} (hv : v.isWellKeyed = true)
    (h : w ∈ step key v) : w.isWellKeyed = true := by
  cases v with
  | obj fields => exact isWellKeyed_of_get? hv (Option.mem_toList.1 h)
  | arr items =>
    obtain ⟨x, hx, hget⟩ := List.mem_filterMap.1 h
    rw [isWellKeyed, areWellKeyed_iff] at hv
    exact isWellKeyed_of_get? (hv x hx) hget
  | null | bool | num | str => exact absurd h List.not_mem_nil

/-- A document without repeated keys has no value with repeated keys. -/
theorem isWellKeyed_of_mem_valuesAlong {keys : List String} {v w : Json}
    (hv : v.isWellKeyed = true) (h : w ∈ valuesAlong keys v) : w.isWellKeyed = true := by
  induction keys generalizing v with
  | nil =>
    cases v with
    | arr items =>
      rw [isWellKeyed, areWellKeyed_iff] at hv
      exact hv w h
    | null => exact absurd h List.not_mem_nil
    | bool | num | str | obj =>
      rw [List.mem_singleton.1 h]
      exact hv
  | cons key keys ih =>
    obtain ⟨x, hx, hw⟩ := List.mem_flatMap.1 h
    exact ih (isWellKeyed_of_mem_step hv hx) hw

theorem isWellKeyed_fold {v : Json} (h : v.isWellKeyed = true) : v.fold.isWellKeyed = true := by
  cases v with
  | str s => rfl
  | null | bool | num | arr | obj => exact h

end Json

/-- Documents without repeated keys have no value with repeated keys. -/
theorem isWellKeyed_of_mem_occurring {field : String} {docs : List Json}
    (hdocs : ∀ d ∈ docs, d.isWellKeyed = true) {v : Json} (h : v ∈ occurring field docs) :
    v.isWellKeyed = true := by
  obtain ⟨d, hd, hv⟩ := List.mem_flatMap.1 h
  obtain ⟨w, hw, rfl⟩ := List.mem_map.1 hv
  exact Json.isWellKeyed_fold (Json.isWellKeyed_of_mem_valuesAlong (hdocs d hd) hw)

/-! ## Counting and sorting -/

/-- A number that is not zero stands next to a value. -/
theorem exists_of_countFor_pos {k : Json} {counts : List (Json × Nat)} (h : 0 < countFor k counts) :
    ∃ p ∈ counts, p.1.same k = true ∧ p.2 = countFor k counts := by
  induction counts with
  | nil => exact absurd h (Nat.lt_irrefl 0)
  | cons p counts ih =>
    obtain ⟨w, n⟩ := p
    rw [countFor] at h ⊢
    by_cases hw : w.same k = true
    · rw [if_pos hw]
      exact ⟨(w, n), List.mem_cons_self, hw, rfl⟩
    · rw [if_neg hw] at h ⊢
      obtain ⟨q, hq, hsame⟩ := ih h
      exact ⟨q, List.mem_cons_of_mem _ hq, hsame⟩

/-- Values of different numbers are sorted by their numbers alone. -/
theorem follows_compareCounts (counts : List (Json × Nat)) :
    Follows (fun p q : Json × Nat => q.2 ≤ p.2) compareCounts counts := by
  refine ⟨fun p _ q _ hlt => ?_, fun p _ q _ hne => ?_, fun p _ q _ t _ hpq hqt =>
    Nat.le_trans hqt hpq⟩
  · rw [compareCounts, Ordering.then_eq_lt, Nat.compare_eq_lt, Nat.compare_eq_eq] at hlt
    omega
  · refine Nat.le_of_not_lt fun hlt => hne ?_
    rw [compareCounts, Nat.compare_eq_lt.2 hlt]
    rfl

/-- A list that is shorter than the cut was not cut. -/
theorem mem_topValues_of_length_lt {suffix field : String} {size : Nat} {docs : List Json}
    {counts : List (Json × Nat)} (htop : topValues? suffix field size docs = some counts)
    (h : counts.length < size) {p : Json × Nat} (hp : p ∈ valueCounts suffix field docs) :
    p ∈ counts := by
  obtain ⟨sorted, hs, rfl⟩ := topValues?_eq_some_iff.1 htop
  rw [List.length_take] at h
  rw [List.take_of_length_le (by omega)]
  exact (perm_of_sortBy? hs).mem_iff.2 hp

section Values

variable {suffix field : String} {docs : List Json}

theorem mem_occurring_of_mem_fieldValues (hs : suffix ≠ "") {d v : Json} (hd : d ∈ docs)
    (hv : v ∈ fieldValues suffix (field ++ suffix) d) : v ∈ occurring field docs := by
  rw [fieldValues_append hs] at hv
  exact List.mem_flatMap.2 ⟨d, hd, hv⟩

/-- The number for a value that occurs is that of its documents. -/
theorem countFor_eq_documentsWith (hs : suffix ≠ "") (hdocs : ∀ d ∈ docs, d.isWellKeyed = true)
    {v : Json} (hv : v ∈ occurring field docs) :
    countFor v (valueCounts suffix (field ++ suffix) docs) = documentsWith field docs v := by
  have hboth : ∀ d ∈ docs, SameBothWays v (fieldValues suffix (field ++ suffix) d) :=
    fun d hd => Json.sameBothWays_of_isWellKeyed (isWellKeyed_of_mem_occurring hdocs hv)
      fun w hw => isWellKeyed_of_mem_occurring hdocs (mem_occurring_of_mem_fieldValues hs hd hw)
  rw [countFor_valueCounts hboth]
  simp only [fieldValues_append hs]
  rfl

theorem documentsWith_pos (hdocs : ∀ d ∈ docs, d.isWellKeyed = true) {v : Json}
    (hv : v ∈ occurring field docs) : 0 < documentsWith field docs v := by
  obtain ⟨d, hd, hm⟩ := List.mem_flatMap.1 hv
  have hsame := Json.same_refl (isWellKeyed_of_mem_occurring hdocs hv)
  exact List.countP_pos_iff.2 ⟨d, hd, List.any_eq_true.2 ⟨v, hm, hsame⟩⟩

theorem mem_occurring_of_mem_valueCounts (hs : suffix ≠ "") {p : Json × Nat}
    (hp : p ∈ valueCounts suffix (field ++ suffix) docs) : p.1 ∈ occurring field docs := by
  obtain ⟨d, hd, hv⟩ := mem_fieldValues_of_mem_valueCounts hp
  exact mem_occurring_of_mem_fieldValues hs hd hv

/-- Each value is counted with the number of its documents. -/
theorem count_eq_documentsWith (hs : suffix ≠ "") (hdocs : ∀ d ∈ docs, d.isWellKeyed = true)
    {p : Json × Nat} (hp : p ∈ valueCounts suffix (field ++ suffix) docs) :
    p.2 = documentsWith field docs p.1 := by
  have hoccurs := mem_occurring_of_mem_valueCounts hs hp
  have hsame := Json.same_refl (isWellKeyed_of_mem_occurring hdocs hoccurs)
  rw [← countFor_eq_documentsWith hs hdocs hoccurs]
  exact (countFor_eq hsame (areDistinct_valueCounts _ _ _) hp).symm

/-- Each value that occurs is counted. -/
theorem exists_mem_valueCounts (hs : suffix ≠ "") (hdocs : ∀ d ∈ docs, d.isWellKeyed = true)
    {v : Json} (hv : v ∈ occurring field docs) :
    ∃ p ∈ valueCounts suffix (field ++ suffix) docs,
      v.same p.1 = true ∧ p.2 = documentsWith field docs v := by
  have hpos := documentsWith_pos hdocs hv
  rw [← countFor_eq_documentsWith hs hdocs hv] at hpos ⊢
  obtain ⟨p, hp, hsame, hn⟩ := exists_of_countFor_pos hpos
  have hkeyed := isWellKeyed_of_mem_occurring hdocs (mem_occurring_of_mem_valueCounts hs hp)
  exact ⟨p, hp, Json.same_symm hkeyed hsame, hn⟩

/-- No two of the counted values are the same, in either order. -/
theorem pairwise_valueCounts (hs : suffix ≠ "") (hdocs : ∀ d ∈ docs, d.isWellKeyed = true) :
    (valueCounts suffix (field ++ suffix) docs).Pairwise
      fun p q => ¬ p.1.same q.1 = true ∧ ¬ q.1.same p.1 = true := by
  refine (areDistinct_valueCounts suffix (field ++ suffix) docs).imp_of_mem fun _ hq hne => ?_
  have hkeyed := isWellKeyed_of_mem_occurring hdocs (mem_occurring_of_mem_valueCounts hs hq)
  exact ⟨hne, fun h => hne (Json.same_symm hkeyed h)⟩

/-- The values that a facet lists are those with the greatest numbers of documents. -/
theorem listsTop_topValues (hs : suffix ≠ "") (hdocs : ∀ d ∈ docs, d.isWellKeyed = true)
    {size : Nat} {counts : List (Json × Nat)}
    (htop : topValues? suffix (field ++ suffix) size docs = some counts) :
    ListsTop field docs size counts := by
  obtain ⟨sorted, hsort, rfl⟩ := topValues?_eq_some_iff.1 htop
  have hperm := perm_of_sortBy? hsort
  have hsorted := (follows_compareCounts _).pairwise hsort
  have htake := List.take_sublist size sorted
  constructor
  case distinct =>
    have hdistinct := (List.Perm.pairwise_iff (fun h => h.symm) hperm).2
      (pairwise_valueCounts hs hdocs)
    exact hdistinct.sublist htake
  case occurs =>
    intro p hp
    exact mem_occurring_of_mem_valueCounts hs (mem_valueCounts_of_mem_topValues? htop hp)
  case counted =>
    intro p hp
    exact count_eq_documentsWith hs hdocs (mem_valueCounts_of_mem_topValues? htop hp)
  case decreasing => exact hsorted.sublist htake
  case length_le => exact List.length_take_le _ _
  case complete =>
    intro hlt v hv
    obtain ⟨p, hp, hsame, -⟩ := exists_mem_valueCounts hs hdocs hv
    exact ⟨p, mem_topValues_of_length_lt htop hlt hp, hsame⟩
  case top =>
    intro _ v hv hnone p hp
    obtain ⟨q, hq, hsame, hn⟩ := exists_mem_valueCounts hs hdocs hv
    have hmem := hperm.mem_iff.2 hq
    -- What is not before the cut is behind it, after everything that is listed.
    rw [← List.take_append_drop size sorted] at hmem hsorted
    rcases List.mem_append.1 hmem with hq | hq
    · exact absurd hsame (hnone q hq)
    · rw [← hn]
      exact (List.pairwise_append.1 hsorted).2.2 p hp q hq

end Values

/-! ## Facets of a search -/

namespace Search

/-- The aggregation of a facet by value lists its top values, or it is broken off. -/
theorem aggregate_terms (suffix name field : String) (docs : List Json) :
    aggregate suffix name (FacetRequest.aggregation suffix ⟨field, .terms⟩) docs =
      (orPanic .noOrder (topValues? suffix (field ++ suffix) 10 docs)).map fun counts =>
        buckets (counts.map valueBucket) := by
  rw [aggregate_eq]
  unfold FacetRequest.buckets defaultTermsSize
  cases topValues? suffix (field ++ suffix) 10 docs <;> rfl

end Search

/-- Over any hits, the aggregation of a facet by value is answered with the ten values that the most
hits have, or it is broken off; and it is answered if twenty values occur at most, or if those with
one number are of one kind.  The response to a request has one facet for each field that the request
asks for, in the order of the request, and it has facets exactly if the request asks for one.
Documents are maps, and no key stands twice in a map. -/
theorem facets_listTop {suffix : String} (hs : Text.startsWith suffix "." = true) :
    (∀ (found : List Hit) (name field : String),
      (∀ h ∈ found, (Json.obj h.doc).isWellKeyed = true) →
      let docs := found.map fun h => Json.obj h.doc
      let answer :=
        Search.aggregate suffix name (FacetRequest.aggregation suffix ⟨field, .terms⟩) docs
      ((∃ counts, answer = .ok (Search.buckets (counts.map Search.valueBucket)) ∧
          ListsTop field docs 10 counts) ∨
        answer = .error (.panicked .noOrder)) ∧
      ((valueCounts suffix (field ++ suffix) docs).length ≤ 20 ∨
          (∀ n, Json.Uniform (valuesWith n (valueCounts suffix (field ++ suffix) docs))) →
        ∃ body, answer = .ok body)) ∧
    ∀ (indices : List (String × Documents)) (index : String) (r : SearchRequest)
      (maxLimit defaultLimit : Nat) (response : Response), r.check maxLimit = .ok () →
      SearchIndex.respond ⟨suffix, indices⟩ index r defaultLimit = .ok response →
      (r.facets.map FacetRequest.field).Nodup ∧
      response.facets.map (List.map Facet.name) =
        if r.facets = [] then none else some (r.facets.map FacetRequest.field) := by
  constructor
  · intro found name field hkeyed docs answer
    have hdocs : ∀ d ∈ docs, d.isWellKeyed = true := by
      intro d hd
      obtain ⟨h, hh, rfl⟩ := List.mem_map.1 hd
      exact hkeyed h hh
    have hanswer := Search.aggregate_terms suffix name field docs
    cases htop : topValues? suffix (field ++ suffix) 10 docs with
    | none =>
      rw [htop] at hanswer
      refine ⟨.inr hanswer, fun hsorted => ?_⟩
      obtain ⟨counts, hcounts⟩ := exists_topValues? 10 hsorted
      rw [htop] at hcounts
      cases hcounts
    | some counts =>
      rw [htop] at hanswer
      exact ⟨.inl ⟨counts, hanswer, listsTop_topValues (ne_empty_of_startsWith hs) hdocs htop⟩,
        fun _ => ⟨_, hanswer⟩⟩
  · intro indices index r maxLimit defaultLimit response hc hr
    have hnodup := SearchRequest.nodup_facets hc
    obtain ⟨docs, matched, -, -, hresponse⟩ := (SearchIndex.respond_eq_ok hnodup).1 hr
    obtain ⟨found, counts, -, hcounts, rfl⟩ := SearchRequest.responseTo_eq_ok.1 hresponse
    obtain ⟨hfacets, -⟩ := SearchRequest.facets_of_counted hcounts
    refine ⟨hnodup, ?_⟩
    rw [SearchRequest.shown, ← hfacets]
    by_cases he : counts = []
    · rw [he]
      rfl
    · have hne : ¬ counts.map Prod.fst = [] := mt List.map_eq_nil_iff.1 he
      rw [if_neg hne, if_neg (mt List.isEmpty_iff.1 hne), Option.map_some, List.map_map,
        List.map_map]
      rfl

/-- Tagged documents, of which the first has one tag in two cases: it counts once. -/
theorem facets_listTop_taggedItems :
    Text.startsWith ".raw" "." = true ∧ SearchIndex.tagsOfItems.check 100 = .ok () ∧
      ∃ counts response,
        Search.aggregate ".raw" "tags" (FacetRequest.aggregation ".raw" ⟨"meta.tag", .terms⟩)
            (SearchIndex.taggedItems.map fun p => .obj p.2) =
          .ok (Search.buckets (counts.map Search.valueBucket)) ∧
        ListsTop "meta.tag" (SearchIndex.taggedItems.map fun p => .obj p.2) 10 counts ∧
        SearchIndex.taggedIndex.respond "items" SearchIndex.tagsOfItems 10 = .ok response ∧
        response.facets.map (List.map Facet.name) = some ["meta.tag"] := by
  have hs : Text.startsWith ".raw" "." = true := by decide
  have hc : SearchIndex.tagsOfItems.check 100 = .ok () := rfl
  obtain ⟨htop, hfacets⟩ := facets_listTop hs
  obtain ⟨hlists, hanswered⟩ := htop
    (SearchIndex.taggedItems.map fun p => ⟨1.0, p.1, p.2⟩) "tags" "meta.tag" (by
      simp [SearchIndex.taggedItems, Json.isWellKeyed, Json.areWellKeyed, Json.fieldsAreWellKeyed,
        Assoc.keys])
  rw [List.map_map] at hlists hanswered
  obtain ⟨body, hbody⟩ := hanswered (.inl (by decide))
  obtain ⟨counts, hcounts, hlist⟩ := hlists.resolve_right fun he => by
    rw [hbody] at he
    cases he
  obtain ⟨response, hr⟩ : ∃ response,
      SearchIndex.taggedIndex.respond "items" SearchIndex.tagsOfItems 10 = .ok response := ⟨_, rfl⟩
  obtain ⟨-, hnames⟩ := hfacets _ "items" _ 100 10 response hc hr
  exact ⟨hs, hc, counts, response, hcounts, hlist, hr, hnames⟩

/-- Twenty texts and a number that occur once each: the aggregation of their facet is broken off. -/
theorem aggregate_mixedValues_brokenOff :
    Search.aggregate ".raw" "values" (FacetRequest.aggregation ".raw" ⟨"v", .terms⟩)
        ((SearchIndex.mixedItems.filter fun p => p.1 != "1").map fun p => .obj p.2) =
      .error (.panicked .noOrder) := rfl

end Polystore
