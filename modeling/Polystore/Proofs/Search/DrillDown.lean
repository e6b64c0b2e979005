import Polystore.Proofs.Search.Counting
import Polystore.Proofs.Search.Narrowing
import Polystore.Proofs.Search.Orderly
import Polystore.Proofs.Text.Lowering

/-!
# Drilling down into a facet

A facet lists values with numbers of documents.  A caller who picks one of them searches again, for
the documents with that value.  The facet flattens the path of a dotted field, and the search looks
into each object at the path alone; both find the same values, so the number is kept.

    ⟨field, .terms⟩ ∈ r.facets → v ∈ facet.values →
      s.respond index (r.narrowed field (.scalar v.name)) defaultLimit = .ok response' →
        response'.count = v.count                                       (facet_drillDown)

There may be no second answer: without the documents that do not have the value, the others may not
come in an order any more.
-/

namespace Polystore

/-! ## Values of a facet -/

theorem FacetValue.ofBucket_valueBucket (p : Json × Nat) :
    FacetValue.ofBucket .terms (Search.valueBucket p) =
      ⟨p.1, ((Json.ofNat p.2).u64?).getD 0⟩ := by
  have hname : bucketName .terms (Search.valueBucket p) = p.1 := rfl
  have hcount : (Search.valueBucket p).get? "doc_count" = some (.ofNat p.2) := rfl
  rw [FacetValue.ofBucket, hname, hcount, Option.bind_some]

/-- A value of a facet by value stands for an item of the list of values. -/
theorem FacetRequest.mem_facet_terms {suffix field : String} {docs b : List Json} {v : FacetValue}
    (hb : FacetRequest.buckets ⟨field, .terms⟩ suffix (field ++ suffix) docs = .ok b)
    (h : v ∈ (FacetRequest.facet ⟨field, .terms⟩ b).values) :
    ∃ counts n, topValues? suffix (field ++ suffix) Search.defaultTermsSize docs = some counts ∧
      (v.name, n) ∈ counts ∧ v.count = ((Json.ofNat n).u64?).getD 0 := by
  obtain ⟨counts, htop, rfl⟩ := Outcome.map_eq_ok.1 hb
  obtain ⟨bucket, hbucket, rfl⟩ := List.mem_map.1 h
  obtain ⟨p, hm, rfl⟩ := List.mem_map.1 hbucket
  refine ⟨counts, p.2, Search.orPanic_eq_ok.1 htop, hm, ?_⟩
  rw [FacetValue.ofBucket_valueBucket]

/-- Of items with different names, each is the one with its name. -/
theorem find?_name {α : Type} (name : α → String) {items : List α}
    (hn : (items.map name).Nodup) {x : α} (hx : x ∈ items) :
    items.find? (fun y => name y == name x) = some x := by
  induction items with
  | nil => exact absurd hx List.not_mem_nil
  | cons y items ih =>
    obtain ⟨hy, hn⟩ := List.nodup_cons.1 hn
    rcases List.mem_cons.1 hx with rfl | hx
    · exact List.find?_cons_of_pos (beq_self_eq_true _)
    · have hne : ¬ (name y == name x) = true := fun he => by
        rw [beq_iff_eq.1 he] at hy
        exact hy (List.mem_map_of_mem hx)
      rw [List.find?_cons_of_neg (by simpa using hne), ih hn hx]

/-- A scalar that a facet lists is in lower case, and its number counts the documents in which it
passes the test of a filter. -/
theorem count_eq_countP_byEachTest {suffix field : String} (hs : suffix ≠ "") {docs : List Json}
    {k : Json} {n size : Nat} (hk : k.isScalar = true) {counts : List (Json × Nat)}
    (htop : topValues? suffix (field ++ suffix) size docs = some counts) (h : (k, n) ∈ counts) :
    n = docs.countP fun d => byEachTest (d.valuesAt field) (.scalar k) := by
  have hfold : k.fold = k := by
    obtain ⟨d, -, hm⟩ := mem_fieldValues_of_mem_topValues? htop h
    rw [fieldValues_append hs] at hm
    obtain ⟨v, -, rfl⟩ := List.mem_map.1 hm
    exact v.fold_fold
  rw [count_of_mem_topValues? htop hk h]
  refine List.countP_congr fun d _ => ?_
  rw [fieldValues_append hs, List.any_map, byEachTest, Criterion.tests, List.all_cons, List.all_nil,
    Bool.and_true, hfold]
  simp only [Function.comp_def, Json.same_comm hk]

/-! ## Responses -/

namespace SearchIndex

variable {s : SearchIndex} {index : String} {r : SearchRequest} {defaultLimit maxLimit : Nat}
  {response : Response} {field : String}

/-- A facet that was asked for is in the response. -/
theorem facet?_shown (hn : (r.facets.map FacetRequest.field).Nodup)
    {counts : List (FacetRequest × List Json)} (hcounts : counts.map Prod.fst = r.facets)
    {p : FacetRequest × List Json} (hp : p ∈ counts) (defaultLimit : Nat) (found : List Hit) :
    (r.shown defaultLimit found counts).facet? p.1.field = some (p.1.facet p.2) := by
  have hne : ¬ r.facets.isEmpty = true := fun he => by
    rw [← hcounts, List.isEmpty_iff, List.map_eq_nil_iff] at he
    rw [he] at hp
    exact List.not_mem_nil hp
  rw [Response.facet?, SearchRequest.shown, if_neg hne, Option.bind_some]
  rw [← hcounts, List.map_map] at hn
  rw [List.find?_map]
  exact congrArg (Option.map _) (find?_name (fun p : FacetRequest × List Json => p.1.field) hn hp)

/-- A request narrowed by a criterion finds those documents of the request that meet it. -/
theorem hits_narrowed {docs : Documents} {matched : List Hit} {c : Criterion}
    (hs : Text.startsWith s.suffix "." = true)
    (hm : Search.hits s.suffix (r.matcher s.suffix) docs = .ok matched)
    (hc : c.Sound) (he : c.NoEnd) (field : String) :
    ∃ narrowed, Search.hits s.suffix ((r.narrowed field c).matcher s.suffix) docs = .ok narrowed ∧
      narrowed.length = matched.countP fun h => byEachTest ((Json.obj h.doc).valuesAt field) c := by
  have hruns := Search.runs_of_hits hm
  have hdecides : ∀ p ∈ docs, ((r.narrowed field c).matcher s.suffix).Runs s.suffix (.obj p.2) ∧
      ((r.narrowed field c).matcher s.suffix).holds s.suffix (.obj p.2) =
        ((r.matcher s.suffix).holds s.suffix (.obj p.2) &&
          byEachTest ((Json.obj p.2).valuesAt field) c) := fun p hp =>
    Query.decides_eq_ok.1 (SearchRequest.decides_narrowed hs hc he field
      (Query.decides_eq_ok.2 ⟨hruns p hp, rfl⟩))
  obtain ⟨narrowed, hnarrowed, hfilter'⟩ := Search.hits_eq fun p hp => (hdecides p hp).1
  obtain ⟨_, hm', hfilter⟩ := Search.hits_eq hruns
  obtain rfl := Except.ok.inj (hm.symm.trans hm')
  refine ⟨narrowed, hnarrowed, ?_⟩
  calc narrowed.length
      = (narrowed.map fun h => (h.id, h.doc)).length := List.length_map _ |>.symm
    _ = (docs.filter fun p => byEachTest ((Json.obj p.2).valuesAt field) c &&
          (r.matcher s.suffix).holds s.suffix (.obj p.2)).length := by
        rw [hfilter']
        exact congrArg List.length (List.filter_congr fun p hp => by
          rw [(hdecides p hp).2, Bool.and_comm])
    _ = (matched.map fun h => (h.id, h.doc)).countP fun p =>
          byEachTest ((Json.obj p.2).valuesAt field) c := by
        rw [hfilter, List.countP_eq_length_filter, List.filter_filter]
    _ = matched.countP fun h => byEachTest ((Json.obj h.doc).valuesAt field) c := by
        rw [List.countP_map]
        rfl

/-- A caller who picks a scalar from a facet by value, and searches again for the documents with
that value, is told the number that stood in the facet, unless that search is broken off. -/
theorem facet_drillDown (hs : Text.startsWith s.suffix "." = true)
    (hc : r.check maxLimit = .ok ()) (hr : s.respond index r defaultLimit = .ok response)
    (hf : ⟨field, .terms⟩ ∈ r.facets) (hb : Text.isBlank field = false)
    (hn : field ∉ Assoc.keys (r.filters.getD .empty).entries) :
    ∃ facet, response.facet? field = some facet ∧
      ∀ v ∈ facet.values, v.name.isScalar = true →
        ∃ r', r.narrow field (.scalar v.name) = .ok r' ∧ r'.check maxLimit = .ok () ∧
          (∀ response', s.respond index r' defaultLimit = .ok response' →
            response'.count = v.count) ∧
          Search.OnlyPanics (s.respond index r' defaultLimit) ∧
          (s.Answerable index r' →
            ∃ response', s.respond index r' defaultLimit = .ok response') := by
  have hnodup := SearchRequest.nodup_facets hc
  obtain ⟨docs, matched, hd, hm, hresponse⟩ := (respond_eq_ok hnodup).1 hr
  obtain ⟨found, counts, hfound, hcounts, rfl⟩ := SearchRequest.responseTo_eq_ok.1 hresponse
  obtain ⟨hfacets, hbuckets⟩ := SearchRequest.facets_of_counted hcounts
  rw [← hfacets] at hf
  obtain ⟨⟨f, b⟩, hp, rfl⟩ := List.mem_map.1 hf
  refine ⟨_, facet?_shown hnodup hfacets hp _ _, fun v hv hscalar => ?_⟩
  obtain ⟨listed, n, htop, hlisted, hcount⟩ := FacetRequest.mem_facet_terms (hbuckets _ hp) hv
  obtain ⟨narrowed, hnarrowed, hlength⟩ := hits_narrowed hs hm (c := .scalar v.name) hscalar
    (by simp [Criterion.NoEnd, Criterion.affixes]) field
  have hresponse' := respond_of_hits (r := r.narrowed field (.scalar v.name)) hnodup hd hnarrowed
    defaultLimit
  refine ⟨_, SearchRequest.narrow_eq_ok hb hn _, SearchRequest.check_narrowed hc field _,
    fun response' hr' => ?_, ?_, fun ha => ?_⟩
  · have heq : n = narrowed.length := by
      rw [hlength, count_eq_countP_byEachTest (ne_empty_of_startsWith hs) hscalar htop hlisted,
        List.countP_map]
      exact (SearchRequest.perm_of_arrange hfound).countP_eq _
    rw [hresponse'] at hr'
    obtain ⟨found', _, hfound', -, rfl⟩ := SearchRequest.responseTo_eq_ok.1 hr'
    rw [SearchRequest.count_shown, SearchRequest.countOf,
      (SearchRequest.perm_of_arrange hfound').length_eq, hcount, heq]
  · rw [hresponse']
    exact SearchRequest.onlyPanics_responseTo _ _ _ _
  · exact Answerable.exists_respond (r := r.narrowed field (.scalar v.name)) hnodup hd hnarrowed ha
      defaultLimit

/-! ### A value inside nested objects -/

/-- Documents with tags inside objects, one of them with the same tag in two cases. -/
def taggedItems : Documents :=
  [("1", [("meta", .arr [.obj [("tag", .str "X")], .obj [("tag", .str "x")]])]),
    ("2", [("meta", .obj [("tag", .arr [.str "x", .str "y"])])]), ("3", [("tag", .str "x")])]

/-- An index of tagged documents. -/
def taggedIndex : SearchIndex := ⟨".raw", [("items", taggedItems)]⟩

/-- A request for all documents by their outer tag, with a facet of the tags inside objects. -/
def tagsOfItems : SearchRequest :=
  { SearchRequest.empty with facets := [⟨"meta.tag", .terms⟩], sort := [⟨"tag", .ascending⟩] }

theorem drillDown_of_tagsOfItems :
    Text.startsWith taggedIndex.suffix "." = true ∧ tagsOfItems.check 100 = .ok () ∧
      Text.isBlank "meta.tag" = false ∧
      ∃ response r' response', taggedIndex.respond "items" tagsOfItems 10 = .ok response ∧
        tagsOfItems.narrow "meta.tag" (.scalar (.str "x")) = .ok r' ∧
        taggedIndex.respond "items" r' 10 = .ok response' ∧
        response.count = 3 ∧ response'.count = 2 := by
  have hs : Text.startsWith taggedIndex.suffix "." = true := by decide
  have hc : tagsOfItems.check 100 = .ok () := rfl
  have hr : taggedIndex.respond "items" tagsOfItems 10 =
      .ok ⟨[[("tag", .str "x")],
        [("meta", .arr [.obj [("tag", .str "X")], .obj [("tag", .str "x")]])],
        [("meta", .obj [("tag", .arr [.str "x", .str "y"])])]], 3,
        some [⟨"meta.tag", [⟨.str "x", 2⟩, ⟨.str "y", 1⟩]⟩]⟩ := rfl
  have hb : Text.isBlank "meta.tag" = false := by decide
  obtain ⟨facet, hfacet, hall⟩ := facet_drillDown hs hc hr List.mem_cons_self hb (by decide)
  obtain rfl := Option.some.inj hfacet
  obtain ⟨r', hnarrow, -, hcount, -⟩ := hall ⟨.str "x", 2⟩ List.mem_cons_self rfl
  obtain rfl := Except.ok.inj hnarrow
  obtain ⟨response', hr'⟩ : ∃ response', taggedIndex.respond "items"
      (tagsOfItems.narrowed "meta.tag" (.scalar (.str "x"))) 10 = .ok response' := ⟨_, rfl⟩
  exact ⟨hs, hc, hb, _, _, response', hr, rfl, hr', rfl, hcount response' hr'⟩

/-! ### Texts and a number without an order -/

/-- A document of a kind with a value. -/
def itemOf (kind : String) (v : Json) : Record := [("kind", .str kind), ("v", v)]

/-- Documents of one kind with texts and a number, and one of another kind that stands between them:
no document comes before the one it follows. -/
def mixedItems : Documents :=
  (["b1", "b2", "b3", "b4", "b5", "b6", "b7", "b8", "b9", "z"].map fun s =>
      (s, itemOf "k" (.str s))) ++
    [("1", itemOf "other" (.ofNat 1))] ++
    (["m", "m1", "m2", "m3"].map fun s => (s, itemOf "k" (.str s))) ++
    [("0", itemOf "k" (.ofNat 0))] ++
    ["a1", "a2", "a3", "a4", "a5", "a6"].map fun s => (s, itemOf "k" (.str s))

/-- An index of these documents. -/
def mixedIndex : SearchIndex := ⟨".raw", [("items", mixedItems)]⟩

/-- A request for all of them by their values, with a facet of their kinds. -/
def kindsByValue : SearchRequest :=
  { SearchRequest.empty with
    facets := [⟨"kind", .terms⟩]
    sort := [⟨"v", .ascending⟩]
    limit := some 1
    fields := ["kind"] }

/-- The facet lists twenty-one documents of the kind, but the search for that kind is broken off
while it sorts them. -/
theorem drillDown_brokenOff :
    Text.startsWith mixedIndex.suffix "." = true ∧ kindsByValue.check 100 = .ok () ∧
      ∃ response facet r', mixedIndex.respond "items" kindsByValue 10 = .ok response ∧
        response.facet? "kind" = some facet ∧ ⟨.str "k", 21⟩ ∈ facet.values ∧
        kindsByValue.narrow "kind" (.scalar (.str "k")) = .ok r' ∧ r'.check 100 = .ok () ∧
        mixedIndex.respond "items" r' 10 = .error (.panicked .noOrder) := by
  have hr : mixedIndex.respond "items" kindsByValue 10 =
      .ok ⟨[[("kind", .str "k")]], 22,
        some [⟨"kind", [⟨.str "k", 21⟩, ⟨.str "other", 1⟩]⟩]⟩ := rfl
  have hr' : mixedIndex.respond "items"
      (kindsByValue.narrowed "kind" (.scalar (.str "k"))) 10 = .error (.panicked .noOrder) := rfl
  exact ⟨by decide, rfl, _, _, _, hr, rfl, List.mem_cons_self, rfl, rfl, hr'⟩

end SearchIndex

end Polystore
