import Polystore.Proofs.Search.Paging

/-!
# Documents that are found

A document is found if some page of the hits shows it, whole and under its id.  A plain request for
whole documents that can be answered finds exactly those that meet it, whatever the size of its
pages:

    s.Finds index r defaultLimit n id doc ↔
      (id, doc) ∈ docs ∧ r.IsMetBy byEachTest s.suffix (.obj doc)             (finds_iff)
-/

namespace Polystore

namespace SearchIndex

/-- Some page of this size shows the document under this id. -/
def Finds (s : SearchIndex) (index : String) (r : SearchRequest) (defaultLimit n : Nat)
    (id : String) (doc : Record) : Prop :=
  ∃ offset answer, offset < Decimal.twoTo 63 ∧
    s.search index ((r.page n offset).body s.suffix defaultLimit) = .ok answer ∧
    ∃ hit ∈ answer.listAt ["hits", "hits"],
      hit.get? "_id" = some (.str id) ∧ documentOfHit hit = doc

variable {s : SearchIndex} {index : String} {docs : Documents} {r : SearchRequest}

/-- The hits of a plain request are found once and for all its pages. -/
theorem exists_hits (hs : Text.startsWith s.suffix "." = true)
    (hd : s.documents? index = some docs) (h : r.Plain)
    (hn : (r.facets.map FacetRequest.field).Nodup) (ha : s.Answerable index r) :
    ∃ found : List Hit,
      (∀ id doc, (∃ hit ∈ found, hit.id = id ∧ hit.doc = doc) ↔
        (id, doc) ∈ docs ∧ r.IsMetBy byEachTest s.suffix (.obj doc)) ∧
      found.length ≤ docs.length ∧
      ∀ n offset defaultLimit, ∃ answer,
        s.search index ((r.page n offset).body s.suffix defaultLimit) = .ok answer ∧
        Search.Shows index ((r.page n offset).body s.suffix defaultLimit) found
          (r.page n offset).start ((r.page n offset).size defaultLimit) answer := by
  obtain ⟨matched, hm, hfilter⟩ := Search.exists_hits_of_plain hs h docs
  obtain ⟨found, counts, hfound, hcounts⟩ := (ha.orderly hd hm).exists_found
  have hp : (found.map fun h => (h.id, h.doc)).Perm
      (docs.filter fun p => (r.toQuery s.suffix).holds s.suffix (.obj p.2)) := by
    rw [← hfilter]
    exact (SearchRequest.perm_of_arrange hfound).map _
  refine ⟨found, fun id doc => ?_, ?_, search_page hn hd hm hfound hcounts⟩
  · have hmem := hp.mem_iff (a := (id, doc))
    rw [List.mem_map, List.mem_filter, SearchRequest.holds_toQuery hs h] at hmem
    simpa only [Prod.mk.injEq] using hmem
  · have hl := hp.length_eq
    rw [List.length_map] at hl
    rw [hl]
    exact List.length_filter_le _ _

/-- A plain request for whole documents finds those that meet it. -/
theorem finds_iff (hs : Text.startsWith s.suffix "." = true)
    (hd : s.documents? index = some docs) (hfits : docs.length < Decimal.twoTo 63) (h : r.Plain)
    (hn : (r.facets.map FacetRequest.field).Nodup) (ha : s.Answerable index r)
    (hw : r.fields = []) {defaultLimit n : Nat}
    (hpos : 1 ≤ n) (hn64 : n < Decimal.twoTo 64) {id : String} {doc : Record} :
    s.Finds index r defaultLimit n id doc ↔
      (id, doc) ∈ docs ∧ r.IsMetBy byEachTest s.suffix (.obj doc) := by
  have h64 : Decimal.twoTo 63 < Decimal.twoTo 64 := by decide +kernel
  obtain ⟨found, hfound, hlength, hpages⟩ := exists_hits hs hd h hn ha
  have hpage : ∀ offset answer, offset < Decimal.twoTo 63 →
      s.search index ((r.page n offset).body s.suffix defaultLimit) = .ok answer →
      answer.listAt ["hits", "hits"] = ((found.drop offset).take n).map
        (Search.hitJson index ((r.page n offset).body s.suffix defaultLimit)) := by
    intro offset answer ho ha
    obtain ⟨answer', ha', hshows⟩ := hpages n offset defaultLimit
    obtain rfl : answer = answer' := Except.ok.inj (ha.symm.trans ha')
    rw [hshows.page, SearchRequest.start_page (Nat.lt_trans ho h64),
      SearchRequest.size_page hn64]
  have hshown : ∀ offset (hit : Hit),
      documentOfHit (Search.hitJson index ((r.page n offset).body s.suffix defaultLimit) hit) =
        hit.doc := by
    intro offset hit
    rw [Search.documentOfHit_hitJson, SearchRequest.project, if_pos]
    exact List.isEmpty_iff.2 hw
  rw [← hfound]
  constructor
  · rintro ⟨offset, answer, ho, ha, hit, hm, hid, hdoc⟩
    rw [hpage offset answer ho ha] at hm
    obtain ⟨g, hg, rfl⟩ := List.mem_map.1 hm
    rw [hshown] at hdoc
    refine ⟨g, List.mem_of_mem_drop (List.mem_of_mem_take hg), ?_, hdoc⟩
    exact Json.str.inj (Option.some.inj hid)
  · rintro ⟨g, hg, rfl, rfl⟩
    -- the page that starts with the hit shows it
    obtain ⟨i, hi, rfl⟩ := List.getElem_of_mem hg
    have ho : i < Decimal.twoTo 63 := Nat.lt_of_lt_of_le hi (by omega)
    obtain ⟨answer, ha, -⟩ := hpages n i defaultLimit
    refine ⟨i, answer, ho, ha, _, ?_, rfl, hshown i found[i]⟩
    rw [hpage i answer ho ha]
    refine List.mem_map_of_mem (List.mem_take_iff_getElem.2 ⟨0, ?_, ?_⟩)
    · rw [List.length_drop]
      omega
    · simp

end SearchIndex

/-! ## Requests with nothing but a filter -/

namespace SearchRequest

/-- The request for the documents that satisfy a filter. -/
def ofFilter (f : Filter) : SearchRequest := { empty with filters := some f }

variable {f : Filter}

theorem plain_ofFilter (hf : f.Sound) (he : f.NoEnd) : (ofFilter f).Plain := by
  refine ⟨?_, fun _ h => absurd h List.not_mem_nil, fun _ h => absurd h List.not_mem_nil⟩
  rintro _ ⟨⟩
  exact ⟨hf, he⟩

theorem isMetBy_ofFilter {reading : Reading} {suffix : String} {doc : Json} :
    (ofFilter f).IsMetBy reading suffix doc ↔ f.IsMetBy reading doc := by
  rw [SearchRequest.isMetBy_iff]
  simp [ofFilter, empty]

/-- The request can be answered. -/
theorem answerable_ofFilter (s : SearchIndex) (index : String) (f : Filter) :
    s.Answerable index (ofFilter f) := orderly_of_nil rfl rfl _ _

/-- A page of the request passes its check unless the filter asks for nothing. -/
theorem check_page_ofFilter (he : f.isEmpty = false) {maxLimit n : Nat} (hn : 1 ≤ n)
    (hmax : n ≤ maxLimit) (offset : Nat) :
    ((ofFilter f).page n offset).check maxLimit = .ok () := by
  refine check_page (check_eq_ok.2 ⟨by simp [ofFilter, empty], by simp [ofFilter, empty], ?_, rfl,
    by simp [ofFilter, empty]⟩) hn hmax
  rintro g ⟨⟩
  exact he

end SearchRequest

end Polystore
