import Polystore.Proofs.Search.Orderly

/-!
# Pages of a search

A request can be asked for page by page: a number of hits from an offset on.  The page is cut out of
the hits at the very end, so all pages tell the same total and the same facets, and put together
they hold each hit once, in an order that does not depend on the size of the pages.

    s.respond index (r.page n offset) defaultLimit =
      .ok ⟨the hits from the offset on, n at most, count, facets⟩             (respond_page)
    (List.range k).flatMap (fun i => (l.drop (i * n)).take n) = l.take (k * n) (flatMap_windows)
-/

namespace Polystore

/-! ## Windows of a list -/

section Windows

variable {α : Type}

/-- Consecutive windows of one size make up the start of a list. -/
theorem flatMap_windows (l : List α) (n k : Nat) :
    (List.range k).flatMap (fun i => (l.drop (i * n)).take n) = l.take (k * n) := by
  induction k with
  | zero => rw [Nat.zero_mul, List.take_zero]; rfl
  | succ k ih =>
    rw [List.range_succ, List.flatMap_append, ih, List.flatMap_singleton, Nat.succ_mul,
      List.take_add]

/-- As many windows as it takes make up the whole list. -/
theorem flatMap_windows_eq_self (l : List α) {n : Nat} (hn : 0 < n) :
    (List.range ((l.length + n - 1) / n)).flatMap (fun i => (l.drop (i * n)).take n) = l := by
  rw [flatMap_windows]
  refine List.take_of_length_le ?_
  have hdiv := Nat.div_add_mod (l.length + n - 1) n
  have hmod := Nat.mod_lt (l.length + n - 1) hn
  rw [Nat.mul_comm] at hdiv
  omega

/-- A window that is asked for starts before the end of the list. -/
theorem window_lt {length n i : Nat} (hi : i < (length + n - 1) / n) : i * n < length := by
  have hn : 0 < n := by
    rcases Nat.eq_zero_or_pos n with rfl | hn
    · rw [Nat.div_zero] at hi
      exact absurd hi (Nat.not_lt_zero i)
    · exact hn
  have hle := (Nat.le_div_iff_mul_le hn).1 hi
  rw [Nat.succ_mul] at hle
  omega

end Windows

/-- A step that succeeds on every item of a list succeeds on the list. -/
theorem Outcome.mapM_eq_ok {ε α β : Type} {f : α → Except ε β} {g : α → β} {l : List α}
    (h : ∀ a ∈ l, f a = .ok (g a)) : l.mapM f = .ok (l.map g) := by
  induction l with
  | nil => rfl
  | cons a l ih =>
    obtain ⟨ha, hl⟩ := List.forall_mem_cons.1 h
    rw [List.mapM_cons, ha, ih hl]
    rfl

/-! ## Pages of a request -/

namespace SearchRequest

/-- The request for one page: a number of hits from an offset on. -/
def page (r : SearchRequest) (limit offset : Nat) : SearchRequest :=
  { r with limit := some limit, offset := some offset }

variable {r : SearchRequest} {n offset : Nat}

theorem start_page (h : offset < Decimal.twoTo 64) : (r.page n offset).start = offset := by
  show ((Json.ofNat offset).u64?).getD 0 = offset
  rw [Json.u64?_ofNat h, Option.getD_some]

theorem size_page (h : n < Decimal.twoTo 64) (defaultLimit : Nat) :
    (r.page n offset).size defaultLimit = n := by
  have hw : wrapU64 n = n := by
    rw [wrapU64_of_lt (Int.natCast_nonneg n) (Int.ofNat_lt.2 h), Int.toNat_natCast]
  have hl : (r.page n offset).limit = some (n : Int) := rfl
  rw [size, hl, Option.map_some, Option.getD_some, hw, Json.u64?_ofNat h, Option.getD_some]

/-- A page within the bounds passes the check if the request does. -/
theorem check_page {maxLimit : Nat} (h : r.check maxLimit = .ok ()) (hn : 1 ≤ n)
    (hmax : n ≤ maxLimit) : (r.page n offset).check maxLimit = .ok () := by
  obtain ⟨-, -, hfilters, hfacets, hquery⟩ := check_eq_ok.1 h
  refine check_eq_ok.2 ⟨?_, ?_, hfilters, hfacets, hquery⟩
  · rintro _ ⟨⟩
    exact ⟨Int.natCast_pos.2 hn, Int.ofNat_le.2 hmax⟩
  · rintro _ ⟨⟩
    exact Int.natCast_nonneg offset

theorem countOf_eq_length {found : List Hit} (h : found.length < Decimal.twoTo 64) :
    countOf found = found.length := by
  rw [countOf, Json.u64?_ofNat h, Option.getD_some]

/-- A page of a request shows the same hits and facets, and differs in its records only. -/
theorem shown_page (defaultLimit : Nat) (found : List Hit)
    (counts : List (FacetRequest × List Json)) (hn : n < Decimal.twoTo 64)
    (ho : offset < Decimal.twoTo 64) :
    (r.page n offset).shown defaultLimit found counts =
      { r.shown defaultLimit found counts with
        records := ((found.drop offset).take n).map fun h => r.project h.doc } := by
  have hproject : (r.page n offset).project = r.project := rfl
  have hfacets : (r.page n offset).facets = r.facets := rfl
  rw [shown, shown, start_page ho, size_page hn, hproject, hfacets]

end SearchRequest

/-! ## Searching page by page -/

namespace SearchIndex

variable {s : SearchIndex} {index : String} {r : SearchRequest} {defaultLimit n offset : Nat}

/-- The hits of a request are found, put in order and counted once and for all its pages. -/
theorem exists_found {response : Response} {docs : Documents}
    (hd : s.documents? index = some docs) (hn : (r.facets.map FacetRequest.field).Nodup)
    (hr : s.respond index r defaultLimit = .ok response) :
    ∃ (found : List Hit) (counts : List (FacetRequest × List Json)),
      (found.map fun h => (h.id, h.doc)).Perm
        (docs.filter fun p => (r.matcher s.suffix).holds s.suffix (.obj p.2)) ∧
      r.shown defaultLimit found counts = response ∧
      ∀ n offset, s.respond index (r.page n offset) defaultLimit =
        .ok ((r.page n offset).shown defaultLimit found counts) := by
  obtain ⟨docs', matched, hd', hm, hresponse⟩ := (respond_eq_ok hn).1 hr
  obtain rfl : docs = docs' := Option.some.inj (hd.symm.trans hd')
  obtain ⟨matched', hm', hfilter⟩ := Search.hits_eq (Search.runs_of_hits hm)
  obtain rfl : matched = matched' := Except.ok.inj (hm.symm.trans hm')
  obtain ⟨found, counts, hfound, hcounts, hshown⟩ := SearchRequest.responseTo_eq_ok.1 hresponse
  refine ⟨found, counts, ?_, hshown, fun n offset => ?_⟩
  · rw [← hfilter]
    exact (SearchRequest.perm_of_arrange hfound).map _
  · exact (respond_eq_ok (r := r.page n offset) hn).2 ⟨docs, matched, hd, hm,
      SearchRequest.responseTo_eq_ok.2 ⟨found, counts, hfound, hcounts, rfl⟩⟩

/-- The answer to a page shows its part of the hits. -/
theorem search_page {docs : Documents} {matched found : List Hit}
    {counts : List (FacetRequest × List Json)} (hn : (r.facets.map FacetRequest.field).Nodup)
    (hd : s.documents? index = some docs)
    (hm : Search.hits s.suffix (r.matcher s.suffix) docs = .ok matched)
    (hfound : r.arrange s.suffix matched = .ok found)
    (hcounts : r.counted s.suffix (found.map fun h => .obj h.doc) = .ok counts) (n offset : Nat)
    (defaultLimit : Nat) : ∃ answer,
    s.search index ((r.page n offset).body s.suffix defaultLimit) = .ok answer ∧
    Search.Shows index ((r.page n offset).body s.suffix defaultLimit) found
      (r.page n offset).start ((r.page n offset).size defaultLimit) answer := by
  rw [search_of_hits (r := r.page n offset) hn hd hm]
  exact ⟨_, Search.answerTo_eq_ok.2 ⟨found, counts, hfound, hcounts, rfl⟩,
    Search.shows_body _ _ _ _ _ _⟩

/-- A request that is answered can be read page by page.  Every page tells the number of all hits
and the facets of the request, the page at an offset holds the hits from there on up to its size,
and the pages that cover the hits hold each of them once, in one order for all sizes.  Sizes,
offsets and numbers of hits are those of 64 bits. -/
theorem pages_partition {docs : Documents} {maxLimit : Nat} {response : Response}
    (hd : s.documents? index = some docs) (hfits : docs.length < Decimal.twoTo 64)
    (hmax : maxLimit < Decimal.twoTo 64) (hc : r.check maxLimit = .ok ())
    (hr : s.respond index r defaultLimit = .ok response) :
    ∃ found : Documents,
      found.Perm (docs.filter fun p => (r.matcher s.suffix).holds s.suffix (.obj p.2)) ∧
      response.count = found.length ∧
      ∀ n, 1 ≤ n → n ≤ maxLimit →
        (∀ offset, offset < Decimal.twoTo 64 →
          (r.page n offset).check maxLimit = .ok () ∧
          ∃ page, s.respond index (r.page n offset) defaultLimit = .ok page ∧
            page.count = response.count ∧ page.facets = response.facets ∧
            page.records = ((found.drop offset).take n).map (fun p => r.project p.2) ∧
            page.records.length = min n (page.count - offset)) ∧
        ∃ pages,
          (List.range ((found.length + n - 1) / n)).mapM
            (fun i => s.respond index (r.page n (i * n)) defaultLimit) = .ok pages ∧
          pages.flatMap Response.records = found.map fun p => r.project p.2 := by
  obtain ⟨found, counts, hp, hresponse, hpage⟩ :=
    exists_found hd (SearchRequest.nodup_facets hc) hr
  have hlength : found.length < Decimal.twoTo 64 := by
    have hle := List.length_filter_le
      (fun p : String × Record => (r.matcher s.suffix).holds s.suffix (.obj p.2)) docs
    rw [← hp.length_eq, List.length_map] at hle
    exact Nat.lt_of_le_of_lt hle hfits
  have hcount : response.count = found.length := by
    rw [← hresponse, SearchRequest.count_shown, SearchRequest.countOf_eq_length hlength]
  have hrecords : ∀ l : List Hit, l.map (fun h => r.project h.doc) =
      (l.map fun h => (h.id, h.doc)).map fun p => r.project p.2 := by
    intro l
    rw [List.map_map]
    rfl
  refine ⟨found.map fun h => (h.id, h.doc), hp, by rw [hcount, List.length_map],
    fun n hn hle => ?_⟩
  have hn64 : n < Decimal.twoTo 64 := Nat.lt_of_le_of_lt hle hmax
  constructor
  · intro offset ho
    refine ⟨SearchRequest.check_page hc hn hle, _, hpage n offset, ?_⟩
    rw [SearchRequest.shown_page _ _ _ hn64 ho, hresponse]
    refine ⟨rfl, rfl, ?_, ?_⟩
    · rw [hrecords, List.map_take, List.map_drop]
    · rw [hcount, List.length_map, List.length_take, List.length_drop]
  · have hall : ∀ i ∈ List.range ((found.length + n - 1) / n),
        s.respond index (r.page n (i * n)) defaultLimit =
          .ok { response with
            records := ((found.drop (i * n)).take n).map fun h => r.project h.doc } := by
      intro i hi
      have hlt := window_lt (List.mem_range.1 hi)
      rw [hpage, SearchRequest.shown_page _ _ _ hn64 (Nat.lt_trans hlt hlength), hresponse]
    rw [List.length_map]
    refine ⟨_, Outcome.mapM_eq_ok hall, ?_⟩
    rw [List.flatMap_map, ← hrecords, ← List.map_flatMap, flatMap_windows_eq_self found hn]

/-! ### Three hits on two pages -/

/-- Four documents of two kinds, one of them without a number. -/
def fourItems : Documents :=
  [("1", [("kind", .str "a"), ("n", .ofNat 3)]), ("2", [("kind", .str "b"), ("n", .ofNat 1)]),
    ("3", [("kind", .str "A"), ("n", .ofNat 2)]), ("4", [("kind", .str "a")])]

/-- An index of four documents. -/
def itemIndex : SearchIndex := ⟨".raw", [("items", fourItems)]⟩

/-- A request for the documents of one kind by their number, with a facet. -/
def itemsOfKind : SearchRequest :=
  { SearchRequest.empty with
    filters := some ⟨[("kind", .scalar (.str "a"))], []⟩
    facets := [⟨"kind", .terms⟩]
    sort := [⟨"n", .ascending⟩]
    fields := ["n"] }

theorem pages_of_itemsOfKind :
    itemIndex.documents? "items" = some fourItems ∧ itemsOfKind.check 100 = .ok () ∧
      ∃ pages, [0, 2].mapM
          (fun offset => itemIndex.respond "items" (itemsOfKind.page 2 offset) 10) = .ok pages ∧
        (pages.flatMap Response.records).length = 3 := by
  have hd : itemIndex.documents? "items" = some fourItems := rfl
  have hc : itemsOfKind.check 100 = .ok () := rfl
  obtain ⟨response, hr⟩ :
      ∃ response, itemIndex.respond "items" itemsOfKind 10 = .ok response := ⟨_, rfl⟩
  obtain ⟨found, hp, -, hpages⟩ := pages_partition hd (by decide) (by decide) hc hr
  have hlength : found.length = 3 := hp.length_eq.trans (by decide +kernel)
  obtain ⟨-, pages, hm, hrecords⟩ := hpages 2 (by decide) (by decide)
  rw [hlength] at hm
  refine ⟨hd, hc, pages, ?_, ?_⟩
  · have hoffsets : [0, 2] = (List.range ((3 + 2 - 1) / 2)).map (· * 2) := by decide
    rw [hoffsets, List.mapM_map]
    exact hm
  · rw [hrecords, List.length_map, hlength]

end SearchIndex

end Polystore
