import Polystore.Proofs.Json.Order
import Polystore.Proofs.Search.Weights

/-!
# The order of a sorted search

A request with sort keys returns its hits in the order of the keys: the first key that tells two
documents apart decides, upwards or downwards, and a document without a value for it comes after
one with a value in both directions.  Documents that no key tells apart keep the order of the
index.  All of this is said of the values in the documents (`SortKey.Before`); the comparison of the
search is the same relation,

    Precedes a b keys ↔ compareByKeys suffix (keys.map (·.named suffix)) a b = .lt
                                                                                (precedes_iff)

and it puts documents in order whose values for each key are of one kind.

    OneKind (matching.filterMap k.value?) for every key k →
      the pages of every size hold `found`, and `Ordered r.sort matching found`  (pages_ordered)
-/

namespace Polystore

open Json (OneKind)

/-! ## Specification -/

namespace SortKey

/-- The value that a document is sorted by: the first one of the field, in lower case. -/
def value? (k : SortKey) (doc : Record) : Option Json :=
  ((Json.obj doc).valuesAt k.field).head?.map Json.fold

/-- Does the key put the first document before the second? -/
inductive Before (k : SortKey) (a b : Record) : Prop
  | ascending {v w : Json} : k.direction = .ascending → k.value? a = some v → k.value? b = some w →
      v.Less w → Before k a b
  | descending {v w : Json} : k.direction = .descending → k.value? a = some v →
      k.value? b = some w → w.Less v → Before k a b
  | missing {v : Json} : k.value? a = some v → k.value? b = none → Before k a b

/-- The key puts neither document before the other. -/
def Tied (k : SortKey) (a b : Record) : Prop := ¬ k.Before a b ∧ ¬ k.Before b a

end SortKey

/-- The lexicographic order of documents: the first key that does not leave them tied decides. -/
inductive Precedes (a b : Record) : List SortKey → Prop
  | head {k : SortKey} {ks : List SortKey} : k.Before a b → Precedes a b (k :: ks)
  | tail {k : SortKey} {ks : List SortKey} : k.Tied a b → Precedes a b ks → Precedes a b (k :: ks)

/-- The documents in the order of some keys; those that all keys leave tied keep their order. -/
structure Ordered (keys : List SortKey) (docs found : Documents) : Prop where
  perm : found.Perm docs
  sorted : found.Pairwise fun p q => ¬ Precedes q.2 p.2 keys
  stable : ∀ among : String × Record → Bool,
    (∀ p ∈ docs, ∀ q ∈ docs, among p = true → among q = true → ∀ k ∈ keys, k.Tied p.2 q.2) →
    found.filter among = docs.filter among

/-! ## The comparison of a search -/

section Comparison

variable {suffix : String}

/-- The key as the index is told it: the name of a field, and whether it descends. -/
def SortKey.named (suffix : String) (k : SortKey) : String × Bool :=
  (k.field ++ suffix, k.direction == .descending)

theorem SearchRequest.sortFields_eq (r : SearchRequest) (suffix : String) :
    r.sortFields suffix = r.sort.map (SortKey.named suffix) := rfl

theorem sortValue?_named (hs : suffix ≠ "") (k : SortKey) (doc : Record) :
    Search.sortValue? suffix (k.named suffix).1 doc = k.value? doc := by
  rw [Search.sortValue?, SortKey.named, fieldValues_append hs, List.head?_map]
  rfl

/-- One key compares as it says. -/
theorem before_iff (k : SortKey) (a b : Record) :
    k.Before a b ↔
      Search.compareValues (k.direction == .descending) (k.value? a) (k.value? b) = .lt := by
  constructor
  · rintro (⟨hd, ha, hb, h⟩ | ⟨hd, ha, hb, h⟩ | ⟨ha, hb⟩)
    · rw [hd, ha, hb, Search.compareValues, Json.less_iff.1 h]
      rfl
    · rw [hd, ha, hb, Search.compareValues, Json.greater_iff.1 h]
      rfl
    · rw [ha, hb]
      rfl
  · intro h
    cases ha : k.value? a with
    | none => cases hb : k.value? b <;> rw [ha, hb] at h <;> cases h
    | some v =>
      cases hb : k.value? b with
      | none => exact .missing ha hb
      | some w =>
        rw [ha, hb, Search.compareValues_some] at h
        cases hd : k.direction with
        | ascending =>
          rw [hd] at h
          exact .ascending hd ha hb (Json.less_iff.2 (Json.compare?_eq_of_compareOrTie h))
        | descending =>
          rw [hd] at h
          exact .descending hd ha hb (Json.less_iff.2 (Json.compare?_eq_of_compareOrTie h))

theorem tied_iff (k : SortKey) (a b : Record) :
    k.Tied a b ↔
      Search.compareValues (k.direction == .descending) (k.value? a) (k.value? b) = .eq := by
  rw [SortKey.Tied, before_iff, before_iff, Search.compareValues_swap _ (k.value? b)]
  cases Search.compareValues (k.direction == .descending) (k.value? a) (k.value? b) <;> simp

/-- The keys compare lexicographically. -/
theorem precedes_iff (hs : suffix ≠ "") (keys : List SortKey) (a b : Record) :
    Precedes a b keys ↔
      Search.compareByKeys suffix (keys.map (SortKey.named suffix)) a b = .lt := by
  induction keys with
  | nil =>
    constructor
    · rintro ⟨⟩
    · rintro ⟨⟩
  | cons k keys ih =>
    rw [List.map_cons, Search.compareByKeys, sortValue?_named hs, sortValue?_named hs,
      Ordering.then_eq_lt, ← ih]
    show _ ↔ Search.compareValues (k.direction == .descending) _ _ = .lt ∨
      Search.compareValues (k.direction == .descending) _ _ = .eq ∧ _
    rw [← before_iff, ← tied_iff]
    constructor
    · rintro (h | ⟨ht, h⟩)
      · exact .inl h
      · exact .inr ⟨ht, h⟩
    · rintro (h | ⟨ht, h⟩)
      · exact .head h
      · exact .tail ht h

/-- Documents that every key leaves tied are not told apart. -/
theorem not_precedes_of_tied {keys : List SortKey} {a b : Record}
    (h : ∀ k ∈ keys, k.Tied a b) : ¬ Precedes a b keys := by
  induction keys with
  | nil => rintro ⟨⟩
  | cons k keys ih =>
    obtain ⟨hk, hkeys⟩ := List.forall_mem_cons.1 h
    rintro (hb | ⟨-, hp⟩)
    · exact hk.1 hb
    · exact ih hkeys hp

/-- Values of one kind for each key make the comparison transitive. -/
theorem isTransOn_keys (hs : suffix ≠ "") {keys : List SortKey} {docs : Documents}
    (hkinds : ∀ k ∈ keys, OneKind (docs.filterMap fun p => k.value? p.2)) :
    IsTransOn (Search.compareByKeys suffix (keys.map (SortKey.named suffix)))
      (docs.map Prod.snd) := by
  refine Search.isTransOn_compareByKeys fun key hkey => ?_
  obtain ⟨k, hk, rfl⟩ := List.mem_map.1 hkey
  have hvalues : (Search.sortValue? suffix (k.named suffix).1) ∘ Prod.snd =
      fun p : String × Record => k.value? p.2 := funext fun p => sortValue?_named hs k p.2
  rw [List.filterMap_map, hvalues]
  exact (hkinds k hk).uniform

theorem not_precedes_iff (hs : suffix ≠ "") (keys : List SortKey) (a b : Record) :
    ¬ Precedes b a keys ↔
      (Search.compareByKeys suffix (keys.map (SortKey.named suffix)) a b).isLE = true := by
  rw [precedes_iff hs, Search.compareByKeys_swap]
  cases Search.compareByKeys suffix (keys.map (SortKey.named suffix)) a b <;> simp

/-- Sorting by the comparison puts documents with values of one kind in the order of the keys. -/
theorem ordered_of_sortBy? (hs : suffix ≠ "") {keys : List SortKey} {docs sorted : Documents}
    (hkinds : ∀ k ∈ keys, OneKind (docs.filterMap fun p => k.value? p.2))
    (hsorted : sortBy? (fun p q : String × Record =>
      Search.compareByKeys suffix (keys.map (SortKey.named suffix)) p.2 q.2) docs = some sorted) :
    Ordered keys docs sorted := by
  have htrans := isTransOn_keys hs hkinds
  have hmem : ∀ {p : String × Record}, p ∈ docs → p.2 ∈ docs.map Prod.snd :=
    fun hp => List.mem_map_of_mem hp
  have hfollows : Follows (fun p q : String × Record => ¬ Precedes q.2 p.2 keys)
      (fun p q => Search.compareByKeys suffix (keys.map (SortKey.named suffix)) p.2 q.2) docs := by
    constructor
    case of_lt =>
      intro p _ q _ hlt
      rw [not_precedes_iff hs, hlt]
      rfl
    case of_ne_lt =>
      intro p _ q _ hne
      rwa [precedes_iff hs]
    case trans =>
      intro p hp q hq t ht hpq hqt
      rw [not_precedes_iff hs] at hpq hqt ⊢
      exact htrans p.2 (hmem hp) q.2 (hmem hq) t.2 (hmem ht) hpq hqt
  have horiented : Std.OrientedCmp fun p q : String × Record =>
      Search.compareByKeys suffix (keys.map (SortKey.named suffix)) p.2 q.2 :=
    ⟨Search.compareByKeys_swap suffix _ _ _⟩
  have htransOn : IsTransOn (fun p q : String × Record =>
      Search.compareByKeys suffix (keys.map (SortKey.named suffix)) p.2 q.2) docs :=
    fun p hp q hq t ht => htrans p.2 (hmem hp) q.2 (hmem hq) t.2 (hmem ht)
  refine ⟨perm_of_sortBy? hsorted, hfollows.pairwise hsorted, fun among htied => ?_⟩
  rw [htransOn.sortBy?, Option.some.injEq] at hsorted
  rw [← hsorted]
  refine htransOn.filter_sortBy fun p hp q hq hap haq => ?_
  rw [Ne, ← precedes_iff hs]
  exact not_precedes_of_tied (htied p hp q hq hap haq)

end Comparison

/-! ## Pages -/

namespace SearchIndex

variable {s : SearchIndex} {index : String} {r : SearchRequest} {defaultLimit n : Nat}

/-- Pages of one size cover the hits. -/
theorem exists_pages {found : List Hit} {counts : List (FacetRequest × List Json)}
    (hlength : found.length < Decimal.twoTo 64)
    (hpage : ∀ n offset, s.respond index (r.page n offset) defaultLimit =
      .ok ((r.page n offset).shown defaultLimit found counts))
    (hn : 0 < n) (hn64 : n < Decimal.twoTo 64) :
    ∃ pages,
      (List.range ((found.length + n - 1) / n)).mapM
        (fun i => s.respond index (r.page n (i * n)) defaultLimit) = .ok pages ∧
      pages.flatMap Response.records = found.map fun h => r.project h.doc := by
  have hall : ∀ i ∈ List.range ((found.length + n - 1) / n),
      s.respond index (r.page n (i * n)) defaultLimit =
        .ok { r.shown defaultLimit found counts with
          records := ((found.drop (i * n)).take n).map fun h => r.project h.doc } := by
    intro i hi
    have hlt := window_lt (List.mem_range.1 hi)
    rw [hpage, SearchRequest.shown_page _ _ _ hn64 (Nat.lt_trans hlt hlength)]
  refine ⟨_, Outcome.mapM_eq_ok hall, ?_⟩
  rw [List.flatMap_map, ← List.map_flatMap, flatMap_windows_eq_self found hn]

/-- A request with sort keys finds the documents that match in the order of its keys: the pages of
every size, one after the other, hold them in that order.  For each key the values of the documents
are of one kind; sizes and numbers of hits are those of 64 bits. -/
theorem pages_ordered {docs : Documents} {maxLimit : Nat} {response : Response}
    (hs : Text.startsWith s.suffix "." = true) (hd : s.documents? index = some docs)
    (hfits : docs.length < Decimal.twoTo 64) (hmax : maxLimit < Decimal.twoTo 64)
    (hc : r.check maxLimit = .ok ()) (hsort : r.sort ≠ [])
    (hr : s.respond index r defaultLimit = .ok response)
    (hkinds : ∀ k ∈ r.sort, OneKind
      ((docs.filter fun p => (r.matcher s.suffix).holds s.suffix (.obj p.2)).filterMap
        fun p => k.value? p.2)) :
    ∃ found : Documents,
      Ordered r.sort (docs.filter fun p => (r.matcher s.suffix).holds s.suffix (.obj p.2)) found ∧
      response.count = found.length ∧
      ∀ n, 1 ≤ n → n ≤ maxLimit → ∃ pages,
        (List.range ((found.length + n - 1) / n)).mapM
          (fun i => s.respond index (r.page n (i * n)) defaultLimit) = .ok pages ∧
        pages.flatMap Response.records = found.map fun p => r.project p.2 := by
  have hnodup := SearchRequest.nodup_facets hc
  obtain ⟨docs', matched, hd', hm, hresponse⟩ := (respond_eq_ok hnodup).1 hr
  obtain rfl : docs = docs' := Option.some.inj (hd.symm.trans hd')
  obtain ⟨matched', hm', hfilter⟩ := Search.hits_eq (Search.runs_of_hits hm)
  obtain rfl : matched = matched' := Except.ok.inj (hm.symm.trans hm')
  obtain ⟨found, counts, hfound, hcounts, rfl⟩ := SearchRequest.responseTo_eq_ok.1 hresponse
  have hlength : found.length < Decimal.twoTo 64 := by
    have hle := List.length_filter_le
      (fun p : String × Record => (r.matcher s.suffix).holds s.suffix (.obj p.2)) docs
    rw [← hfilter, List.length_map, ← (SearchRequest.perm_of_arrange hfound).length_eq] at hle
    exact Nat.lt_of_le_of_lt hle hfits
  have hpage : ∀ n offset, s.respond index (r.page n offset) defaultLimit =
      .ok ((r.page n offset).shown defaultLimit found counts) := fun n offset =>
    (respond_eq_ok (r := r.page n offset) hnodup).2 ⟨docs, matched, hd, hm,
      SearchRequest.responseTo_eq_ok.2 ⟨found, counts, hfound, hcounts, rfl⟩⟩
  refine ⟨found.map fun h => (h.id, h.doc), ?_, ?_, fun n hn hle => ?_⟩
  · have hsorted := SearchRequest.documents_arrange_of_sort r s.suffix hsort matched
    rw [hfound, hfilter, SearchRequest.sortFields_eq] at hsorted
    exact ordered_of_sortBy? (ne_empty_of_startsWith hs) hkinds
      (Search.orPanic_eq_ok.1 hsorted.symm)
  · rw [SearchRequest.count_shown, SearchRequest.countOf_eq_length hlength, List.length_map]
  · rw [List.length_map, List.map_map]
    exact exists_pages hlength hpage hn (Nat.lt_of_le_of_lt hle hmax)

/-! ### Two keys -/

/-- A request for all documents by their kind downwards, and by their number upwards. -/
def itemsByKind : SearchRequest :=
  { SearchRequest.empty with sort := [⟨"kind", .descending⟩, ⟨"n", .ascending⟩] }

theorem pages_ordered_itemsByKind :
    itemIndex.documents? "items" = some fourItems ∧ itemsByKind.check 100 = .ok () ∧
      (∀ k ∈ itemsByKind.sort, OneKind (fourItems.filterMap fun p => k.value? p.2)) ∧
      ∃ found, Ordered itemsByKind.sort fourItems found ∧ ∃ pages,
        [0, 3].mapM (fun offset => itemIndex.respond "items" (itemsByKind.page 3 offset) 10) =
          .ok pages ∧
        pages.flatMap Response.records = found.map Prod.snd := by
  have hd : itemIndex.documents? "items" = some fourItems := rfl
  have hc : itemsByKind.check 100 = .ok () := rfl
  have hr : itemIndex.respond "items" itemsByKind 10 =
      .ok ⟨[[("kind", .str "b"), ("n", .ofNat 1)], [("kind", .str "A"), ("n", .ofNat 2)],
        [("kind", .str "a"), ("n", .ofNat 3)], [("kind", .str "a")]], 4, none⟩ := rfl
  have hmatching : (fourItems.filter fun p =>
      (itemsByKind.matcher itemIndex.suffix).holds itemIndex.suffix (.obj p.2)) = fourItems := rfl
  have hkinds : ∀ k ∈ itemsByKind.sort, OneKind (fourItems.filterMap fun p => k.value? p.2) := by
    refine List.forall_mem_cons.2 ⟨?_, List.forall_mem_cons.2 ⟨?_, by simp⟩⟩
    · have hvalues : (fourItems.filterMap fun p => SortKey.value? ⟨"kind", .descending⟩ p.2) =
          [.str "a", .str "b", .str "a", .str "a"] := rfl
      rw [hvalues]
      exact .strs (by simp)
    · have hvalues : (fourItems.filterMap fun p => SortKey.value? ⟨"n", .ascending⟩ p.2) =
          [.ofNat 3, .ofNat 1, .ofNat 2] := rfl
      rw [hvalues]
      exact .nums (by simp [Json.ofNat])
  obtain ⟨found, hordered, -, hpages⟩ :=
    pages_ordered (by decide) hd (by decide) (by decide) hc (by decide) hr
      (by rw [hmatching]; exact hkinds)
  rw [hmatching] at hordered
  obtain ⟨pages, hm, hrecords⟩ := hpages 3 (by decide) (by decide)
  have hlength : found.length = 4 := hordered.perm.length_eq
  rw [hlength] at hm
  refine ⟨hd, hc, hkinds, found, hordered, pages, ?_, hrecords⟩
  have hoffsets : [0, 3] = (List.range ((4 + 3 - 1) / 3)).map (· * 3) := by decide
  rw [hoffsets, List.mapM_map]
  exact hm

end SearchIndex

end Polystore
