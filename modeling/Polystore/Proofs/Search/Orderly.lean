import Polystore.Proofs.Search.Comparators
import Polystore.Proofs.Search.Counting
import Polystore.Proofs.Search.Days
import Polystore.Proofs.Search.Response

/-!
# Searches that are not broken off

Once its query is evaluated, a search can be broken off in three places: where it puts the hits in
the order of the sort keys, where it puts the values of a facet in the order of their numbers, and
where it lists days.  Hits can be put in order if the values of each sort key are of one kind, or if
there are twenty of them at most, and so can the values of a facet.  Days can be listed if all
instants are in the range of 64 bits.

    r.Orderly suffix (matched.map Hit.doc) →
      ∃ response, r.responseTo suffix defaultLimit matched = .ok response
                                                                      (Orderly.exists_responseTo)
    Search.OnlyPanics (r.responseTo suffix defaultLimit matched)            (onlyPanics_responseTo)
-/

namespace Polystore

open Json (Uniform)

/-! ## Values in order -/

theorem Json.Uniform.mono {vs ws : List Json} (h : Uniform vs) (hws : ∀ w ∈ ws, w ∈ vs) :
    Uniform ws :=
  h.imp (fun h v hv w hw => h v (hws v hv) w (hws w hw))
    fun h v hv w hw => h v (hws v hv) w (hws w hw)

/-- A list with a transitive comparison can be sorted, and so can a short one. -/
theorem exists_sortBy? {α : Type} {cmp : α → α → Ordering} [Std.OrientedCmp cmp] {l : List α}
    (h : l.length ≤ 20 ∨ IsTransOn cmp l) : ∃ s, sortBy? cmp l = some s := by
  obtain h | h := h
  · exact ⟨_, sortBy?_of_length_le h⟩
  · exact ⟨_, h.sortBy?⟩

instance : Std.OrientedCmp compareCounts := ⟨compareCounts_swap _ _⟩

/-! ### The values of a facet -/

theorem length_countValue_le (v : Json) (counts : List (Json × Nat)) :
    (countValue v counts).length ≤ counts.length + 1 := by
  induction counts with
  | nil => exact Nat.le_refl _
  | cons p counts ih =>
    rw [countValue]
    split
    · exact Nat.le_succ _
    · exact Nat.succ_le_succ ih

theorem length_foldl_countValue_le (vs : List Json) (counts : List (Json × Nat)) :
    (vs.foldl (fun counts v => countValue v counts) counts).length ≤
      counts.length + vs.length := by
  induction vs generalizing counts with
  | nil => exact Nat.le_refl _
  | cons v vs ih =>
    have hv := length_countValue_le v counts
    have hvs := ih (countValue v counts)
    rw [List.foldl_cons, List.length_cons]
    omega

theorem length_distinctFrom_le (seen vs : List Json) :
    (distinctFrom seen vs).length ≤ vs.length := by
  induction vs generalizing seen with
  | nil => exact Nat.le_refl _
  | cons v vs ih =>
    rw [distinctFrom]
    split
    · exact Nat.le_succ_of_le (ih seen)
    · exact Nat.succ_le_succ (ih (v :: seen))

section Values
variable {suffix field : String} {docs : List Json}

/-- No more values are counted than the documents have. -/
theorem length_valueCounts_le (suffix field : String) (docs : List Json) :
    (valueCounts suffix field docs).length ≤ (docs.flatMap (fieldValues suffix field)).length := by
  have hdistinct : (docs.flatMap fun d => distinct (fieldValues suffix field d)).length ≤
      (docs.flatMap (fieldValues suffix field)).length := by
    induction docs with
    | nil => exact Nat.le_refl _
    | cons d docs ih =>
      rw [List.flatMap_cons, List.flatMap_cons, List.length_append, List.length_append]
      exact Nat.add_le_add (length_distinctFrom_le [] _) ih
  have hcounted := length_foldl_countValue_le
    (docs.flatMap fun d => distinct (fieldValues suffix field d)) []
  rw [List.length_nil, Nat.zero_add] at hcounted
  exact Nat.le_trans hcounted hdistinct

/-- The values of a field are of one kind, or there are twenty of them at most. -/
def Sortable (suffix field : String) (docs : List Json) : Prop :=
  (docs.flatMap (fieldValues suffix field)).length ≤ 20 ∨
    Uniform (docs.flatMap (fieldValues suffix field))

/-- The values with the greatest counts can be told if few are counted, or if those with one number
are uniform. -/
theorem exists_topValues? (size : Nat)
    (h : (valueCounts suffix field docs).length ≤ 20 ∨
      ∀ n, Uniform (valuesWith n (valueCounts suffix field docs))) :
    ∃ counts, topValues? suffix field size docs = some counts := by
  obtain ⟨sorted, hs⟩ := exists_sortBy? (h.imp_right (isTransOn_compareCounts_iff _).2)
  exact ⟨_, topValues?_eq_some_iff.2 ⟨sorted, hs, rfl⟩⟩

theorem Sortable.exists_topValues? (h : Sortable suffix field docs) (size : Nat) :
    ∃ counts, topValues? suffix field size docs = some counts := by
  refine Polystore.exists_topValues? size (h.imp ?_ fun huniform n => ?_)
  · exact Nat.le_trans (length_valueCounts_le suffix field docs)
  · refine huniform.mono fun v hv => ?_
    obtain ⟨d, hd, hm⟩ := mem_fieldValues_of_mem_valueCounts (mem_valuesWith.1 hv)
    exact List.mem_flatMap.2 ⟨d, hd, hm⟩

theorem Sortable.perm {docs' : List Json} (h : Sortable suffix field docs)
    (hp : docs'.Perm docs) : Sortable suffix field docs' := by
  have hvalues := hp.flatMap_right (fieldValues suffix field)
  exact h.imp (fun h => hvalues.length_eq ▸ h) fun h => h.mono fun _ hv => hvalues.mem_iff.1 hv

end Values

/-! ## Nothing else breaks a search off -/

namespace Search

variable {α β : Type}

/-- The step gives a result unless the search is broken off there. -/
def OnlyPanics (x : Except SearchFault α) : Prop := ∀ e, x = .error e → ∃ p, e = .panicked p

theorem onlyPanics_pure (a : α) : OnlyPanics (pure a) := fun _ h => nomatch h

theorem onlyPanics_orPanic (p : Panic) (o : Option α) : OnlyPanics (orPanic p o) := by
  intro e h
  cases o with
  | none => exact ⟨p, (Except.error.inj h).symm⟩
  | some a => cases h

theorem OnlyPanics.bind {x : Except SearchFault α} {f : α → Except SearchFault β}
    (hx : OnlyPanics x) (hf : ∀ a, OnlyPanics (f a)) : OnlyPanics (x >>= f) := by
  intro e h
  obtain h | ⟨a, -, h⟩ := Outcome.bind_eq_error.1 h
  · exact hx e h
  · exact hf a e h

theorem OnlyPanics.map {x : Except SearchFault α} (hx : OnlyPanics x) (f : α → β) :
    OnlyPanics (x.map f) :=
  fun e h => hx e (Outcome.map_eq_error.1 h)

/-- A step that can only be broken off gives a result or is broken off. -/
theorem OnlyPanics.cases {x : Except SearchFault α} (hx : OnlyPanics x) :
    (∃ a, x = .ok a) ∨ ∃ p, x = .error (.panicked p) := by
  cases x with
  | ok a => exact .inl ⟨a, rfl⟩
  | error e =>
    obtain ⟨p, rfl⟩ := hx e rfl
    exact .inr ⟨p, rfl⟩

end Search

open Search (OnlyPanics onlyPanics_pure onlyPanics_orPanic)

theorem FacetRequest.onlyPanics_counted (f : FacetRequest) (suffix : String)
    (docs : List Json) : OnlyPanics (f.counted suffix docs) := by
  obtain ⟨field, kind⟩ := f
  cases kind with
  | terms => exact ((onlyPanics_orPanic _ _).map _).map _
  | dateHistogram => exact ((onlyPanics_orPanic _ _).map _).map _

namespace SearchRequest

variable (r : SearchRequest) (suffix : String)

theorem onlyPanics_arrange (matched : List Hit) : OnlyPanics (r.arrange suffix matched) := by
  unfold arrange
  split
  · exact onlyPanics_pure _
  · exact onlyPanics_orPanic _ _

theorem onlyPanics_counted (docs : List Json) : OnlyPanics (r.counted suffix docs) := by
  unfold counted
  generalize r.facets = facets
  induction facets with
  | nil => exact onlyPanics_pure _
  | cons f facets ih =>
    rw [List.mapM_cons]
    exact (f.onlyPanics_counted suffix docs).bind fun p => ih.bind fun counts => onlyPanics_pure _

/-- Documents that match are shown, or the search is broken off. -/
theorem onlyPanics_responseTo (defaultLimit : Nat) (matched : List Hit) :
    OnlyPanics (r.responseTo suffix defaultLimit matched) :=
  (r.onlyPanics_arrange suffix matched).bind fun _ =>
    (r.onlyPanics_counted suffix _).bind fun _ => onlyPanics_pure _

end SearchRequest

theorem Search.onlyPanics_answerTo (r : SearchRequest) (suffix index : String)
    (defaultLimit : Nat) (matched : List Hit) :
    OnlyPanics (answerTo r suffix index defaultLimit matched) :=
  (r.onlyPanics_arrange suffix matched).bind fun _ =>
    (r.onlyPanics_counted suffix _).bind fun _ => onlyPanics_pure _

/-! ## Requests that can be answered -/

/-- The facet has buckets: its values can be sorted, or its days fit 64 bits. -/
def FacetRequest.Countable (f : FacetRequest) (suffix : String) (docs : List Json) : Prop :=
  match f.kind with
  | .terms => Sortable suffix (f.field ++ suffix) docs
  | .dateHistogram =>
    ∀ ms ∈ docs.filterMap (documentInstant? suffix (f.field ++ suffix)), InDayRange ms

/-- The documents can be put in the order of the request, and its facets can be counted. -/
structure SearchRequest.Orderly (r : SearchRequest) (suffix : String) (docs : List Record) :
    Prop where
  sorted : docs.length ≤ 20 ∨
    ∀ k ∈ r.sort, Uniform (docs.filterMap (Search.sortValue? suffix (k.field ++ suffix)))
  counted : ∀ f ∈ r.facets, f.Countable suffix (docs.map .obj)

theorem FacetRequest.Countable.exists_counted {f : FacetRequest} {suffix : String}
    {docs : List Json} (h : f.Countable suffix docs) :
    ∃ b, f.counted suffix docs = .ok (f, b) := by
  obtain ⟨field, kind⟩ := f
  cases kind with
  | terms =>
    obtain ⟨counts, hc⟩ := Sortable.exists_topValues? h Search.defaultTermsSize
    refine ⟨counts.map Search.valueBucket, ?_⟩
    rw [counted, buckets, hc]
    rfl
  | dateHistogram =>
    obtain ⟨counts, hc, -⟩ := countsDays_of_inDayRange h
    refine ⟨counts.map Search.dayBucket, ?_⟩
    rw [counted, buckets, hc]
    rfl

theorem FacetRequest.Countable.perm {f : FacetRequest} {suffix : String} {docs docs' : List Json}
    (h : f.Countable suffix docs) (hp : docs'.Perm docs) : f.Countable suffix docs' := by
  obtain ⟨field, kind⟩ := f
  cases kind with
  | terms => exact Sortable.perm h hp
  | dateHistogram => exact fun ms hms => h ms ((hp.filterMap _).mem_iff.1 hms)

namespace SearchRequest

variable {r : SearchRequest} {suffix : String} {defaultLimit : Nat}

/-- Nothing is asked of the documents where there are neither sort keys nor facets. -/
theorem orderly_of_nil (hs : r.sort = []) (hf : r.facets = []) (suffix : String)
    (docs : List Record) : r.Orderly suffix docs :=
  ⟨.inr (by simp [hs]), by simp [hf]⟩

/-- No documents are in every order. -/
theorem orderly_noDocuments (r : SearchRequest) (suffix : String) : r.Orderly suffix [] := by
  refine ⟨.inl (Nat.zero_le 20), fun f _ => ?_⟩
  obtain ⟨field, kind⟩ := f
  cases kind with
  | terms => exact .inl (Nat.zero_le 20)
  | dateHistogram => exact fun ms hms => absurd hms List.not_mem_nil

section Hits
variable {matched : List Hit}

theorem Orderly.exists_arrange (h : r.Orderly suffix (matched.map Hit.doc)) :
    ∃ found, r.arrange suffix matched = .ok found := by
  unfold arrange
  split
  · exact ⟨_, rfl⟩
  · have hor : matched.length ≤ 20 ∨ IsTransOn
        (fun a b : Hit => Search.compareByKeys suffix (r.sortFields suffix) a.doc b.doc)
        matched := by
      refine h.sorted.imp (fun hlength => by rwa [List.length_map] at hlength) fun hkeys => ?_
      have htrans : IsTransOn (Search.compareByKeys suffix (r.sortFields suffix))
          (matched.map Hit.doc) := by
        refine Search.isTransOn_compareByKeys fun key hkey => ?_
        obtain ⟨k, hk, rfl⟩ := List.mem_map.1 hkey
        exact hkeys k hk
      exact fun a ha b hb c hc => htrans _ (List.mem_map_of_mem ha) _ (List.mem_map_of_mem hb) _
        (List.mem_map_of_mem hc)
    have horiented : Std.OrientedCmp
        (fun a b : Hit => Search.compareByKeys suffix (r.sortFields suffix) a.doc b.doc) :=
      ⟨Search.compareByKeys_swap suffix _ _ _⟩
    obtain ⟨found, hs⟩ := exists_sortBy? hor
    exact ⟨found, Search.orPanic_eq_ok.2 hs⟩

theorem Orderly.exists_counted {docs : List Record} (h : r.Orderly suffix docs)
    {docs' : List Json} (hp : docs'.Perm (docs.map .obj)) :
    ∃ counts, r.counted suffix docs' = .ok counts := by
  have hall : ∀ f ∈ r.facets, ∃ b, f.counted suffix docs' = .ok (f, b) :=
    fun f hf => ((h.counted f hf).perm hp).exists_counted
  unfold SearchRequest.counted
  generalize r.facets = facets at hall
  induction facets with
  | nil => exact ⟨[], rfl⟩
  | cons f facets ih =>
    obtain ⟨⟨b, hb⟩, hall⟩ := List.forall_mem_cons.1 hall
    obtain ⟨counts, hc⟩ := ih hall
    rw [List.mapM_cons, hb, hc]
    exact ⟨_, rfl⟩

/-- Documents in order can be shown. -/
theorem Orderly.exists_found (h : r.Orderly suffix (matched.map Hit.doc)) :
    ∃ found counts, r.arrange suffix matched = .ok found ∧
      r.counted suffix (found.map fun h => .obj h.doc) = .ok counts := by
  obtain ⟨found, hf⟩ := h.exists_arrange
  have hp : (found.map fun h => Json.obj h.doc).Perm ((matched.map Hit.doc).map .obj) := by
    rw [List.map_map]
    exact (perm_of_arrange hf).map _
  obtain ⟨counts, hc⟩ := h.exists_counted hp
  exact ⟨found, counts, hf, hc⟩

theorem Orderly.exists_responseTo (h : r.Orderly suffix (matched.map Hit.doc))
    (defaultLimit : Nat) : ∃ response, r.responseTo suffix defaultLimit matched = .ok response := by
  obtain ⟨found, counts, hf, hc⟩ := h.exists_found
  exact ⟨_, responseTo_eq_ok.2 ⟨found, counts, hf, hc, rfl⟩⟩

end Hits

end SearchRequest

/-! ## Searches of an index -/

namespace SearchIndex

variable {s : SearchIndex} {index : String} {r : SearchRequest} {docs : Documents}
  {matched : List Hit}

/-- The documents of an index that match a request, in index order. -/
def matching (s : SearchIndex) (index : String) (r : SearchRequest) : Documents :=
  ((s.documents? index).getD []).filter fun p => (r.matcher s.suffix).holds s.suffix (.obj p.2)

theorem matching_eq (hd : s.documents? index = some docs) :
    s.matching index r =
      docs.filter fun p => (r.matcher s.suffix).holds s.suffix (.obj p.2) := by
  rw [matching, hd, Option.getD_some]

/-- The hits are the documents that match. -/
theorem map_eq_matching (hd : s.documents? index = some docs)
    (hm : Search.hits s.suffix (r.matcher s.suffix) docs = .ok matched) :
    (matched.map fun h => (h.id, h.doc)) = s.matching index r := by
  obtain ⟨matched', hm', hfilter⟩ := Search.hits_eq (Search.runs_of_hits hm)
  obtain rfl : matched = matched' := Except.ok.inj (hm.symm.trans hm')
  rw [matching_eq hd, hfilter]

/-- The documents that match are such that the request can be answered. -/
def Answerable (s : SearchIndex) (index : String) (r : SearchRequest) : Prop :=
  r.Orderly s.suffix ((s.matching index r).map Prod.snd)

theorem Answerable.orderly (h : s.Answerable index r) (hd : s.documents? index = some docs)
    (hm : Search.hits s.suffix (r.matcher s.suffix) docs = .ok matched) :
    r.Orderly s.suffix (matched.map Hit.doc) := by
  rw [Answerable, ← map_eq_matching hd hm, List.map_map] at h
  exact h

section Found
variable (hn : (r.facets.map FacetRequest.field).Nodup) (hd : s.documents? index = some docs)
  (hm : Search.hits s.suffix (r.matcher s.suffix) docs = .ok matched)
include hn hd hm

/-- What a search makes of the hits. -/
theorem search_of_hits (defaultLimit : Nat) :
    s.search index (r.body s.suffix defaultLimit) =
      Search.answerTo r s.suffix index defaultLimit matched := by
  rw [search_body hn hd, hm]
  rfl

theorem respond_of_hits (defaultLimit : Nat) :
    s.respond index r defaultLimit = r.responseTo s.suffix defaultLimit matched := by
  rw [respond_eq hn hd, hm]
  rfl

theorem Answerable.exists_search (h : s.Answerable index r) (defaultLimit : Nat) :
    ∃ answer, s.search index (r.body s.suffix defaultLimit) = .ok answer := by
  obtain ⟨found, counts, hf, hc⟩ := (h.orderly hd hm).exists_found
  rw [search_of_hits hn hd hm]
  exact ⟨_, Search.answerTo_eq_ok.2 ⟨found, counts, hf, hc, rfl⟩⟩

theorem Answerable.exists_respond (h : s.Answerable index r) (defaultLimit : Nat) :
    ∃ response, s.respond index r defaultLimit = .ok response := by
  rw [respond_of_hits hn hd hm]
  exact (h.orderly hd hm).exists_responseTo defaultLimit

end Found

end SearchIndex

end Polystore
