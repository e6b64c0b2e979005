import Polystore.Proofs.Index.History

/-!
# Calls that were not applied

An update without `upsert` and a delete report `false` if there is no such document.  The delete
leaves the indices as they are.  The update leaves all documents as they are, but it brings its
index into being:

    (s.delete index id).1 = false → (s.delete index id).2 = s                  (delete_of_unapplied)
    (s.update index id patch false).1 = false →
      (s.update index id patch false).2 = s.create index                       (update_of_unapplied)

Later calls can tell an index without documents from one that does not exist by searching it, and
by nothing else, and only until some call creates it anyway.
-/

namespace Polystore.SearchIndex

variable {s t : SearchIndex} {index other : String}

/-! ## States that answer alike -/

/-- Two states answer every call alike, of the searches at least those of some indices. -/
structure AnswersAlike (searched : String → Prop) (s t : SearchIndex) : Prop where
  search : ∀ index, searched index → ∀ body, s.search index body = t.search index body
  get : ∀ index id, s.get? index id = t.get? index id
  getMany : ∀ index ids fields, s.getMany index ids fields = t.getMany index ids fields
  update : ∀ index id patch upsert,
    (s.update index id patch upsert).1 = (t.update index id patch upsert).1
  delete : ∀ index id, (s.delete index id).1 = (t.delete index id).1

/-- The answers are told by the documents, and those of searches by the indices that exist. -/
theorem answersAlike_of_get? {searched : String → Prop} (hs : s.suffix = t.suffix)
    (hg : ∀ index id, s.get? index id = t.get? index id)
    (hd : ∀ index, searched index → s.documents? index = t.documents? index) :
    AnswersAlike searched s t where
  search index hi body := by rw [SearchIndex.search, SearchIndex.search, hd index hi, hs]
  get := hg
  getMany index ids fields := by simp only [SearchIndex.getMany, hg]
  update index id patch upsert := by rw [update_fst, update_fst, hg]
  delete index id := by rw [delete_fst, delete_fst, hg]

/-- Every state answers as it does. -/
theorem AnswersAlike.refl (searched : String → Prop) (s : SearchIndex) :
    AnswersAlike searched s s :=
  answersAlike_of_get? rfl (fun _ _ => rfl) fun _ _ => rfl

/-! ## An index without documents -/

/-- The second state is the first one, but that some indices may exist in it, without documents,
that do not exist in the first one. -/
structure AddsEmpty (added : String → Prop) (s t : SearchIndex) : Prop where
  suffix : t.suffix = s.suffix
  documents? : ∀ index, t.documents? index = s.documents? index ∨
    added index ∧ s.documents? index = none ∧ t.documents? index = some []

theorem AddsEmpty.refl (added : String → Prop) (s : SearchIndex) : AddsEmpty added s s where
  suffix := rfl
  documents? _ := .inl rfl

theorem addsEmpty_create (s : SearchIndex) (index : String) :
    AddsEmpty (· = index) s (s.create index) where
  suffix := rfl
  documents? other := by
    rw [create, documents?_change]
    split
    · next ho =>
      subst ho
      rw [id_eq, held]
      cases s.documents? other with
      | none => exact .inr ⟨rfl, rfl, rfl⟩
      | some docs => exact .inl rfl
    · exact .inl rfl

namespace AddsEmpty

variable {added : String → Prop}

theorem held (h : AddsEmpty added s t) (index : String) : t.held index = s.held index := by
  unfold SearchIndex.held
  obtain he | ⟨-, hs, ht⟩ := h.documents? index
  · rw [he]
  · rw [hs, ht]
    rfl

theorem get? (h : AddsEmpty added s t) (index id : String) : t.get? index id = s.get? index id := by
  rw [get?_eq_find?, get?_eq_find?, h.held]

theorem change (h : AddsEmpty added s t) (index : String) (f : Documents → Documents) :
    AddsEmpty added (s.change index f) (t.change index f) where
  suffix := h.suffix
  documents? other := by
    rw [documents?_change, documents?_change, h.held]
    split
    · exact .inl rfl
    · exact h.documents? other

/-- No call tells the two states apart by what it does. -/
theorem apply (h : AddsEmpty added s t) (q : Call) : AddsEmpty added (s.apply q) (t.apply q) := by
  obtain ⟨index, lookup⟩ := q
  cases lookup with
  | put id doc => exact h.change index _
  | putAll docs => exact h.change index _
  | update id patch upsert =>
    show AddsEmpty added (s.update index id patch upsert).2 (t.update index id patch upsert).2
    rw [update, update, h.get?]
    cases s.get? index id with
    | some doc => exact h.change index _
    | none =>
      cases upsert with
      | true => exact h.change index _
      | false => exact h.change index _
  | delete id =>
    show AddsEmpty added (s.delete index id).2 (t.delete index id).2
    rw [delete, delete, h.get?]
    cases s.get? index id with
    | some doc => exact h.change index _
    | none => exact h
  | search body facets => exact h
  | get id => exact h
  | getMany ids fields => exact h

theorem after (h : AddsEmpty added s t) (qs : List Call) :
    AddsEmpty added (s.after qs) (t.after qs) := by
  induction qs generalizing s t with
  | nil => exact h
  | cons q qs ih => exact ih (h.apply q)

/-- An index that exists in the second state only has no documents there. -/
theorem documents?_eq_nil (h : AddsEmpty added s t) (ht : (t.documents? index).isSome = true)
    (hs : s.documents? index = none) : t.documents? index = some [] := by
  obtain he | ⟨-, -, he⟩ := h.documents? index
  · rw [he, hs] at ht
    cases ht
  · exact he

/-- Only searches of the added indices can tell the two states apart. -/
theorem answersAlike {searched : String → Prop} (h : AddsEmpty added s t)
    (hi : ∀ index, searched index → added index → t.documents? index = s.documents? index) :
    AnswersAlike searched t s :=
  answersAlike_of_get? h.suffix h.get? fun index hs => by
    obtain he | ⟨ha, -⟩ := h.documents? index
    · exact he
    · exact hi index hs ha

/-- If one index alone may be added, and it exists afterwards, the two states answer all searches
alike exactly if it existed before. -/
theorem answersAlike_iff (h : AddsEmpty (· = index) s t) (ht : (t.documents? index).isSome = true) :
    AnswersAlike (fun _ => True) t s ↔ (s.documents? index).isSome = true := by
  constructor
  · intro ha
    by_contra hs
    rw [Option.not_isSome_iff_eq_none] at hs
    -- a search that asks for nothing fails in one state and answers in the other
    have hb := ha.search index trivial (.obj [])
    rw [SearchIndex.search, SearchIndex.search, hs, h.documents?_eq_nil ht hs] at hb
    cases hb
  · intro hs
    refine h.answersAlike fun other _ ho => ?_
    obtain he | ⟨-, hn, -⟩ := h.documents? other
    · exact he
    · rw [← ho, hn] at hs
      cases hs

end AddsEmpty

/-! ## When an index comes into being -/

/-- Does a call bring its index into being? -/
def Call.creates (q : Call) : Bool :=
  match q.lookup with
  | .put _ _ | .update _ _ _ | .putAll _ => true
  | .search _ _ | .get _ | .delete _ | .getMany _ _ => false

theorem documents?_change_eq_none_iff {f : Documents → Documents} :
    (s.change other f).documents? index = none ↔ s.documents? index = none ∧ index ≠ other := by
  rw [documents?_change]
  split
  · next h => simp [h]
  · next h => simp [h]

/-- An index is missing after a call if it was missing before and the call does not create it. -/
theorem documents?_apply_eq_none_iff {q : Call} :
    (s.apply q).documents? index = none ↔
      s.documents? index = none ∧ ¬ (q.index = index ∧ q.creates = true) := by
  have hchange : ∀ f, (s.change q.index f).documents? index = none ↔
      s.documents? index = none ∧ ¬ (q.index = index ∧ true = true) := by
    intro f
    rw [documents?_change_eq_none_iff, ne_comm]
    simp
  have hkept : s.documents? index = none ↔
      s.documents? index = none ∧ ¬ (q.index = index ∧ false = true) := by simp
  obtain ⟨other, lookup⟩ := q
  cases lookup with
  | put id doc => exact hchange _
  | putAll docs => exact hchange _
  | update id patch upsert =>
    show (s.update other id patch upsert).2.documents? index = none ↔ _
    unfold update
    split
    · exact hchange _
    · split
      · exact hchange _
      · exact hchange _
  | delete id =>
    show (s.delete other id).2.documents? index = none ↔ _
    unfold delete
    cases hd : s.get? other id with
    | some doc =>
      -- an index with a document exists already
      refine documents?_change_eq_none_iff.trans ⟨fun h => hkept.1 h.1, fun h => ⟨h.1, ?_⟩⟩
      rintro rfl
      rw [get?, h.1] at hd
      cases hd
    | none => exact hkept
  | search body facets => exact hkept
  | get id => exact hkept
  | getMany ids fields => exact hkept

/-- An index is missing after a run of calls if it was missing before and no call creates it. -/
theorem documents?_after_eq_none_iff {qs : List Call} :
    (s.after qs).documents? index = none ↔
      s.documents? index = none ∧ ∀ q ∈ qs, ¬ (q.index = index ∧ q.creates = true) := by
  induction qs generalizing s with
  | nil => simp [after]
  | cons q qs ih =>
    show ((s.apply q).after qs).documents? index = none ↔ _
    rw [ih, documents?_apply_eq_none_iff, List.forall_mem_cons, and_assoc]

theorem isSome_documents?_create_after (s : SearchIndex) (index : String) (qs : List Call) :
    (((s.create index).after qs).documents? index).isSome = true := by
  rw [← Option.ne_none_iff_isSome, Ne, documents?_after_eq_none_iff, create,
    documents?_change_eq_none_iff]
  exact fun h => h.1.2 rfl

theorem suffix_after (s : SearchIndex) (qs : List Call) : (s.after qs).suffix = s.suffix := by
  induction qs generalizing s with
  | nil => rfl
  | cons q qs ih =>
    refine (ih (s.apply q)).trans ?_
    obtain he | ⟨f, he⟩ := apply_cases s q
    · rw [he]
    · rw [he]
      rfl

/-! ## Calls that were not applied -/

/-- A delete that finds no document changes nothing. -/
theorem delete_of_unapplied {id : String} (h : (s.delete index id).1 = false) :
    (s.delete index id).2 = s := by
  rw [delete_fst, Option.isSome_eq_false_iff, Option.isNone_iff_eq_none] at h
  rw [delete, h]

/-- An update that finds no document creates its index. -/
theorem update_of_unapplied {id : String} {patch : Record} {upsert : Bool}
    (h : (s.update index id patch upsert).1 = false) :
    (s.update index id patch upsert).2 = s.create index := by
  rw [update_fst, Bool.or_eq_false_iff, Option.isSome_eq_false_iff, Option.isNone_iff_eq_none] at h
  rw [update, h.1, h.2]
  rfl

/-- What the update shows later: after any run of calls nothing but a search of its index, and that
only while the index would be missing otherwise; it is answered as on no documents. -/
theorem answersAlike_create (s : SearchIndex) (index : String) (qs : List Call) :
    AnswersAlike (· ≠ index) ((s.create index).after qs) (s.after qs) ∧
      (AnswersAlike (fun _ => True) ((s.create index).after qs) (s.after qs) ↔
        (s.documents? index).isSome = true ∨ ∃ q ∈ qs, q.index = index ∧ q.creates = true) ∧
      ((s.after qs).documents? index = none → ∀ body,
        (s.after qs).search index body = .error (.refused (.noIndex index)) ∧
          ((s.create index).after qs).search index body =
            Search.answer s.suffix index body []) := by
  have h := (addsEmpty_create s index).after qs
  have ht := isSome_documents?_create_after s index qs
  refine ⟨h.answersAlike fun other hne hi => absurd hi hne, ?_, fun hs body => ⟨?_, ?_⟩⟩
  · rw [h.answersAlike_iff ht, ← Option.ne_none_iff_isSome, ← Option.ne_none_iff_isSome, Ne,
      documents?_after_eq_none_iff]
    by_cases hs : s.documents? index = none
    · simp [hs]
    · simp [hs]
  · rw [search, hs]
    rfl
  · rw [search, h.documents?_eq_nil ht hs, h.suffix, suffix_after]

end Polystore.SearchIndex
