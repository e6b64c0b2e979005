import Polystore.Proofs.Json.Sameness
import Polystore.Proofs.Sorting.Stable
import Polystore.Search.Facet

/-!
# How often a value is counted

Facets by value go through the documents once and keep a list of values with their numbers.  A
number counts the documents that have the value, as long as sameness with the value has no direction
(`Json.SameBothWays`): of two objects with repeated keys, whether they are the same may depend on
which of them comes first.  It has none for a scalar, and none among values without repeated keys.

    topValues? suffix field size docs = some counts → k.isScalar → (k, n) ∈ counts →
      n = docs.countP fun d => (fieldValues suffix field d).any fun v => k.same v
                                                                      (count_of_mem_topValues?)
-/

namespace Polystore

namespace Json

/-- What is the same as a scalar is a scalar. -/
theorem isScalar_of_same {v k : Json} (h : v.same k = true) (hk : k.isScalar = true) :
    v.isScalar = true := by
  cases v <;> cases k <;> simp_all [same, isScalar]

/-- Sameness with a scalar has no direction. -/
theorem same_comm {k : Json} (hk : k.isScalar = true) (v : Json) : v.same k = k.same v :=
  Bool.eq_iff_iff.2
    ⟨fun h => same_symm (isWellKeyed_of_isScalar (isScalar_of_same h hk)) h,
      same_symm (isWellKeyed_of_isScalar hk)⟩

/-- Sameness of a value with some values has no direction. -/
def SameBothWays (k : Json) (vs : List Json) : Prop := ∀ v ∈ vs, v.same k = k.same v

theorem sameBothWays_of_isScalar {k : Json} (hk : k.isScalar = true) (vs : List Json) :
    SameBothWays k vs := fun v _ => same_comm hk v

theorem sameBothWays_of_isWellKeyed {k : Json} {vs : List Json} (hk : k.isWellKeyed = true)
    (hvs : ∀ v ∈ vs, v.isWellKeyed = true) : SameBothWays k vs :=
  fun v hv => Bool.eq_iff_iff.2 ⟨same_symm (hvs v hv), same_symm hk⟩

end Json

open Json (SameBothWays)

variable {k v : Json} {vs : List Json} {counts : List (Json × Nat)}

/-! ## Numbers of values -/

/-- The number that stands for a value, by the first value that is the same. -/
def countFor (k : Json) : List (Json × Nat) → Nat
  | [] => 0
  | (w, n) :: counts => if w.same k then n else countFor k counts

/-- Counting a value changes the numbers of the values that are the same. -/
theorem countFor_countValue (hv : v.same k = k.same v)
    (hcounts : SameBothWays k (counts.map Prod.fst)) :
    countFor k (countValue v counts) = countFor k counts + if k.same v then 1 else 0 := by
  induction counts with
  | nil =>
    rw [countValue, countFor, countFor, Nat.zero_add, hv]
    rfl
  | cons p counts ih =>
    obtain ⟨w, n⟩ := p
    obtain ⟨hcw, hcounts⟩ := List.forall_mem_cons.1 hcounts
    rw [countValue]
    by_cases hw : w.same v = true
    · rw [if_pos hw, countFor, countFor]
      by_cases hwk : w.same k = true
      · have hkv : k.same v = true := Json.same_trans (hcw ▸ hwk) hw
        rw [if_pos hwk, if_pos hwk, if_pos hkv]
      · have hkv : ¬ k.same v = true := fun h => hwk (Json.same_trans hw (hv ▸ h))
        rw [if_neg hwk, if_neg hwk, if_neg hkv, Nat.add_zero]
    · rw [if_neg hw, countFor, countFor]
      by_cases hwk : w.same k = true
      · have hkv : ¬ k.same v = true := fun h => hw (Json.same_trans hwk h)
        rw [if_pos hwk, if_pos hwk, if_neg hkv, Nat.add_zero]
      · rw [if_neg hwk, if_neg hwk, ih hcounts]

theorem mem_countValue {p : Json × Nat} (h : p ∈ countValue v counts) :
    p.1 = v ∨ p.1 ∈ counts.map Prod.fst := by
  induction counts with
  | nil => exact .inl (congrArg Prod.fst (List.mem_singleton.1 h))
  | cons q counts ih =>
    obtain ⟨w, n⟩ := q
    rw [countValue] at h
    split at h
    · rcases List.mem_cons.1 h with rfl | h
      · exact .inr List.mem_cons_self
      · exact .inr (List.mem_cons_of_mem _ (List.mem_map_of_mem h))
    · rcases List.mem_cons.1 h with rfl | h
      · exact .inr List.mem_cons_self
      · exact (ih h).imp_right (List.mem_cons_of_mem _)

theorem mem_foldl_countValue {p : Json × Nat}
    (h : p ∈ vs.foldl (fun counts v => countValue v counts) counts) :
    p.1 ∈ vs ∨ p.1 ∈ counts.map Prod.fst := by
  induction vs generalizing counts with
  | nil => exact .inr (List.mem_map_of_mem h)
  | cons v vs ih =>
    rcases ih h with hv | hc
    · exact .inl (List.mem_cons_of_mem _ hv)
    · obtain ⟨q, hq, he⟩ := List.mem_map.1 hc
      rcases mem_countValue hq with hv | hc
      · exact .inl (by rw [← he, hv]; exact List.mem_cons_self)
      · exact .inr (he ▸ hc)

theorem countFor_foldl (hvs : SameBothWays k vs) (hcounts : SameBothWays k (counts.map Prod.fst)) :
    countFor k (vs.foldl (fun counts v => countValue v counts) counts) =
      countFor k counts + vs.countP fun v => k.same v := by
  induction vs generalizing counts with
  | nil => rfl
  | cons v vs ih =>
    obtain ⟨hv, hvs⟩ := List.forall_mem_cons.1 hvs
    have hnext : SameBothWays k ((countValue v counts).map Prod.fst) := by
      intro w hw
      obtain ⟨p, hp, rfl⟩ := List.mem_map.1 hw
      rcases mem_countValue hp with he | hm
      · rw [he]
        exact hv
      · exact hcounts _ hm
    rw [List.foldl_cons, ih hvs hnext, countFor_countValue hv hcounts, List.countP_cons,
      Nat.add_assoc, Nat.add_comm (ite _ _ _)]

/-! ## Each value stands once -/

/-- No value is the same as an earlier one. -/
def AreDistinct (counts : List (Json × Nat)) : Prop :=
  counts.Pairwise fun p q => ¬ p.1.same q.1 = true

theorem AreDistinct.countValue (h : AreDistinct counts) (v : Json) :
    AreDistinct (countValue v counts) := by
  induction counts with
  | nil => exact List.pairwise_singleton _ _
  | cons p counts ih =>
    obtain ⟨w, n⟩ := p
    obtain ⟨hw, hcounts⟩ := List.pairwise_cons.1 h
    rw [Polystore.countValue]
    split
    · exact List.pairwise_cons.2 ⟨hw, hcounts⟩
    · next hne =>
      refine List.pairwise_cons.2 ⟨fun q hq => ?_, ih hcounts⟩
      rcases mem_countValue hq with he | hm
      · rw [he]
        exact hne
      · obtain ⟨q', hq', he⟩ := List.mem_map.1 hm
        rw [← he]
        exact hw q' hq'

theorem areDistinct_foldl (h : AreDistinct counts) (vs : List Json) :
    AreDistinct (vs.foldl (fun counts v => countValue v counts) counts) := by
  induction vs generalizing counts with
  | nil => exact h
  | cons v vs ih => exact ih (h.countValue v)

/-- The number of a listed value is the one that is found for it. -/
theorem countFor_eq {n : Nat} (hk : k.same k = true) (hd : AreDistinct counts)
    (h : (k, n) ∈ counts) : countFor k counts = n := by
  induction counts with
  | nil => exact absurd h List.not_mem_nil
  | cons p counts ih =>
    obtain ⟨hp, hcounts⟩ := List.pairwise_cons.1 hd
    rcases List.mem_cons.1 h with rfl | h
    · rw [countFor, if_pos hk]
    · rw [countFor, if_neg (hp _ h), ih hcounts h]

/-! ## Each document counts once -/

theorem isAmong_iff_of_same {seen : List Json} (hseen : SameBothWays k seen)
    (hv : v.same k = k.same v) (h : k.same v = true) :
    v.isAmong seen = true ↔ (seen.any fun x => k.same x) = true := by
  unfold Json.isAmong
  simp only [List.any_eq_true]
  refine exists_congr fun x => and_congr_right fun hx => ?_
  rw [← hseen x hx]
  exact ⟨fun hxv => Json.same_trans hxv (hv ▸ h), fun hxk => Json.same_trans hxk h⟩

theorem countP_distinctFrom {seen : List Json} (hseen : SameBothWays k seen)
    (hvs : SameBothWays k vs) :
    (distinctFrom seen vs).countP (fun v => k.same v) =
      if (seen.any fun x => k.same x) = true then 0
      else if (vs.any fun v => k.same v) = true then 1 else 0 := by
  induction vs generalizing seen with
  | nil => simp [distinctFrom]
  | cons v vs ih =>
    obtain ⟨hv, hvs⟩ := List.forall_mem_cons.1 hvs
    have hboth : SameBothWays k (v :: seen) := List.forall_mem_cons.2 ⟨hv, hseen⟩
    rw [distinctFrom, List.any_cons]
    cases hkv : k.same v with
    | false =>
      rw [Bool.false_or]
      split
      · exact ih hseen hvs
      · rw [List.countP_cons_of_neg (by simp [hkv]), ih hboth hvs, List.any_cons, hkv,
          Bool.false_or]
    | true =>
      rw [Bool.true_or, if_pos rfl]
      by_cases hs : (seen.any fun x => k.same x) = true
      · rw [if_pos ((isAmong_iff_of_same hseen hv hkv).2 hs), ih hseen hvs, if_pos hs, if_pos hs]
      · rw [if_neg (mt (isAmong_iff_of_same hseen hv hkv).1 hs), if_neg hs,
          List.countP_cons_of_pos hkv, ih hboth hvs, List.any_cons, hkv, Bool.true_or, if_pos rfl]

theorem mem_of_mem_distinctFrom {seen : List Json} (h : v ∈ distinctFrom seen vs) : v ∈ vs := by
  induction vs generalizing seen with
  | nil => exact h
  | cons w vs ih =>
    rw [distinctFrom] at h
    split at h
    · exact List.mem_cons_of_mem _ (ih h)
    · rcases List.mem_cons.1 h with rfl | h
      · exact List.mem_cons_self
      · exact List.mem_cons_of_mem _ (ih h)

/-- A value stands once among the different values of a list, or not at all. -/
theorem countP_distinct (hvs : SameBothWays k vs) :
    (distinct vs).countP (fun v => k.same v) =
      if (vs.any fun v => k.same v) = true then 1 else 0 :=
  countP_distinctFrom (fun _ hx => absurd hx List.not_mem_nil) hvs

theorem countP_flatMap_distinct {α : Type} {values : α → List Json} {docs : List α}
    (hdocs : ∀ d ∈ docs, SameBothWays k (values d)) :
    (docs.flatMap fun d => distinct (values d)).countP (fun v => k.same v) =
      docs.countP fun d => (values d).any fun v => k.same v := by
  induction docs with
  | nil => rfl
  | cons d docs ih =>
    obtain ⟨hd, hdocs⟩ := List.forall_mem_cons.1 hdocs
    rw [List.flatMap_cons, List.countP_append, ih hdocs, countP_distinct hd, List.countP_cons,
      Nat.add_comm]

/-! ## Facets by value -/

variable {suffix field : String} {docs : List Json} {n size : Nat}

theorem areDistinct_valueCounts (suffix field : String) (docs : List Json) :
    AreDistinct (valueCounts suffix field docs) := areDistinct_foldl List.Pairwise.nil _

/-- A value that is counted is a value of some document. -/
theorem mem_fieldValues_of_mem_valueCounts (h : (k, n) ∈ valueCounts suffix field docs) :
    ∃ d ∈ docs, k ∈ fieldValues suffix field d := by
  rcases mem_foldl_countValue h with hk | hk
  · obtain ⟨d, hd, hm⟩ := List.mem_flatMap.1 hk
    exact ⟨d, hd, mem_of_mem_distinctFrom hm⟩
  · exact absurd hk List.not_mem_nil

/-- The number for a value is that of the documents that have it. -/
theorem countFor_valueCounts (hdocs : ∀ d ∈ docs, SameBothWays k (fieldValues suffix field d)) :
    countFor k (valueCounts suffix field docs) =
      docs.countP fun d => (fieldValues suffix field d).any fun v => k.same v := by
  have hvalues : SameBothWays k
      (docs.flatMap fun d => distinct (fieldValues suffix field d)) := by
    intro v hv
    obtain ⟨d, hd, hm⟩ := List.mem_flatMap.1 hv
    exact hdocs d hd v (mem_of_mem_distinctFrom hm)
  rw [valueCounts, countFor_foldl hvalues fun _ hx => absurd hx List.not_mem_nil,
    countP_flatMap_distinct hdocs]
  exact Nat.zero_add _

theorem topValues?_eq_some_iff {counts : List (Json × Nat)} :
    topValues? suffix field size docs = some counts ↔
      ∃ sorted, sortBy? compareCounts (valueCounts suffix field docs) = some sorted ∧
        sorted.take size = counts := by
  rw [topValues?, Option.map_eq_some_iff]

section Listed
variable {counts : List (Json × Nat)} (htop : topValues? suffix field size docs = some counts)
include htop

theorem mem_valueCounts_of_mem_topValues? {p : Json × Nat} (h : p ∈ counts) :
    p ∈ valueCounts suffix field docs := by
  obtain ⟨sorted, hs, rfl⟩ := topValues?_eq_some_iff.1 htop
  exact (perm_of_sortBy? hs).mem_iff.1 (List.mem_of_mem_take h)

/-- A scalar is counted in as many documents as have it. -/
theorem count_of_mem_topValues? (hk : k.isScalar = true) (h : (k, n) ∈ counts) :
    n = docs.countP fun d => (fieldValues suffix field d).any fun v => k.same v := by
  have hn : countFor k (valueCounts suffix field docs) = n :=
    countFor_eq (Json.same_refl (Json.isWellKeyed_of_isScalar hk))
      (areDistinct_valueCounts suffix field docs) (mem_valueCounts_of_mem_topValues? htop h)
  rw [← hn]
  exact countFor_valueCounts fun d _ => Json.sameBothWays_of_isScalar hk _

/-- A value that is listed is a value of some document. -/
theorem mem_fieldValues_of_mem_topValues? (h : (k, n) ∈ counts) :
    ∃ d ∈ docs, k ∈ fieldValues suffix field d :=
  mem_fieldValues_of_mem_valueCounts (mem_valueCounts_of_mem_topValues? htop h)

end Listed

end Polystore
