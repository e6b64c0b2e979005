import Polystore.Proofs.Outcome
import Polystore.Search.Body

/-!
# Requests that pass their check

What a caller knows of a search request that was not refused: its page lies within the bounds, it
has no empty filter and no blank text, and no field has two facets.

    r.check maxLimit = .ok () ↔ …                                    (SearchRequest.check_eq_ok)
-/

namespace Polystore

/-! ## Numbers of a page -/

theorem wrapU64_of_lt {i : Int} (h₀ : 0 ≤ i) (h₁ : i < Decimal.twoTo 64) :
    wrapU64 i = i.toNat := by
  rw [wrapU64, Int.emod_eq_of_lt h₀ h₁]

namespace SearchRequest

/-! ## Checks -/

theorem refuse_eq_ok {α : Type} {part : Option α} {bad : α → Bool} {why : α → Rejection} :
    refuse part bad why = .ok () ↔ ∀ a ∈ part, bad a = false := by
  cases part with
  | none => simp [refuse]
  | some a =>
    cases h : bad a with
    | false => simp [refuse, h]
    | true => simp [refuse, h]

variable {r : SearchRequest} {maxLimit : Nat}

/-- The checks of a request, one by one. -/
theorem check_eq_ok :
    r.check maxLimit = .ok () ↔
      (∀ limit ∈ r.limit, 0 < limit ∧ limit ≤ maxLimit) ∧ (∀ offset ∈ r.offset, 0 ≤ offset) ∧
      (∀ f ∈ r.filters, f.isEmpty = false) ∧ repeatedFacet? r.facets [] = none ∧
      ∀ q ∈ r.query, Text.isBlank q = false := by
  unfold check
  simp only [Outcome.then_eq_ok, refuse_eq_ok, decide_eq_false_iff_not, not_or, Int.not_le,
    Int.not_lt, Option.eq_none_iff_forall_not_mem]
  simp

/-- The page of a request that passes its check. -/
theorem bounds_of_check (h : r.check maxLimit = .ok ()) :
    (∀ limit ∈ r.limit, 0 < limit) ∧ 0 ≤ r.offset.getD 0 := by
  obtain ⟨hlimit, hoffset, -⟩ := check_eq_ok.1 h
  refine ⟨fun limit hm => (hlimit limit hm).1, ?_⟩
  cases ho : r.offset with
  | none => exact Int.le_refl 0
  | some offset => exact hoffset offset ho

/-! ## Facets -/

/-- No facet is repeated if each field has one, and none of the fields seen before. -/
theorem repeatedFacet?_eq_none_iff {facets : List FacetRequest} {seen : List String} :
    repeatedFacet? facets seen = none ↔
      (facets.map FacetRequest.field).Nodup ∧ ∀ f ∈ facets, f.field ∉ seen := by
  induction facets generalizing seen with
  | nil => simp [repeatedFacet?]
  | cons f facets ih =>
    rw [repeatedFacet?, List.map_cons, List.nodup_cons, List.forall_mem_cons]
    by_cases hf : f.field ∈ seen
    · simp [hf]
    · rw [if_neg (by simpa using hf), ih]
      have hsplit : (∀ g ∈ facets, g.field ∉ f.field :: seen) ↔
          f.field ∉ facets.map FacetRequest.field ∧ ∀ g ∈ facets, g.field ∉ seen := by
        simp only [List.mem_cons, not_or, List.mem_map, not_exists, not_and, forall_and]
      rw [hsplit]
      exact ⟨fun ⟨hn, hnew, hs⟩ => ⟨⟨hnew, hn⟩, hf, hs⟩, fun ⟨⟨hnew, hn⟩, _, hs⟩ => ⟨hn, hnew, hs⟩⟩

theorem nodup_facets (h : r.check maxLimit = .ok ()) :
    (r.facets.map FacetRequest.field).Nodup :=
  (repeatedFacet?_eq_none_iff.1 (check_eq_ok.1 h).2.2.2.1).1

end SearchRequest

end Polystore
