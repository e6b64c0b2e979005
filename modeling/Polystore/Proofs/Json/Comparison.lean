import Polystore.Json.Basic
import Polystore.Proofs.Sorting.Stable

/-!
# Comparing values of several kinds

Two scalars of one kind have an order, other values have none.  A sort takes values without an order
for ties, and ties between kinds spoil it: a text, a number and a smaller text are each not greater
than the next one, yet the first is greater than the last.  The comparison is a total preorder on
some values exactly if it decides all of them or leaves all of them tied.

    IsTransOn compareOrTie vs ↔ Uniform vs                        (isTransOn_compareOrTie_iff)
-/

namespace Polystore

namespace Json

/-- The order of two values; values without an order are tied. -/
def compareOrTie (v w : Json) : Ordering := (v.compare? w).getD .eq

/-- Are all the values comparable with each other, or all tied? -/
def Uniform (vs : List Json) : Prop :=
  (∀ v ∈ vs, ∀ w ∈ vs, (v.compare? w).isSome = true) ∨ ∀ v ∈ vs, ∀ w ∈ vs, v.compareOrTie w = .eq

theorem compare?_swap (v w : Json) : w.compare? v = (v.compare? w).map Ordering.swap := by
  cases v <;> cases w <;> simp only [compare?, Option.map_some, Option.map_none]
  all_goals rw [Std.OrientedOrd.eq_swap]

instance : Std.OrientedCmp compareOrTie where
  eq_swap {v w} := by
    rw [compareOrTie, compareOrTie, compare?_swap w v]
    cases w.compare? v <;> rfl

theorem isSome_compare?_symm {v w : Json} (h : (v.compare? w).isSome = true) :
    (w.compare? v).isSome = true := by
  rw [compare?_swap, Option.isSome_map]
  exact h

/-- Two values are comparable if they are scalars of one kind. -/
theorem cases_of_isSome_compare? {v w : Json} (h : (v.compare? w).isSome = true) :
    (∃ m n, v = .num m ∧ w = .num n) ∨ (∃ s t, v = .str s ∧ w = .str t) ∨
      ∃ a b, v = .bool a ∧ w = .bool b := by
  cases v with
  | num m =>
    cases w with
    | num n => exact .inl ⟨m, n, rfl, rfl⟩
    | null | bool | str | arr | obj => cases h
  | str s =>
    cases w with
    | str t => exact .inr (.inl ⟨s, t, rfl, rfl⟩)
    | null | bool | num | arr | obj => cases h
  | bool a =>
    cases w with
    | bool b => exact .inr (.inr ⟨a, b, rfl, rfl⟩)
    | null | num | str | arr | obj => cases h
  | null | arr | obj => cases h

/-- The order of scalars of one kind is transitive, and so is being of one kind. -/
theorem compare?_trans {u v w : Json} (huv : (u.compare? v).isSome = true)
    (hvw : (v.compare? w).isSome = true) :
    (u.compare? w).isSome = true ∧ ((u.compareOrTie v).isLE = true →
      (v.compareOrTie w).isLE = true → (u.compareOrTie w).isLE = true) := by
  rcases cases_of_isSome_compare? huv with ⟨l, m, rfl, rfl⟩ | ⟨r, s, rfl, rfl⟩ | ⟨a, b, rfl, rfl⟩
  · obtain ⟨n, rfl⟩ : ∃ n, w = .num n := by
      obtain ⟨_, n, -, hn⟩ | ⟨_, _, hm, -⟩ | ⟨_, _, hm, -⟩ := cases_of_isSome_compare? hvw
      · exact ⟨n, hn⟩
      · cases hm
      · cases hm
    exact ⟨rfl, fun h h' => Std.TransOrd.isLE_trans (α := Int) h h'⟩
  · obtain ⟨t, rfl⟩ : ∃ t, w = .str t := by
      obtain ⟨_, _, hs, -⟩ | ⟨_, t, -, ht⟩ | ⟨_, _, hs, -⟩ := cases_of_isSome_compare? hvw
      · cases hs
      · exact ⟨t, ht⟩
      · cases hs
    exact ⟨rfl, fun h h' => Std.TransOrd.isLE_trans (α := String) h h'⟩
  · obtain ⟨c, rfl⟩ : ∃ c, w = .bool c := by
      obtain ⟨_, _, hb, -⟩ | ⟨_, _, hb, -⟩ | ⟨_, c, -, hc⟩ := cases_of_isSome_compare? hvw
      · cases hb
      · cases hb
      · exact ⟨c, hc⟩
    exact ⟨rfl, fun h h' => Std.TransOrd.isLE_trans (α := Bool) h h'⟩

/-- A comparison that decides some of the values and not all of them is not transitive. -/
theorem not_isTransOn_of_gt {vs : List Json} {x y v w : Json} (hx : x ∈ vs) (hy : y ∈ vs)
    (hv : v ∈ vs) (hw : w ∈ vs) (hgt : x.compareOrTie y = .gt)
    (hnone : v.compare? w = none) : ¬ IsTransOn compareOrTie vs := by
  intro htrans
  have hxy : (x.compare? y).isSome = true := by
    cases h : x.compare? y with
    | none =>
      rw [compareOrTie, h] at hgt
      cases hgt
    | some o => rfl
  -- One of `v` and `w` is of another kind than `x` and `y`, and is tied with both.
  obtain ⟨b, hb, hxb⟩ : ∃ b ∈ vs, x.compare? b = none := by
    by_cases hxv : (x.compare? v).isSome = true
    · refine ⟨w, hw, Option.not_isSome_iff_eq_none.1 fun hxw => ?_⟩
      have hvw := (compare?_trans (isSome_compare?_symm hxv) hxw).1
      rw [hnone] at hvw
      cases hvw
    · exact ⟨v, hv, Option.not_isSome_iff_eq_none.1 hxv⟩
  have hby : b.compare? y = none := Option.not_isSome_iff_eq_none.1 fun hby => by
    have hsome := (compare?_trans hxy (isSome_compare?_symm hby)).1
    rw [hxb] at hsome
    cases hsome
  have hle := htrans x hx b hb y hy (by rw [compareOrTie, hxb]; rfl)
    (by rw [compareOrTie, hby]; rfl)
  rw [hgt] at hle
  cases hle

/-- The comparison is transitive exactly if it decides all of the values or none of them. -/
theorem isTransOn_compareOrTie_iff (vs : List Json) :
    IsTransOn compareOrTie vs ↔ Uniform vs := by
  constructor
  · intro htrans
    by_cases hall : ∀ v ∈ vs, ∀ w ∈ vs, (v.compare? w).isSome = true
    · exact .inl hall
    · refine .inr fun x hx y hy => ?_
      simp only [Classical.not_forall] at hall
      obtain ⟨v, hv, w, hw, hvw⟩ := hall
      have hnone := Option.not_isSome_iff_eq_none.1 hvw
      cases hxy : x.compareOrTie y with
      | lt =>
        have hyx : y.compareOrTie x = .gt := Std.OrientedCmp.gt_of_lt hxy
        exact absurd htrans (not_isTransOn_of_gt hy hx hv hw hyx hnone)
      | eq => rfl
      | gt => exact absurd htrans (not_isTransOn_of_gt hx hy hv hw hxy hnone)
  · rintro (hall | hall) a ha b hb c hc hab hbc
    · exact (compare?_trans (hall a ha b hb) (hall b hb c hc)).2 hab hbc
    · rw [hall a ha c hc]
      rfl

end Json

end Polystore
