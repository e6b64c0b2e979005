import Polystore.Proofs.Decimal.Values
import Polystore.Proofs.Json.Comparison

/-!
# The order of values of one kind

What the comparison of two values means: texts come in the order of their characters, numbers in
the order of the values of their nearest doubles, and `false` before `true`.  Values of different
kinds have no order.

    v.Less w ↔ v.compare? w = some .lt                              (less_iff)
    OneKind vs → Uniform vs                                         (OneKind.uniform)
-/

namespace Polystore.Json

/-- Is the first value less?  Values of different kinds never are. -/
inductive Less : Json → Json → Prop
  | str {s t : String} : s < t → Less (.str s) (.str t)
  | num {m n : Number} : m.units < n.units → Less (.num m) (.num n)
  | bool : Less (.bool false) (.bool true)

/-- The values are all texts, all numbers or all booleans. -/
inductive OneKind (vs : List Json) : Prop
  | strs (h : ∀ v ∈ vs, ∃ s, v = .str s)
  | nums (h : ∀ v ∈ vs, ∃ n, v = .num n)
  | bools (h : ∀ v ∈ vs, ∃ b, v = .bool b)

theorem less_iff {v w : Json} : v.Less w ↔ v.compare? w = some .lt := by
  constructor
  · rintro (h | h | _)
    · exact congrArg some (compareOfLessAndEq_eq_lt.2 h)
    · rw [compare?, Number.compare_order, Int.compare_eq_lt.2 h]
    · rfl
  · intro h
    have hsome : (v.compare? w).isSome = true := by rw [h]; rfl
    rcases cases_of_isSome_compare? hsome with
      ⟨m, n, rfl, rfl⟩ | ⟨s, t, rfl, rfl⟩ | ⟨a, b, rfl, rfl⟩
    · rw [compare?, Number.compare_order, Option.some.injEq, Int.compare_eq_lt] at h
      exact .num h
    · exact .str (compareOfLessAndEq_eq_lt.1 (Option.some.inj h))
    · cases a <;> cases b
      · cases h
      · exact .bool
      · cases h
      · cases h

/-- The order turned around. -/
theorem greater_iff {v w : Json} : w.Less v ↔ v.compare? w = some .gt := by
  rw [less_iff, compare?_swap]
  cases v.compare? w with
  | none => simp
  | some o => cases o <;> simp

/-- What is not a tie is decided by an order. -/
theorem compare?_eq_of_compareOrTie {v w : Json} (h : v.compareOrTie w = .lt) :
    v.compare? w = some .lt := by
  rw [compareOrTie] at h
  cases ho : v.compare? w with
  | none =>
    rw [ho] at h
    cases h
  | some o =>
    rw [ho] at h
    exact congrArg some h

/-- Values of one kind are comparable with each other. -/
theorem OneKind.uniform {vs : List Json} (h : OneKind vs) : Uniform vs := by
  refine .inl fun v hv w hw => ?_
  rcases h with h | h | h
  · obtain ⟨s, rfl⟩ := h v hv
    obtain ⟨t, rfl⟩ := h w hw
    rfl
  · obtain ⟨m, rfl⟩ := h v hv
    obtain ⟨n, rfl⟩ := h w hw
    rfl
  · obtain ⟨a, rfl⟩ := h v hv
    obtain ⟨b, rfl⟩ := h w hw
    rfl

end Polystore.Json
