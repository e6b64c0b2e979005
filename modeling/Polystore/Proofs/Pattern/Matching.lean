import Mathlib.Data.List.Basic
import Polystore.Pattern.Basic

/-!
# What patterns match

`Matches text p i j` says that the pattern matches the part of the text between two positions.  The
sets of positions that `reach` computes hold exactly the ends of such parts: a repetition that is
cut off after as many turns as the text has characters misses none, because turns that stay in
place can be left out.

    At (reach text p m) j ↔ ∃ i, At m i ∧ Matches text p i j                    (at_reach)
    p.occursIn text = true ↔ ∃ i j, i ≤ text.length ∧ Matches text p i j        (occursIn_iff)
-/

namespace Polystore.Pattern

/-! ## Meaning -/

/-- `k` steps of a relation, one after the other. -/
def Steps (R : Nat → Nat → Prop) : Nat → Nat → Nat → Prop
  | 0, i, j => i = j
  | k + 1, i, j => ∃ x, R i x ∧ Steps R k x j

/-- The character before a position. -/
def charBefore (text : List Char) (i : Nat) : Option Char :=
  if i = 0 then none else text[i - 1]?

/-- Does the pattern match the part of the text between two positions? -/
def Matches (text : List Char) : Pattern → Nat → Nat → Prop
  | empty, i, j => i = j
  | chars set, i, j => j = i + 1 ∧ ∃ c, text[i]? = some c ∧ set.holds c = true
  | edge e, i, j => i = j ∧ e.holds (charBefore text i) text[i]? = true
  | seq p q, i, j => ∃ x, Matches text p i x ∧ Matches text q x j
  | alt p q, i, j => Matches text p i j ∨ Matches text q i j
  | rep p low high, i, j =>
    ∃ k, (∀ h ∈ high, k ≤ h - low) ∧ Steps (Matches text p) (low + k) i j
  | capture p, i, j => Matches text p i j

section
variable {R : Nat → Nat → Prop} {i j k l : Nat}

theorem steps_add : Steps R (k + l) i j ↔ ∃ x, Steps R k i x ∧ Steps R l x j := by
  induction k generalizing i with
  | zero =>
    rw [Nat.zero_add]
    constructor
    · exact fun h => ⟨i, rfl, h⟩
    · rintro ⟨x, rfl, h⟩
      exact h
  | succ k ih =>
    have hsucc : k + 1 + l = (k + l) + 1 := by omega
    rw [hsucc]
    constructor
    · rintro ⟨y, hy, h⟩
      obtain ⟨x, hx, hl⟩ := ih.1 h
      exact ⟨x, ⟨y, hy, hx⟩, hl⟩
    · rintro ⟨x, ⟨y, hy, hx⟩, hl⟩
      exact ⟨y, hy, ih.2 ⟨x, hx, hl⟩⟩

/-- Steps that may be left out. -/
theorem steps_or_eq : Steps (fun i j => i = j ∨ R i j) k i j ↔ ∃ l ≤ k, Steps R l i j := by
  induction k generalizing i with
  | zero =>
    constructor
    · exact fun h => ⟨0, Nat.le_refl 0, h⟩
    · rintro ⟨l, hl, h⟩
      obtain rfl := Nat.le_zero.1 hl
      exact h
  | succ k ih =>
    constructor
    · rintro ⟨x, rfl | hx, h⟩
      · obtain ⟨l, hl, h⟩ := ih.1 h
        exact ⟨l, by omega, h⟩
      · obtain ⟨l, hl, h⟩ := ih.1 h
        exact ⟨l + 1, by omega, x, hx, h⟩
    · rintro ⟨l, hl, h⟩
      cases l with
      | zero => exact ⟨i, .inl rfl, ih.2 ⟨0, Nat.zero_le k, h⟩⟩
      | succ l =>
        obtain ⟨x, hx, h⟩ := h
        exact ⟨x, .inr hx, ih.2 ⟨l, by omega, h⟩⟩

/-- Where steps never go back, no more of them are needed than there are positions between their
ends. -/
theorem steps_shorten (hR : ∀ i j, R i j → i ≤ j) (h : Steps R k i j) :
    i ≤ j ∧ ∃ l ≤ j - i, Steps R l i j := by
  induction k generalizing i with
  | zero =>
    obtain rfl : i = j := h
    exact ⟨Nat.le_refl i, 0, Nat.zero_le _, rfl⟩
  | succ k ih =>
    obtain ⟨x, hx, h⟩ := h
    obtain ⟨hxj, l, hl, hsteps⟩ := ih h
    have hix := hR i x hx
    refine ⟨Nat.le_trans hix hxj, ?_⟩
    by_cases he : i = x
    · subst he
      exact ⟨l, hl, hsteps⟩
    · exact ⟨l + 1, by omega, x, hx, hsteps⟩

theorem steps_of_forall (P : Nat → Prop) (hP : ∀ i j, R i j → P i → P j) (h : Steps R k i j)
    (hi : P i) : P j := by
  induction k generalizing i with
  | zero =>
    obtain rfl : i = j := h
    exact hi
  | succ k ih =>
    obtain ⟨x, hx, h⟩ := h
    exact ih h (hP i x hx hi)

end

/-- A match does not go back. -/
theorem Matches.le {text : List Char} {p : Pattern} {i j : Nat} (h : Matches text p i j) :
    i ≤ j := by
  induction p generalizing i j with
  | empty => exact Nat.le_of_eq h
  | chars set => exact h.1 ▸ Nat.le_succ i
  | edge e => exact Nat.le_of_eq h.1
  | seq p q ihp ihq =>
    obtain ⟨x, hp, hq⟩ := h
    exact Nat.le_trans (ihp hp) (ihq hq)
  | alt p q ihp ihq => exact h.elim ihp ihq
  | rep p low high ih =>
    obtain ⟨k, -, h⟩ := h
    exact (steps_shorten (fun _ _ => ih) h).1
  | capture p ih => exact ih h

/-- A match ends in the text if it starts there. -/
theorem Matches.le_length {text : List Char} {p : Pattern} {i j : Nat} (h : Matches text p i j)
    (hi : i ≤ text.length) : j ≤ text.length := by
  induction p generalizing i j with
  | empty => exact (show i = j from h) ▸ hi
  | chars set =>
    obtain ⟨rfl, c, hc, -⟩ := h
    exact (List.getElem?_eq_some_iff.1 hc).1
  | edge e => exact h.1 ▸ hi
  | seq p q ihp ihq =>
    obtain ⟨x, hp, hq⟩ := h
    exact ihq hq (ihp hp hi)
  | alt p q ihp ihq => exact h.elim (fun h => ihp h hi) fun h => ihq h hi
  | rep p low high ih =>
    obtain ⟨k, -, h⟩ := h
    exact steps_of_forall (· ≤ text.length) (fun _ _ => ih) h hi
  | capture p ih => exact ih h hi

/-! ## Sets of positions -/

/-- Is the position marked? -/
def At (m : Marks) (i : Nat) : Prop := m[i]? = some true

theorem At.lt {m : Marks} {i : Nat} (h : At m i) : i < m.length :=
  (List.getElem?_eq_some_iff.1 h).1

/-- A step on sets of positions takes each position to those that it is related to. -/
structure Moves (size : Nat) (f : Marks → Marks) (R : Nat → Nat → Prop) : Prop where
  length : ∀ m, m.length = size → (f m).length = size
  at_iff : ∀ m, m.length = size → ∀ j, At (f m) j ↔ ∃ i, At m i ∧ R i j

section
variable {size : Nat} {f g : Marks → Marks} {R S : Nat → Nat → Prop}

theorem moves_id : Moves size (fun m => m) fun i j => i = j where
  length _ h := h
  at_iff _ _ j := ⟨fun h => ⟨j, h, rfl⟩, fun ⟨_, hi, he⟩ => he ▸ hi⟩

theorem Moves.comp (hf : Moves size f R) (hg : Moves size g S) :
    Moves size (fun m => g (f m)) fun i j => ∃ x, R i x ∧ S x j where
  length m h := hg.length _ (hf.length m h)
  at_iff m h j := by
    rw [hg.at_iff _ (hf.length m h)]
    constructor
    · rintro ⟨x, hx, hs⟩
      obtain ⟨i, hi, hr⟩ := (hf.at_iff m h x).1 hx
      exact ⟨i, hi, x, hr, hs⟩
    · rintro ⟨i, hi, x, hr, hs⟩
      exact ⟨x, (hf.at_iff m h x).2 ⟨i, hi, hr⟩, hs⟩

theorem at_union {a b : Marks} (h : a.length = b.length) (i : Nat) :
    At (union a b) i ↔ At a i ∨ At b i := by
  unfold At union
  rw [List.getElem?_zipWith]
  cases ha : a[i]? with
  | none =>
    have hb : b[i]? = none := by
      rw [List.getElem?_eq_none_iff] at ha ⊢
      omega
    simp [hb]
  | some x =>
    cases hb : b[i]? with
    | none =>
      exfalso
      rw [List.getElem?_eq_none_iff] at hb
      have := (List.getElem?_eq_some_iff.1 ha).1
      omega
    | some y => simp

theorem length_union {a b : Marks} (h : a.length = b.length) : (union a b).length = a.length := by
  rw [union, List.length_zipWith, h, Nat.min_self]

theorem Moves.union (hf : Moves size f R) (hg : Moves size g S) :
    Moves size (fun m => union (f m) (g m)) fun i j => R i j ∨ S i j where
  length m h := by
    rw [length_union (by rw [hf.length m h, hg.length m h]), hf.length m h]
  at_iff m h j := by
    rw [at_union (by rw [hf.length m h, hg.length m h]), hf.at_iff m h, hg.at_iff m h]
    constructor
    · rintro (⟨i, hi, hr⟩ | ⟨i, hi, hs⟩)
      · exact ⟨i, hi, .inl hr⟩
      · exact ⟨i, hi, .inr hs⟩
    · rintro ⟨i, hi, hr | hs⟩
      · exact .inl ⟨i, hi, hr⟩
      · exact .inr ⟨i, hi, hs⟩

/-- To stop early when nothing changes makes no difference. -/
theorem Moves.power (hf : Moves size f R) (n : Nat) : Moves size (power f n) (Steps R n) := by
  induction n with
  | zero => exact moves_id
  | succ n ih =>
    have heq : Pattern.power f (n + 1) = fun m => Pattern.power f n (f m) := by
      funext m
      exact power_succ f n m
    rw [heq]
    exact hf.comp ih

theorem closure_succ (f : Marks → Marks) (n : Nat) (m : Marks) :
    closure f (n + 1) m = closure f n (Pattern.union m (f m)) := by
  have hstay : ∀ (n : Nat) (m : Marks), Pattern.union m (f m) = m → closure f n m = m := by
    intro n m h
    cases n with
    | zero => rfl
    | succ n => simp [closure, h]
  by_cases h : Pattern.union m (f m) = m
  · rw [h, hstay n m h, hstay (n + 1) m h]
  · simp [closure, h]

theorem Moves.closure (hf : Moves size f R) (n : Nat) :
    Moves size (closure f n) fun i j => ∃ l ≤ n, Steps R l i j := by
  have hsteps : Moves size (Pattern.closure f n) (Steps (fun i j => i = j ∨ R i j) n) := by
    induction n with
    | zero => exact moves_id
    | succ n ih =>
      have heq : Pattern.closure f (n + 1) =
          fun m => Pattern.closure f n (Pattern.union m (f m)) := by
        funext m
        exact closure_succ f n m
      rw [heq]
      exact (moves_id.union hf).comp ih
  refine ⟨hsteps.length, fun m h j => ?_⟩
  rw [hsteps.at_iff m h j]
  simp only [steps_or_eq]

/-- Only the relation between positions of the text counts. -/
theorem Moves.congr (hf : Moves size f R) (h : ∀ i j, i < size → (R i j ↔ S i j)) :
    Moves size f S where
  length := hf.length
  at_iff m hm j := by
    rw [hf.at_iff m hm]
    constructor
    · rintro ⟨i, hi, hr⟩
      exact ⟨i, hi, (h i j (hm ▸ hi.lt)).1 hr⟩
    · rintro ⟨i, hi, hs⟩
      exact ⟨i, hi, (h i j (hm ▸ hi.lt)).2 hs⟩

end

/-! ## Single characters and places -/

section
variable (text : List Char)

theorem moves_advance (set : CharSet) :
    Moves (text.length + 1) (advance set text) fun i j =>
      j = i + 1 ∧ ∃ c, text[i]? = some c ∧ set.holds c = true where
  length m h := by
    rw [advance, List.length_cons, List.length_zipWith, h]
    omega
  at_iff m h j := by
    unfold At advance
    cases j with
    | zero =>
      constructor
      · intro h
        cases h
      · rintro ⟨i, -, hj, -⟩
        omega
    | succ j =>
      rw [List.getElem?_cons_succ, List.getElem?_zipWith]
      constructor
      · intro hj
        cases hm : m[j]? with
        | none => simp [hm] at hj
        | some b =>
          cases hc : text[j]? with
          | none => simp [hm, hc] at hj
          | some c =>
            simp only [hm, hc, Option.some.injEq, Bool.and_eq_true] at hj
            exact ⟨j, by rw [hm, hj.1], rfl, c, hc, hj.2⟩
      · rintro ⟨i, hi, hj, c, hc, hset⟩
        obtain rfl : j = i := by omega
        simp [hi, hc, hset]

theorem length_places (before : Option Char) : (places before text).length = text.length + 1 := by
  induction text generalizing before with
  | nil => rfl
  | cons c cs ih => rw [places, List.length_cons, ih, List.length_cons]

theorem getElem?_places (before : Option Char) {i : Nat} (h : i ≤ text.length) :
    (places before text)[i]? = some (if i = 0 then before else text[i - 1]?, text[i]?) := by
  induction text generalizing before i with
  | nil =>
    obtain rfl := Nat.le_zero.1 h
    rfl
  | cons c cs ih =>
    cases i with
    | zero => rfl
    | succ i =>
      have hi : i ≤ cs.length := by simpa using h
      rw [places, List.getElem?_cons_succ, ih (some c) hi, if_neg (Nat.succ_ne_zero i),
        Nat.add_sub_cancel, List.getElem?_cons_succ]
      cases i with
      | zero => rfl
      | succ i => rfl

theorem moves_atEdge (e : Edge) :
    Moves (text.length + 1) (atEdge e text) fun i j =>
      i = j ∧ e.holds (charBefore text i) text[i]? = true where
  length m h := by
    rw [atEdge, List.length_zipWith, length_places, h, Nat.min_self]
  at_iff m h j := by
    unfold At atEdge
    rw [List.getElem?_zipWith]
    by_cases hj : j ≤ text.length
    · rw [getElem?_places text none hj]
      constructor
      · intro hm
        cases hb : m[j]? with
        | none => simp [hb] at hm
        | some b =>
          simp only [hb, Option.some.injEq, Bool.and_eq_true] at hm
          exact ⟨j, by rw [hb, hm.1], rfl, hm.2⟩
      · rintro ⟨i, hi, rfl, he⟩
        rw [hi]
        simpa [charBefore] using he
    · have hnone : m[j]? = none := by
        rw [List.getElem?_eq_none_iff]
        omega
      constructor
      · intro hm
        simp [hnone] at hm
      · rintro ⟨i, hi, rfl, -⟩
        rw [hnone] at hi
        cases hi

/-! ## Patterns -/

/-- The positions that a pattern leads to are the ends of its matches. -/
theorem moves_reach (p : Pattern) : Moves (text.length + 1) (reach text p) (Matches text p) := by
  induction p with
  | empty => exact moves_id
  | chars set => exact moves_advance text set
  | edge e => exact moves_atEdge text e
  | seq p q ihp ihq => exact ihp.comp ihq
  | alt p q ihp ihq => exact ihp.union ihq
  | capture p ih => exact ih
  | rep p low high ih =>
    refine ((ih.power low).comp (ih.closure _)).congr fun i j hi => ?_
    constructor
    · rintro ⟨x, hlow, l, hl, hsteps⟩
      refine ⟨l, fun h hh => ?_, steps_add.2 ⟨x, hlow, hsteps⟩⟩
      obtain rfl : high = some h := hh
      exact hl
    · rintro ⟨k, hk, hsteps⟩
      obtain ⟨x, hlow, hrest⟩ := steps_add.1 hsteps
      refine ⟨x, hlow, ?_⟩
      cases high with
      | some h => exact ⟨k, hk h rfl, hrest⟩
      | none =>
        -- turns that stay in place are left out
        obtain ⟨-, l, hl, hshort⟩ := steps_shorten (fun _ _ => Matches.le) hrest
        have hstay : ∀ i j, Matches text p i j → i ≤ text.length → j ≤ text.length :=
          fun _ _ => Matches.le_length
        have hx := steps_of_forall (· ≤ text.length) hstay hlow (Nat.le_of_lt_succ hi)
        have hj := steps_of_forall (· ≤ text.length) hstay hrest hx
        refine ⟨l, ?_, hshort⟩
        show l ≤ text.length
        omega

theorem at_reach (p : Pattern) {m : Marks} (h : m.length = text.length + 1) (j : Nat) :
    At (reach text p m) j ↔ ∃ i, At m i ∧ Matches text p i j :=
  (moves_reach text p).at_iff m h j

/-- A pattern occurs in a text if it matches some part of it. -/
theorem occursIn_iff (p : Pattern) :
    p.occursIn text = true ↔ ∃ i j, i ≤ text.length ∧ Matches text p i j := by
  have hall : (List.replicate (text.length + 1) true).length = text.length + 1 :=
    List.length_replicate
  have hany : p.occursIn text = true ↔
      ∃ j, At (reach text p (List.replicate (text.length + 1) true)) j := by
    rw [occursIn, List.any_eq_true]
    constructor
    · rintro ⟨b, hb, rfl⟩
      obtain ⟨j, hj⟩ := List.getElem?_of_mem hb
      exact ⟨j, hj⟩
    · rintro ⟨j, hj⟩
      exact ⟨true, List.mem_of_getElem? hj, rfl⟩
  rw [hany]
  constructor
  · rintro ⟨j, hj⟩
    obtain ⟨i, hi, hm⟩ := (at_reach text p hall j).1 hj
    have hlt := hi.lt
    rw [hall] at hlt
    exact ⟨i, j, Nat.le_of_lt_succ hlt, hm⟩
  · rintro ⟨i, j, hi, hm⟩
    refine ⟨j, (at_reach text p hall j).2 ⟨i, ?_, hm⟩⟩
    rw [At, List.getElem?_replicate, if_pos (Nat.lt_succ_of_le hi)]

end

end Polystore.Pattern
