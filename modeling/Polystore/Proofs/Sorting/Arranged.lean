import Mathlib.Data.List.Basic
import Polystore.Sorting

/-!
# What a sorted list is

Three relations say what sorting may do to a list: `R a b`, that `a` may stand before `b`; `J a b`,
that `a` may jump over `b`, to its left; and `E s l`, that `s` is `l` after some jumps.  They need
not make up an order.  If they follow the comparison (`Laws`), then they hold of every sorted list,
whichever way it was made:

    Laws cmp R J E → sortBy? cmp l = some s → E s l ∧ s.Pairwise R           (Laws.sortBy?)

With any jumps allowed this says that a sorted list is a rearrangement in the order of `R`; with
jumps over greater items only, that the sort is stable.
-/

namespace Polystore

open Sorting

variable {α : Type} {cmp : α → α → Ordering} {R J : α → α → Prop} {E : List α → List α → Prop}

/-- The relations follow the comparison: they allow what it asks for, and go on doing so along
`R`. -/
structure Laws (cmp : α → α → Ordering) (R J : α → α → Prop) (E : List α → List α → Prop) :
    Prop where
  of_before : ∀ {a b}, before cmp a b = true → R a b
  of_not_before : ∀ {a b}, before cmp a b = false → R b a
  trans : ∀ {a b c}, R a b → R b c → R a c
  jump_before : ∀ {a b c}, before cmp a b = true → R b c → J a c
  jump_after : ∀ {a b c}, R a b → before cmp b c = true → J a c
  same : ∀ l, E l l
  after : ∀ {l m n}, E l m → E m n → E l n
  append : ∀ {l l' m m'}, E l l' → E m m' → E (l ++ m) (l' ++ m')
  swap : ∀ {a b}, J a b → E [a, b] [b, a]
  perm : ∀ {l m}, E l m → l.Perm m

/-- The second list is the first one in order. -/
structure Arranged (R : α → α → Prop) (E : List α → List α → Prop) (l s : List α) : Prop where
  moves : E s l
  ordered : s.Pairwise R

theorem take_between (l : List α) {i k : Nat} (h : i ≤ k) :
    l.take i ++ (l.take k).drop i = l.take k := by
  conv_rhs => rw [← List.take_append_drop i (l.take k), List.take_take, Nat.min_eq_left h]

theorem drop_between (l : List α) {i k : Nat} (h : i ≤ k) :
    (l.take k).drop i ++ l.drop k = l.drop i := by
  have hdrop : l.drop k = (l.drop i).drop (k - i) := by
    rw [List.drop_drop, Nat.add_sub_of_le h]
  rw [List.drop_take, hdrop, List.take_append_drop]

namespace Laws

variable (h : Laws cmp R J E)
include h

theorem refl (a : α) : R a a := by
  cases ha : before cmp a a with
  | true => exact h.of_before ha
  | false => exact h.of_not_before ha

theorem jump {a b : α} (hb : before cmp a b = true) : J a b := h.jump_before hb (h.refl b)

/-- The same from right to left. -/
theorem flip :
    Laws (fun a b => cmp b a) (fun a b => R b a) (fun a b => J b a)
      fun l m => E l.reverse m.reverse where
  of_before := h.of_before
  of_not_before := h.of_not_before
  trans hab hbc := h.trans hbc hab
  jump_before hab hbc := h.jump_after hbc hab
  jump_after hab hbc := h.jump_before hbc hab
  same l := h.same _
  after := h.after
  append hl hm := by
    rw [List.reverse_append, List.reverse_append]
    exact h.append hm hl
  swap := h.swap
  perm hl := (List.reverse_perm _).symm.trans ((h.perm hl).trans (List.reverse_perm _))

theorem cons (a : α) {l m : List α} (hl : E l m) : E (a :: l) (a :: m) :=
  h.append (h.same [a]) hl

/-- An item may jump over several others. -/
theorem move {a : α} {l : List α} (ha : ∀ x ∈ l, J a x) (rest : List α) :
    E (a :: (l ++ rest)) (l ++ a :: rest) := by
  induction l with
  | nil => exact h.same _
  | cons x l ih =>
    obtain ⟨hx, hl⟩ := List.forall_mem_cons.1 ha
    exact h.after (h.append (h.swap hx) (h.same (l ++ rest))) (h.cons x (ih hl))

/-- Several items may jump over several others. -/
theorem exchange {l m : List α} (hj : ∀ y ∈ m, ∀ x ∈ l, J y x) (rest : List α) :
    E (m ++ (l ++ rest)) (l ++ (m ++ rest)) := by
  induction m with
  | nil => exact h.same _
  | cons y m ih =>
    obtain ⟨hy, hm⟩ := List.forall_mem_cons.1 hj
    exact h.after (h.cons y (ih hm)) (h.move hy (m ++ rest))

theorem arranged_of_pairwise {l : List α} (hl : l.Pairwise R) : Arranged R E l l := ⟨h.same l, hl⟩

/-! ## Insertion -/

theorem insertBack (x : α) {l : List α} (hl : l.Pairwise fun a b => R b a) :
    E (insertBack cmp x l).reverse (l.reverse ++ [x]) ∧
      (Polystore.insertBack cmp x l).Pairwise fun a b => R b a := by
  induction l with
  | nil => exact ⟨h.same _, List.pairwise_singleton _ _⟩
  | cons y ys ih =>
    obtain ⟨hy, hys⟩ := List.pairwise_cons.1 hl
    obtain ⟨hmoves, hordered⟩ := ih hys
    rw [Polystore.insertBack, List.reverse_cons]
    split
    · next hx =>
      rw [List.reverse_cons]
      constructor
      · refine h.after (h.append hmoves (h.same [y])) ?_
        rw [List.append_assoc, List.append_assoc]
        exact h.append (h.same _) (h.swap (h.jump hx))
      · refine List.pairwise_cons.2 ⟨fun z hz => ?_, hordered⟩
        have hz := (h.perm hmoves).mem_iff.1 (List.mem_reverse.2 hz)
        rcases List.mem_append.1 hz with hz | hz
        · exact hy z (List.mem_reverse.1 hz)
        · rw [List.mem_singleton.1 hz]
          exact h.of_before hx
    · next hx =>
      rw [List.reverse_cons, List.reverse_cons]
      refine ⟨h.same _, List.pairwise_cons.2 ⟨fun z hz => ?_, hl⟩⟩
      have hyx : R y x := h.of_not_before (Bool.eq_false_iff.2 hx)
      rcases List.mem_cons.1 hz with rfl | hz
      · exact hyx
      · exact h.trans (hy z hz) hyx

/-- Inserting items one after the other puts them in order. -/
theorem insertAll {sorted : List α} (hs : sorted.Pairwise R) (new : List α) :
    Arranged R E (sorted ++ new) (insertAll cmp sorted new) := by
  suffices hfold : ∀ acc : List α, (acc.Pairwise fun a b => R b a) →
      E (new.foldl (fun acc x => Polystore.insertBack cmp x acc) acc).reverse
        (acc.reverse ++ new) ∧
      (new.foldl (fun acc x => Polystore.insertBack cmp x acc) acc).Pairwise fun a b => R b a by
    obtain ⟨hmoves, hordered⟩ := hfold sorted.reverse (List.pairwise_reverse.2 hs)
    rw [List.reverse_reverse] at hmoves
    exact ⟨hmoves, List.pairwise_reverse.2 hordered⟩
  induction new with
  | nil =>
    intro acc hacc
    rw [List.append_nil]
    exact ⟨h.same _, hacc⟩
  | cons x new ih =>
    intro acc hacc
    obtain ⟨hmoves, hordered⟩ := h.insertBack x hacc
    obtain ⟨hmoves', hordered'⟩ := ih _ hordered
    refine ⟨h.after hmoves' ?_, hordered'⟩
    rw [← List.singleton_append (l := new), ← List.append_assoc]
    exact h.append hmoves (h.same new)

theorem sortBy (l : List α) : Arranged R E l (sortBy cmp l) := h.insertAll .nil l

/-! ## Few items -/

theorem mergePairs {a b c d : α} (hab : R a b) (hcd : R c d) :
    Arranged R E [a, b, c, d] (mergePairs cmp a b c d) := by
  have hchain : ∀ {w x y z : α}, R w x → R x y → R y z → [w, x, y, z].Pairwise R := by
    intro w x y z hwx hxy hyz
    have hxz := h.trans hxy hyz
    simp [hwx, hxy, hyz, hxz, h.trans hwx hxy, h.trans hwx hxz]
  unfold Sorting.mergePairs
  cases hca : before cmp c a with
  | false =>
    have hac := h.of_not_before hca
    cases hdb : before cmp d b with
    | false =>
      have hbd := h.of_not_before hdb
      simp only [Bool.false_eq_true, if_false]
      split
      · next hcb =>
        exact ⟨h.cons a (h.move (l := [b]) (by simpa using h.jump hcb) [d]),
          hchain hac (h.of_before hcb) hbd⟩
      · next hcb =>
        exact ⟨h.same _, hchain hab (h.of_not_before (Bool.eq_false_iff.2 hcb)) hcd⟩
    | true =>
      have hdb' := h.of_before hdb
      have hcb : J c b := h.jump_after hcd hdb
      have hmoves : E [c, d, b] [b, c, d] :=
        h.exchange (l := [b]) (m := [c, d]) (by simp [hcb, h.jump hdb]) []
      simp only [Bool.false_eq_true, if_false, if_true]
      split
      · next hdc =>
        refine ⟨h.cons a (h.after ?_ hmoves), hchain (h.trans hac hcd) (h.of_before hdc)
          (h.trans hcd hdb')⟩
        exact h.append (h.swap (h.jump hdc)) (h.same [b])
      · exact ⟨h.cons a hmoves, hchain hac hcd hdb'⟩
  | true =>
    have hca' := h.of_before hca
    have hcb : J c b := h.jump_before hca hab
    have hmoves : E [c, a, b] [a, b, c] := h.move (l := [a, b]) (by simp [hcb, h.jump hca]) []
    cases hdb : before cmp d b with
    | false =>
      have hmoves := h.append hmoves (h.same [d])
      have hbd := h.of_not_before hdb
      simp only [Bool.false_eq_true, if_false, if_true]
      split
      · next hba =>
        exact ⟨h.after (h.cons c (h.append (h.swap (h.jump hba)) (h.same [d]))) hmoves,
          hchain (h.trans hca' hab) (h.of_before hba) (h.trans hab hbd)⟩
      · exact ⟨hmoves, hchain hca' hab hbd⟩
    | true =>
      have hdb' := h.of_before hdb
      simp only [if_true]
      split
      · next hda =>
        refine ⟨?_, hchain hcd (h.of_before hda) hab⟩
        exact h.exchange (l := [a, b]) (m := [c, d])
          (by simp [hcb, h.jump hca, h.jump hdb, h.jump hda]) []
      · next hda =>
        refine ⟨?_, hchain hca' (h.of_not_before (Bool.eq_false_iff.2 hda)) hdb'⟩
        refine h.after (h.cons c (h.cons a (h.swap (h.jump hdb)))) ?_
        exact h.append hmoves (h.same [d])

theorem sortFour (a b c d : α) : Arranged R E [a, b, c, d] (sortFour cmp a b c d) := by
  have hpair : ∀ a b : α,
      E [(if before cmp b a then (b, a) else (a, b)).1,
          (if before cmp b a then (b, a) else (a, b)).2] [a, b] ∧
      R (if before cmp b a then (b, a) else (a, b)).1
        (if before cmp b a then (b, a) else (a, b)).2 := by
    intro a b
    split
    · next hba => exact ⟨h.swap (h.jump hba), h.of_before hba⟩
    · next hba => exact ⟨h.same _, h.of_not_before (Bool.eq_false_iff.2 hba)⟩
  obtain ⟨hmoves, hordered⟩ := h.mergePairs (hpair a b).2 (hpair c d).2
  exact ⟨h.after hmoves (h.append (hpair a b).1 (hpair c d).1), hordered⟩

theorem sortHalf (fours : Bool) (l : List α) : Arranged R E l (sortHalf cmp fours l) := by
  rcases l with _ | ⟨a, _ | ⟨b, _ | ⟨c, _ | ⟨d, rest⟩⟩⟩⟩
  case cons.cons.cons.cons =>
    rw [Sorting.sortHalf]
    split
    · obtain ⟨hfour, hordered⟩ := h.sortFour a b c d
      obtain ⟨hmoves, hordered⟩ := h.insertAll hordered rest
      exact ⟨h.after hmoves (h.append hfour (h.same rest)), hordered⟩
    · exact h.sortBy _
  all_goals exact h.sortBy _

/-! ## Merges -/

/-- What a merge has done after some steps. -/
structure Merging (R J : α → α → Prop) (E : List α → List α → Prop) (n : Nat) (xs ys : List α)
    (taken : List α × Nat × Nat) : Prop where
  moves : E taken.1 (xs.take taken.2.1 ++ ys.take taken.2.2)
  ordered : taken.1.Pairwise R
  left_le : taken.2.1 ≤ xs.length
  right_le : taken.2.2 ≤ ys.length
  steps : n ≤ xs.length → n ≤ ys.length → taken.2.1 + taken.2.2 = n
  left_before : ∀ x ∈ xs.take taken.2.1, ∀ y ∈ ys.drop taken.2.2, R x y
  right_before : ∀ y ∈ ys.take taken.2.2, ∀ x ∈ xs.drop taken.2.1, J y x ∧ R y x

theorem mergeSteps (n : Nat) {xs ys : List α} (hxs : xs.Pairwise R) (hys : ys.Pairwise R) :
    Merging R J E n xs ys (mergeSteps (fun x y => !before cmp y x) n xs ys) := by
  have hnone : ∀ {n : Nat} {xs ys : List α}, (n = 0 ∨ xs = [] ∨ ys = []) →
      Merging R J E n xs ys ([], 0, 0) := fun hn =>
    { moves := h.same []
      ordered := .nil
      left_le := Nat.zero_le _
      right_le := Nat.zero_le _
      steps := by rcases hn with rfl | rfl | rfl <;> simp +contextual
      left_before := by simp
      right_before := by simp }
  induction n generalizing xs ys with
  | zero => exact hnone (.inl rfl)
  | succ n ih =>
    rcases xs with _ | ⟨x, xs⟩
    · exact hnone (.inr (.inl rfl))
    rcases ys with _ | ⟨y, ys⟩
    · exact hnone (.inr (.inr rfl))
    obtain ⟨hx, hxs'⟩ := List.pairwise_cons.1 hxs
    obtain ⟨hy, hys'⟩ := List.pairwise_cons.1 hys
    rw [Sorting.mergeSteps]
    split
    · next hfirst =>
      have hxy : R x y := h.of_not_before (by simpa using hfirst)
      have hall : ∀ z ∈ y :: ys, R x z :=
        List.forall_mem_cons.2 ⟨hxy, fun z hz => h.trans hxy (hy z hz)⟩
      obtain ⟨hmoves, hordered, hleft, hright, hsteps, hbefore, hjumps⟩ := ih hxs' hys
      refine ⟨h.cons x hmoves, List.pairwise_cons.2 ⟨fun z hz => ?_, hordered⟩,
        Nat.succ_le_succ hleft, hright, fun hn hm => ?_, ?_, hjumps⟩
      · rcases List.mem_append.1 ((h.perm hmoves).mem_iff.1 hz) with hz | hz
        · exact hx z (List.mem_of_mem_take hz)
        · exact hall z (List.mem_of_mem_take hz)
      · have := hsteps (Nat.le_of_succ_le_succ hn) (Nat.le_of_succ_le hm)
        dsimp only
        omega
      · exact List.forall_mem_cons.2 ⟨fun z hz => hall z (List.mem_of_mem_drop hz), hbefore⟩
    · next hfirst =>
      have hbefore' : before cmp y x = true := by simpa using hfirst
      have hyx : R y x := h.of_before hbefore'
      have hall : ∀ z ∈ x :: xs, J y z ∧ R y z :=
        List.forall_mem_cons.2 ⟨⟨h.jump hbefore', hyx⟩, fun z hz =>
          ⟨h.jump_before hbefore' (hx z hz), h.trans hyx (hx z hz)⟩⟩
      obtain ⟨hmoves, hordered, hleft, hright, hsteps, hbefore, hjumps⟩ := ih hxs hys'
      refine ⟨?_, List.pairwise_cons.2 ⟨fun z hz => ?_, hordered⟩, hleft,
        Nat.succ_le_succ hright, fun hn hm => ?_, hbefore, ?_⟩
      · refine h.after (h.cons y hmoves) (h.move (fun z hz => ?_) _)
        exact (hall z (List.mem_of_mem_take hz)).1
      · rcases List.mem_append.1 ((h.perm hmoves).mem_iff.1 hz) with hz | hz
        · exact (hall z (List.mem_of_mem_take hz)).2
        · exact hy z (List.mem_of_mem_take hz)
      · have := hsteps (Nat.le_of_succ_le hn) (Nat.le_of_succ_le_succ hm)
        dsimp only
        omega
      · exact List.forall_mem_cons.2 ⟨fun z hz => hall z (List.mem_of_mem_drop hz), hjumps⟩

/-- The parts of two lists that a merge from both ends takes first and last fit together, if at most
one item remains between them. -/
theorem meet {x₁ x₂ x₃ y₁ y₂ y₃ front back : List α} (hxs : (x₁ ++ (x₂ ++ x₃)).Pairwise R)
    (hys : (y₁ ++ (y₂ ++ y₃)).Pairwise R) (hfront : Arranged R E (x₁ ++ y₁) front)
    (hback : Arranged R E (x₃ ++ y₃) back) (hmid : (x₂ ++ y₂).length ≤ 1)
    (hleft : ∀ x ∈ x₁, ∀ y ∈ y₂ ++ y₃, R x y) (hright : ∀ x ∈ x₁ ++ x₂, ∀ y ∈ y₃, R x y)
    (hjumps : ∀ y ∈ y₁, ∀ x ∈ x₂ ++ x₃, J y x ∧ R y x)
    (hjumps' : ∀ y ∈ y₁ ++ y₂, ∀ x ∈ x₃, J y x ∧ R y x) :
    Arranged R E ((x₁ ++ (x₂ ++ x₃)) ++ (y₁ ++ (y₂ ++ y₃))) (front ++ ((x₂ ++ y₂) ++ back)) := by
  have hmidOrdered : (x₂ ++ y₂).Pairwise R := by
    match x₂ ++ y₂, hmid with
    | [], _ => exact .nil
    | [_], _ => exact List.pairwise_singleton _ _
  obtain ⟨-, hx₂₃, hx₁⟩ := List.pairwise_append.1 hxs
  obtain ⟨-, -, hx₂⟩ := List.pairwise_append.1 hx₂₃
  obtain ⟨-, hy₂₃, hy₁⟩ := List.pairwise_append.1 hys
  obtain ⟨-, -, hy₂⟩ := List.pairwise_append.1 hy₂₃
  constructor
  · refine h.after (h.append hfront.moves (h.append (h.same (x₂ ++ y₂)) hback.moves)) ?_
    have hfirst : E (y₁ ++ (x₂ ++ (y₂ ++ (x₃ ++ y₃)))) (x₂ ++ (y₁ ++ (y₂ ++ (x₃ ++ y₃)))) :=
      h.exchange (fun y hy x hx => (hjumps y hy x (List.mem_append_left _ hx)).1) _
    have hsecond : E ((y₁ ++ y₂) ++ (x₃ ++ y₃)) (x₃ ++ ((y₁ ++ y₂) ++ y₃)) :=
      h.exchange (fun y hy x hx => (hjumps' y hy x hx).1) _
    simp only [List.append_assoc] at hsecond ⊢
    exact h.append (h.same x₁) (h.after hfirst (h.append (h.same x₂) hsecond))
  · have hmem₁ : ∀ a ∈ front, a ∈ x₁ ∨ a ∈ y₁ := fun a ha =>
      List.mem_append.1 ((h.perm hfront.moves).mem_iff.1 ha)
    have hmem₃ : ∀ a ∈ back, a ∈ x₃ ∨ a ∈ y₃ := fun a ha =>
      List.mem_append.1 ((h.perm hback.moves).mem_iff.1 ha)
    refine List.pairwise_append.2 ⟨hfront.ordered,
      List.pairwise_append.2 ⟨hmidOrdered, hback.ordered, ?_⟩, ?_⟩
    · intro a ha b hb
      rcases List.mem_append.1 ha with ha | ha <;> rcases hmem₃ b hb with hb | hb
      · exact hx₂ a ha b hb
      · exact hright a (List.mem_append_right _ ha) b hb
      · exact (hjumps' a (List.mem_append_right _ ha) b hb).2
      · exact hy₂ a ha b hb
    · intro a ha b hb
      rcases List.mem_append.1 hb with hb | hb
      · rcases hmem₁ a ha with ha | ha <;> rcases List.mem_append.1 hb with hb | hb
        · exact hx₁ a ha b (List.mem_append_left _ hb)
        · exact hleft a ha b (List.mem_append_left _ hb)
        · exact (hjumps a ha b (List.mem_append_left _ hb)).2
        · exact hy₁ a ha b (List.mem_append_left _ hb)
      · rcases hmem₁ a ha with ha | ha <;> rcases hmem₃ b hb with hb | hb
        · exact hx₁ a ha b (List.mem_append_right _ hb)
        · exact hleft a ha b (List.mem_append_right _ hb)
        · exact (hjumps a ha b (List.mem_append_right _ hb)).2
        · exact hy₁ a ha b (List.mem_append_right _ hb)

/-- What a merge from the right has done after some steps. -/
structure MergingBack (R J : α → α → Prop) (E : List α → List α → Prop) (n : Nat) (xs ys : List α)
    (taken : List α × Nat × Nat) : Prop where
  arranged : Arranged R E (xs.drop (xs.length - taken.2.2) ++ ys.drop (ys.length - taken.2.1))
    taken.1.reverse
  left_le : taken.2.2 ≤ xs.length
  right_le : taken.2.1 ≤ ys.length
  steps : n ≤ xs.length → n ≤ ys.length → taken.2.1 + taken.2.2 = n
  right_after : ∀ x ∈ xs.take (xs.length - taken.2.2), ∀ y ∈ ys.drop (ys.length - taken.2.1), R x y
  left_after : ∀ y ∈ ys.take (ys.length - taken.2.1), ∀ x ∈ xs.drop (xs.length - taken.2.2),
    J y x ∧ R y x

section BothEnds
variable {xs ys : List α} (hxs : xs.Pairwise R) (hys : ys.Pairwise R)
include hxs hys

theorem mergeSteps_back (n : Nat) : MergingBack R J E n xs ys
    (Sorting.mergeSteps (fun y x => !before cmp y x) n ys.reverse xs.reverse) := by
  have hback : Merging (fun a b => R b a) (fun a b => J b a) (fun l m => E l.reverse m.reverse) n
      ys.reverse xs.reverse
      (Sorting.mergeSteps (fun y x => !before cmp y x) n ys.reverse xs.reverse) :=
    h.flip.mergeSteps n (List.pairwise_reverse.2 hys) (List.pairwise_reverse.2 hxs)
  obtain ⟨hmoves, hordered, hright, hleft, hsteps, hafter, hjumps⟩ := hback
  simp only [List.take_reverse, List.drop_reverse, List.mem_reverse, List.length_reverse,
    List.reverse_append, List.reverse_reverse] at *
  exact ⟨⟨hmoves, List.pairwise_reverse.2 hordered⟩, hleft, hright, fun hn hm => hsteps hm hn,
    fun x hx y hy => hafter y hy x hx, fun y hy x hx => hjumps x hx y hy⟩

theorem mergeBoth (hle : xs.length ≤ ys.length) (hle' : ys.length ≤ xs.length + 1) {s : List α}
    (hs : mergeBoth cmp xs ys = some s) : Arranged R E (xs ++ ys) s := by
  have hfront := h.mergeSteps xs.length hxs hys
  have hback := h.mergeSteps_back hxs hys xs.length
  unfold Sorting.mergeBoth at hs
  dsimp only at hs
  generalize Sorting.mergeSteps (fun x y => !before cmp y x) xs.length xs ys = front at hfront hs
  generalize Sorting.mergeSteps (fun y x => !before cmp y x) xs.length ys.reverse xs.reverse = back
    at hback hs
  split at hs
  case isFalse => cases hs
  case isTrue hmeet =>
  cases hs
  obtain ⟨hi, hj⟩ := hmeet
  have hsteps := hfront.steps (Nat.le_refl _) hle
  have hsteps' := hback.steps (Nat.le_refl _) hle
  rw [List.length_take] at hi hj
  have hi : front.2.1 ≤ xs.length - back.2.2 := Nat.le_trans hi (Nat.min_le_left _ _)
  have hj : front.2.2 ≤ ys.length - back.2.1 := Nat.le_trans hj (Nat.min_le_left _ _)
  have hmid : ((xs.take (xs.length - back.2.2)).drop front.2.1 ++
      (ys.take (ys.length - back.2.1)).drop front.2.2).length ≤ 1 := by
    simp only [List.length_append, List.length_drop, List.length_take]
    omega
  have hxs' := drop_between xs hi
  have hys' := drop_between ys hj
  have hleft := hfront.left_before
  have hright := hback.right_after
  have hjumps := hfront.right_before
  have hjumps' := hback.left_after
  rw [← take_between xs hi] at hright
  rw [← take_between ys hj] at hjumps'
  rw [← hxs'] at hjumps
  rw [← hys'] at hleft
  rw [← List.take_append_drop front.2.1 xs, ← hxs'] at hxs
  rw [← List.take_append_drop front.2.2 ys, ← hys'] at hys
  have hall := h.meet hxs hys ⟨hfront.moves, hfront.ordered⟩ hback.arranged hmid hleft hright
    hjumps hjumps'
  rw [hxs', hys', List.take_append_drop, List.take_append_drop] at hall
  rwa [List.append_assoc]

/-- Both ends take different items if a jump is only over items that may not stand before. -/
theorem mergeBoth_isSome (hstrict : ∀ a b, J a b → ¬ R b a) (hle : xs.length ≤ ys.length) :
    (Sorting.mergeBoth cmp xs ys).isSome := by
  have hfront := h.mergeSteps xs.length hxs hys
  have hback := h.mergeSteps_back hxs hys xs.length
  unfold Sorting.mergeBoth
  dsimp only
  generalize Sorting.mergeSteps (fun x y => !before cmp y x) xs.length xs ys = front at hfront ⊢
  generalize Sorting.mergeSteps (fun y x => !before cmp y x) xs.length ys.reverse xs.reverse = back
    at hback ⊢
  have hsteps := hfront.steps (Nat.le_refl _) hle
  have hsteps' := hback.steps (Nat.le_refl _) hle
  have hleft := hfront.left_le
  have hright := hfront.right_le
  rw [if_pos]
  · rfl
  rw [List.length_take, List.length_take]
  by_contra hcross
  have hget : ∀ (l : List α) {i : Nat}, i < l.length → ∃ a, l[i]? = some a := fun l _ hi =>
    ⟨_, List.getElem?_eq_getElem hi⟩
  -- One end takes an item that the other one takes as well, and then an item of the other list is
  -- taken by neither.
  rcases Nat.lt_or_ge (xs.length - back.2.2) front.2.1 with hi | hi
  · obtain ⟨x, hx⟩ := hget xs (i := xs.length - back.2.2) (by omega)
    obtain ⟨y, hy⟩ := hget ys (i := front.2.2) (by omega)
    refine hstrict y x (hback.left_after y ?_ x ?_).1 (hfront.left_before x ?_ y ?_)
    · exact List.mem_of_getElem? (i := front.2.2) (by rwa [List.getElem?_take_of_lt (by omega)])
    · exact List.mem_of_getElem? (i := 0) (by simpa using hx)
    · exact List.mem_of_getElem? (i := xs.length - back.2.2)
        (by rwa [List.getElem?_take_of_lt (by omega)])
    · exact List.mem_of_getElem? (i := 0) (by simpa using hy)
  · obtain ⟨y, hy⟩ := hget ys (i := ys.length - back.2.1) (by omega)
    obtain ⟨x, hx⟩ := hget xs (i := front.2.1) (by omega)
    refine hstrict y x (hfront.right_before y ?_ x ?_).1 (hback.right_after x ?_ y ?_)
    · exact List.mem_of_getElem? (i := ys.length - back.2.1)
        (by rwa [List.getElem?_take_of_lt (by omega)])
    · exact List.mem_of_getElem? (i := 0) (by simpa using hx)
    · exact List.mem_of_getElem? (i := front.2.1) (by rwa [List.getElem?_take_of_lt (by omega)])
    · exact List.mem_of_getElem? (i := 0) (by simpa using hy)

end BothEnds

/-- A merge of two lists in order is their items in order. -/
theorem listMerge {xs ys : List α} (hxs : xs.Pairwise R) (hys : ys.Pairwise R) :
    Arranged R E (xs ++ ys) (xs.merge ys fun x y => !before cmp y x) := by
  induction xs generalizing ys with
  | nil => rw [List.nil_merge]; exact h.arranged_of_pairwise hys
  | cons x xs ihx =>
    obtain ⟨hx, hxs'⟩ := List.pairwise_cons.1 hxs
    induction ys with
    | nil => simpa using h.arranged_of_pairwise hxs
    | cons y ys ihy =>
      obtain ⟨hy, hys'⟩ := List.pairwise_cons.1 hys
      rw [List.cons_merge_cons]
      split
      · next hfirst =>
        have hxy : R x y := h.of_not_before (by simpa using hfirst)
        obtain ⟨hmoves, hordered⟩ := ihx hxs' hys
        refine ⟨h.cons x hmoves, List.pairwise_cons.2 ⟨fun z hz => ?_, hordered⟩⟩
        rcases List.mem_append.1 ((h.perm hmoves).mem_iff.1 hz) with hz | hz
        · exact hx z hz
        · rcases List.mem_cons.1 hz with rfl | hz
          · exact hxy
          · exact h.trans hxy (hy z hz)
      · next hfirst =>
        have hbefore : before cmp y x = true := by simpa using hfirst
        obtain ⟨hmoves, hordered⟩ := ihy hys'
        have hall : ∀ z ∈ x :: xs, J y z ∧ R y z :=
          List.forall_mem_cons.2 ⟨⟨h.jump hbefore, h.of_before hbefore⟩, fun z hz =>
            ⟨h.jump_before hbefore (hx z hz), h.trans (h.of_before hbefore) (hx z hz)⟩⟩
        refine ⟨h.after (h.cons y hmoves) (h.move (fun z hz => (hall z hz).1) ys),
          List.pairwise_cons.2 ⟨fun z hz => ?_, hordered⟩⟩
        rcases List.mem_append.1 ((h.perm hmoves).mem_iff.1 hz) with hz | hz
        · exact (hall z hz).2
        · exact hy z hz

theorem merge {xs ys : List α} (hxs : xs.Pairwise R) (hys : ys.Pairwise R) :
    Arranged R E (xs ++ ys) (merge cmp xs ys) := by
  unfold Sorting.merge
  split
  · exact h.listMerge hxs hys
  · obtain ⟨hmoves, hordered⟩ :=
      h.flip.listMerge (List.pairwise_reverse.2 hys) (List.pairwise_reverse.2 hxs)
    rw [List.reverse_append, List.reverse_reverse, List.reverse_reverse] at hmoves
    exact ⟨hmoves, List.pairwise_reverse.2 hordered⟩

end Laws

end Polystore
