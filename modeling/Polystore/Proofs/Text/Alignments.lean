import Mathlib.Order.Bounds.Defs
import Polystore.Text.Edits

/-!
# Alignments and edits of words

What the edit distance counts.  An alignment reads two words from left to right, letter by letter;
a run of edits changes one word into another, one letter at a time and anywhere in it.  The distance
is the least cost of an alignment and, if no letters are swapped, the least length of a run:

    IsLeast {n | Aligns swaps a b n} (editDistance a b swaps)                   (isLeast_aligns)
    IsLeast {n | EditsTo n a b} (editDistance a b false)                        (isLeast_editsTo)

An alignment without swaps can be cut anywhere (`Aligns.cut`), so that an edit changes no more than
the piece around it (`Aligns.edit`), and a run of edits becomes an alignment of no more cost.  With
swaps this fails, since no letter is edited again after it was swapped.
-/

namespace Polystore.Text

/-- An alignment of two words at some cost: a letter is kept for nothing, and replaced, deleted or
inserted for one; two neighbours are swapped for one, if swaps are allowed. -/
inductive Aligns (swaps : Bool) : List Char → List Char → Nat → Prop
  | nil : Aligns swaps [] [] 0
  | keep {a b : List Char} {n : Nat} (x : Char) :
      Aligns swaps a b n → Aligns swaps (x :: a) (x :: b) n
  | replace {a b : List Char} {n : Nat} (x y : Char) :
      Aligns swaps a b n → Aligns swaps (x :: a) (y :: b) (n + 1)
  | delete {a b : List Char} {n : Nat} (x : Char) :
      Aligns swaps a b n → Aligns swaps (x :: a) b (n + 1)
  | insert {a b : List Char} {n : Nat} (y : Char) :
      Aligns swaps a b n → Aligns swaps a (y :: b) (n + 1)
  | swap {a b : List Char} {n : Nat} (x y : Char) (h : swaps = true) :
      Aligns swaps a b n → Aligns swaps (x :: y :: a) (y :: x :: b) (n + 1)

/-- One letter of a word is inserted, deleted or replaced. -/
inductive Edit : List Char → List Char → Prop
  | insert (start rest : List Char) (y : Char) : Edit (start ++ rest) (start ++ y :: rest)
  | delete (start rest : List Char) (x : Char) : Edit (start ++ x :: rest) (start ++ rest)
  | replace (start rest : List Char) (x y : Char) : Edit (start ++ x :: rest) (start ++ y :: rest)

/-- A number of edits, one after the other. -/
inductive EditsTo : Nat → List Char → List Char → Prop
  | done (a : List Char) : EditsTo 0 a a
  | step {a b c : List Char} {n : Nat} : Edit a b → EditsTo n b c → EditsTo (n + 1) a c

variable {swaps : Bool} {a b c : List Char} {m n : Nat}

/-! ## The least cost of an alignment -/

section
variable (swaps) (x y : Char) (a b : List Char)

theorem edits_cons_le :
    edits swaps (x :: a) (y :: b) ≤ min (min (edits swaps a (y :: b) + 1)
      (edits swaps (x :: a) b + 1)) (edits swaps a b + if x = y then 0 else 1) := by
  cases a with
  | nil => simp [edits]
  | cons x' a =>
    cases b with
    | nil => simp [edits]
    | cons y' b =>
      rw [edits]
      split
      · exact Nat.min_le_left _ _
      · exact Nat.le_refl _

theorem edits_keep_le : edits swaps (x :: a) (x :: b) ≤ edits swaps a b := by
  have h := edits_cons_le swaps x x a b
  rw [if_pos rfl] at h
  omega

theorem edits_replace_le : edits swaps (x :: a) (y :: b) ≤ edits swaps a b + 1 := by
  have h := edits_cons_le swaps x y a b
  split at h
  · omega
  · omega

theorem edits_delete_le : edits swaps (x :: a) b ≤ edits swaps a b + 1 := by
  cases b with
  | nil => simp [edits_nil_right]
  | cons y b =>
    have h := edits_cons_le swaps x y a b
    omega

theorem edits_insert_le : edits swaps a (y :: b) ≤ edits swaps a b + 1 := by
  cases a with
  | nil => simp [edits_nil_left]
  | cons x a =>
    have h := edits_cons_le swaps x y a b
    omega

theorem edits_swap_le : edits true (x :: y :: a) (y :: x :: b) ≤ edits true a b + 1 := by
  rw [edits]
  simp only [beq_self_eq_true, Bool.and_self, if_true]
  exact Nat.min_le_right _ _

end

/-- No alignment costs less. -/
theorem edits_le_of_aligns (h : Aligns swaps a b n) : edits swaps a b ≤ n := by
  induction h with
  | nil => simp [edits_nil_left]
  | keep x _ ih => exact Nat.le_trans (edits_keep_le _ _ _ _) ih
  | replace x y _ ih => exact Nat.le_trans (edits_replace_le _ _ _ _ _) (Nat.succ_le_succ ih)
  | delete x _ ih => exact Nat.le_trans (edits_delete_le _ _ _ _) (Nat.succ_le_succ ih)
  | insert y _ ih => exact Nat.le_trans (edits_insert_le _ _ _ _) (Nat.succ_le_succ ih)
  | swap x y h _ ih =>
    subst h
    exact Nat.le_trans (edits_swap_le _ _ _ _) (Nat.succ_le_succ ih)

theorem aligns_insertAll (swaps : Bool) (b : List Char) : Aligns swaps [] b b.length := by
  induction b with
  | nil => exact .nil
  | cons y b ih => exact .insert y ih

theorem aligns_deleteAll (swaps : Bool) (a : List Char) : Aligns swaps a [] a.length := by
  induction a with
  | nil => exact .nil
  | cons x a ih => exact .delete x ih

theorem Aligns.min (hm : Aligns swaps a b m) (hn : Aligns swaps a b n) :
    Aligns swaps a b (min m n) := by
  rcases Nat.le_total m n with h | h
  · rwa [Nat.min_eq_left h]
  · rwa [Nat.min_eq_right h]

theorem Aligns.keep_or_replace (h : Aligns swaps a b n) (x y : Char) :
    Aligns swaps (x :: a) (y :: b) (n + if x = y then 0 else 1) := by
  split
  · next he =>
    subst he
    exact .keep x h
  · exact .replace x y h

/-- The first letters of both words are dealt with in one of three ways, whichever costs least. -/
theorem aligns_cons {l : Nat} {x y : Char} (hd : Aligns swaps a (y :: b) l)
    (hi : Aligns swaps (x :: a) b m) (hk : Aligns swaps a b n) :
    Aligns swaps (x :: a) (y :: b) (min (min (l + 1) (m + 1)) (n + if x = y then 0 else 1)) :=
  ((hd.delete x).min (hi.insert y)).min (hk.keep_or_replace x y)

/-- Some alignment costs just this: the one that picks a least step each time. -/
theorem aligns_edits (swaps : Bool) (a b : List Char) : Aligns swaps a b (edits swaps a b) := by
  fun_induction edits swaps a b with
  | case1 b => exact aligns_insertAll swaps b
  | case2 x a => exact aligns_deleteAll swaps (x :: a)
  | case3 x y x' a y' b hs plain hd hi hk hrest =>
    simp only [Bool.and_eq_true, beq_iff_eq] at hs
    obtain ⟨hswaps, rfl, rfl⟩ := hs
    exact (aligns_cons hd hi hk).min (hrest.swap _ _ hswaps)
  | case4 x y x' a y' b _ plain hd hi hk => exact aligns_cons hd hi hk
  | case5 x a y b plain _ hd hi hk => exact aligns_cons hd hi hk

/-- The distance is the least cost of an alignment. -/
theorem isLeast_aligns (swaps : Bool) (a b : List Char) :
    IsLeast {n | Aligns swaps a b n} (editDistance a b swaps) := by
  rw [editDistance_eq_edits]
  exact ⟨aligns_edits swaps a b, fun n h => edits_le_of_aligns h⟩

/-! ## Alignments of given words -/

namespace Aligns

theorem refl (swaps : Bool) (a : List Char) : Aligns swaps a a 0 := by
  induction a with
  | nil => exact .nil
  | cons x a ih => exact .keep x ih

/-- Words that align at no cost are equal. -/
theorem eq_of_zero (h : Aligns swaps a b 0) : a = b := by
  generalize hn : 0 = n at h
  induction h with
  | nil => rfl
  | keep x _ ih => rw [ih hn]
  | replace | delete | insert | swap => cases hn

/-- Read from the other side, deletions are insertions. -/
theorem symm (h : Aligns swaps a b n) : Aligns swaps b a n := by
  induction h with
  | nil => exact .nil
  | keep x _ ih => exact .keep x ih
  | replace x y _ ih => exact .replace y x ih
  | delete x _ ih => exact .insert x ih
  | insert y _ ih => exact .delete y ih
  | swap x y hs _ ih => exact .swap y x hs ih

/-- Swaps may be allowed where none is made. -/
theorem allowSwaps (h : Aligns false a b n) : Aligns true a b n := by
  induction h with
  | nil => exact .nil
  | keep x _ ih => exact .keep x ih
  | replace x y _ ih => exact .replace x y ih
  | delete x _ ih => exact .delete x ih
  | insert y _ ih => exact .insert y ih
  | swap x y hs => cases hs

/-- Every step changes the difference of the lengths by what it costs at most. -/
theorem length_le (h : Aligns swaps a b n) : a.length ≤ b.length + n ∧ b.length ≤ a.length + n := by
  induction h with
  | nil => exact ⟨Nat.le_refl _, Nat.le_refl _⟩
  | keep | replace | delete | insert | swap =>
    simp only [List.length_cons]
    omega

/-- Two alignments are put next to one another. -/
theorem append {a' b' : List Char} (h : Aligns swaps a b m) (h' : Aligns swaps a' b' n) :
    Aligns swaps (a ++ a') (b ++ b') (m + n) := by
  induction h with
  | nil => rwa [Nat.zero_add]
  | keep x _ ih => exact .keep x ih
  | replace x y _ ih =>
    rw [Nat.add_right_comm]
    exact .replace x y ih
  | delete x _ ih =>
    rw [Nat.add_right_comm]
    exact .delete x ih
  | insert y _ ih =>
    rw [Nat.add_right_comm]
    exact .insert y ih
  | swap x y hs _ ih =>
    rw [Nat.add_right_comm]
    exact .swap x y hs ih

/-- An alignment without swaps is cut behind the first letter of the second word. -/
theorem cut_letter {y : Char} {t : List Char} (h : Aligns false a (y :: t) n) :
    ∃ u v k l, u ++ v = a ∧ k + l = n ∧ Aligns false u [y] k ∧ Aligns false v t l := by
  generalize hb : y :: t = b at h
  induction h with
  | nil => cases hb
  | swap x y hs => cases hs
  | delete x _ ih =>
    obtain ⟨u, v, k, l, rfl, rfl, hu, hv⟩ := ih hb
    exact ⟨x :: u, v, k + 1, l, rfl, Nat.add_right_comm _ _ _, .delete x hu, hv⟩
  | keep x h =>
    cases hb
    exact ⟨[y], _, 0, _, rfl, Nat.zero_add _, .keep y .nil, h⟩
  | replace x z h =>
    cases hb
    exact ⟨[x], _, 1, _, rfl, Nat.add_comm _ _, .replace x y .nil, h⟩
  | insert z h =>
    cases hb
    exact ⟨[], _, 1, _, rfl, Nat.add_comm _ _, .insert y .nil, h⟩

/-- An alignment without swaps is cut wherever the second word is. -/
theorem cut {s t : List Char} (h : Aligns false a (s ++ t) n) :
    ∃ u v k l, u ++ v = a ∧ k + l = n ∧ Aligns false u s k ∧ Aligns false v t l := by
  induction s generalizing a n with
  | nil => exact ⟨[], a, 0, n, rfl, Nat.zero_add n, .nil, h⟩
  | cons y s ih =>
    obtain ⟨u, v, k, l, rfl, rfl, hu, hv⟩ := h.cut_letter
    obtain ⟨w, v, m, l, rfl, rfl, hw, hv⟩ := ih hv
    exact ⟨u ++ w, v, k + m, l, List.append_assoc _ _ _, Nat.add_assoc _ _ _, hu.append hw, hv⟩

/-- Any two words are aligned by replacing letters and inserting or deleting the rest. -/
theorem atMost (swaps : Bool) (a b : List Char) : Aligns swaps a b (max a.length b.length) := by
  induction a generalizing b with
  | nil =>
    rw [List.length_nil, Nat.zero_max]
    exact aligns_insertAll swaps b
  | cons x a ih =>
    cases b with
    | nil => exact aligns_deleteAll swaps (x :: a)
    | cons y b =>
      rw [List.length_cons, List.length_cons, Nat.succ_max_succ]
      exact .replace x y (ih b)

end Aligns

/-! ## Runs of edits -/

/-- An edit puts at most one letter in place of at most one letter. -/
theorem Edit.exists_pieces (h : Edit a b) : ∃ start old new rest,
    a = start ++ (old ++ rest) ∧ b = start ++ (new ++ rest) ∧ old.length ≤ 1 ∧ new.length ≤ 1 := by
  cases h with
  | insert start rest y => exact ⟨start, [], [y], rest, rfl, rfl, Nat.zero_le _, Nat.le_refl _⟩
  | delete start rest x => exact ⟨start, [x], [], rest, rfl, rfl, Nat.le_refl _, Nat.zero_le _⟩
  | replace start rest x y => exact ⟨start, [x], [y], rest, rfl, rfl, Nat.le_refl _, Nat.le_refl _⟩

/-- After an edit of the second word, some alignment costs at most one more: what stood against the
letter that was edited is replaced as a whole. -/
theorem Aligns.edit (h : Aligns false a b n) (he : Edit b c) :
    ∃ k ≤ n + 1, Aligns false a c k := by
  obtain ⟨start, old, new, rest, rfl, rfl, hold, hnew⟩ := he.exists_pieces
  obtain ⟨u, v, k, l, rfl, rfl, hstart, hv⟩ := h.cut
  obtain ⟨w, v, m, l, rfl, rfl, hw, hrest⟩ := hv.cut
  have hlength := hw.length_le.1
  exact ⟨_, by omega, hstart.append ((Aligns.atMost false w new).append hrest)⟩

theorem Edit.symm (h : Edit a b) : Edit b a := by
  cases h with
  | insert start rest y => exact .delete start rest y
  | delete start rest x => exact .insert start rest x
  | replace start rest x y => exact .replace start rest y x

theorem Edit.cons (h : Edit a b) (x : Char) : Edit (x :: a) (x :: b) := by
  cases h with
  | insert start rest y => exact .insert (x :: start) rest y
  | delete start rest y => exact .delete (x :: start) rest y
  | replace start rest y z => exact .replace (x :: start) rest y z

namespace EditsTo

theorem trans (h₁ : EditsTo m a b) (h₂ : EditsTo n b c) : EditsTo (m + n) a c := by
  induction h₁ with
  | done => rwa [Nat.zero_add]
  | step he _ ih =>
    rw [Nat.add_right_comm]
    exact .step he (ih h₂)

theorem symm (h : EditsTo n a b) : EditsTo n b a := by
  induction h with
  | done a => exact .done a
  | step he _ ih => exact ih.trans (.step he.symm (.done _))

theorem cons (h : EditsTo n a b) (x : Char) : EditsTo n (x :: a) (x :: b) := by
  induction h with
  | done a => exact .done _
  | step he _ ih => exact .step (he.cons x) ih

/-- The steps of an alignment, but for the letters it keeps, are edits. -/
theorem of_aligns (h : Aligns false a b n) : EditsTo n a b := by
  induction h with
  | nil => exact .done []
  | keep x _ ih => exact ih.cons x
  | replace x y _ ih => exact .step (.replace [] _ x y) (ih.cons y)
  | delete x _ ih => exact .step (.delete [] _ x) ih
  | insert y _ ih => exact .step (.insert [] _ y) (ih.cons y)
  | swap x y hs => cases hs

/-- A run of edits is followed by an alignment that costs no more. -/
theorem exists_aligns (h : EditsTo n a b) : ∃ k ≤ n, Aligns false a b k := by
  induction h with
  | done a => exact ⟨0, Nat.le_refl _, .refl false a⟩
  | step he _ ih =>
    obtain ⟨k, hk, h⟩ := ih
    obtain ⟨l, hl, h⟩ := h.symm.edit he.symm
    exact ⟨l, by omega, h.symm⟩

end EditsTo

/-- Without swaps the distance is the least number of edits that change one word into the other. -/
theorem isLeast_editsTo (a b : List Char) :
    IsLeast {n | EditsTo n a b} (editDistance a b false) := by
  obtain ⟨hleast, hle⟩ := isLeast_aligns false a b
  refine ⟨.of_aligns hleast, fun n hn => ?_⟩
  obtain ⟨k, hk, h⟩ := EditsTo.exists_aligns hn
  exact Nat.le_trans (hle h) hk

/-! ## The distance -/

theorem editDistance_eq_zero_iff : editDistance a b swaps = 0 ↔ a = b := by
  obtain ⟨hleast, hle⟩ := isLeast_aligns swaps a b
  constructor
  · intro h
    rw [h] at hleast
    exact Aligns.eq_of_zero hleast
  · rintro rfl
    exact Nat.le_zero.1 (hle (.refl swaps a))

theorem editDistance_comm (swaps : Bool) (a b : List Char) :
    editDistance a b swaps = editDistance b a swaps := by
  have hle : ∀ a b, editDistance a b swaps ≤ editDistance b a swaps := fun a b =>
    (isLeast_aligns swaps a b).2 (Aligns.symm (isLeast_aligns swaps b a).1)
  exact Nat.le_antisymm (hle a b) (hle b a)

theorem editDistance_triangle (a b c : List Char) :
    editDistance a c false ≤ editDistance a b false + editDistance b c false :=
  (isLeast_editsTo a c).2 (EditsTo.trans (isLeast_editsTo a b).1 (isLeast_editsTo b c).1)

/-- Without swaps the distance is the least number of insertions, deletions and replacements of one
letter that change one word into the other, and a metric.  With swaps it is the least cost of an
alignment; it is zero on equal words alone, symmetric, at most the distance without swaps and at
least the difference of the lengths. -/
theorem editDistance_isLeast :
    (∀ a b : List Char,
      IsLeast {n | EditsTo n a b} (editDistance a b false) ∧
      (editDistance a b false = 0 ↔ a = b) ∧
      editDistance a b false = editDistance b a false ∧
      ∀ c, editDistance a c false ≤ editDistance a b false + editDistance b c false) ∧
    (∀ a b : List Char,
      IsLeast {n | Aligns true a b n} (editDistance a b true) ∧
      (editDistance a b true = 0 ↔ a = b) ∧
      editDistance a b true = editDistance b a true ∧
      editDistance a b true ≤ editDistance a b false ∧
      ((a.length : Int) - b.length).natAbs ≤ editDistance a b true) := by
  refine ⟨fun a b => ⟨isLeast_editsTo a b, editDistance_eq_zero_iff, editDistance_comm _ a b,
    editDistance_triangle a b⟩, fun a b => ?_⟩
  have hleast := isLeast_aligns true a b
  have hplain : Aligns false a b (editDistance a b false) := (isLeast_aligns false a b).1
  have hlength := Aligns.length_le hleast.1
  exact ⟨hleast, editDistance_eq_zero_iff, editDistance_comm _ a b, hleast.2 hplain.allowSwaps,
    by omega⟩

-- a swap is one edit, but its letters are not edited again
example : editDistance "ca".toList "abc".toList true = 3 := by decide

end Polystore.Text
