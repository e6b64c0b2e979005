/-!
# Edit distance

The least number of single-character edits that turn one word into another.  An edit inserts,
deletes or replaces a character; if swaps are allowed, exchanging two neighbours is one edit too,
and neither of them is edited again.

`editDistance` fills the usual table from its last row upwards: the row of a suffix of the first
word holds its distances to all suffixes of the second word, the longest first.

    editDistance a b swaps = edits swaps a b        (editDistance_eq_edits)

where `edits` is the same number by plain recursion on the two words.
-/

namespace Polystore.Text

/-! ## Algorithm -/

/-- The distances of the empty word to all suffixes of a word. -/
def lastRow : List Char → List Nat
  | [] => [0]
  | _ :: b => (b.length + 1) :: lastRow b

/-- The row of `x` followed by a suffix whose first letter is `x'`: `row` is the row of that
suffix and `below` the row of the suffix without `x'`. -/
def nextRow (swaps : Bool) (x : Char) (x' : Option Char) :
    List Char → List Nat → List Nat → List Nat
  | [], row, _ => [row.headD 0 + 1]
  | y :: b, row, below =>
    let right := nextRow swaps x x' b row.tail below.tail
    let plain := min (min (row.headD 0 + 1) (right.headD 0 + 1))
      (row.tail.headD 0 + if x = y then 0 else 1)
    let entry :=
      if swaps && (x' == some y && b.head? == some x) then
        min plain (below.tail.tail.headD 0 + 1)
      else plain
    entry :: right

/-- The rows of a word and of the word without its first letter. -/
def tableRows (swaps : Bool) (b : List Char) : List Char → List Nat × List Nat
  | [] => (lastRow b, [])
  | x :: a =>
    let rows := tableRows swaps b a
    (nextRow swaps x a.head? b rows.1 rows.2, rows.1)

/-- The number of edits between two words; `swaps` allows the exchange of two neighbours. -/
def editDistance (a b : List Char) (swaps : Bool) : Nat := (tableRows swaps b a).1.headD 0

/-! ## The same number by recursion -/

/-- The least number of edits, from the first letters on. -/
def edits (swaps : Bool) : List Char → List Char → Nat
  | [], b => b.length
  | _ :: a, [] => a.length + 1
  | x :: a, y :: b =>
    let plain := min (min (edits swaps a (y :: b) + 1) (edits swaps (x :: a) b + 1))
      (edits swaps a b + if x = y then 0 else 1)
    match a, b with
    | x' :: a', y' :: b' =>
      if swaps && (x' == y && y' == x) then min plain (edits swaps a' b' + 1) else plain
    | _, _ => plain
  termination_by a b => a.length + b.length

/-- The suffixes of a word, the longest first. -/
def suffixes : List Char → List (List Char)
  | [] => [[]]
  | y :: b => (y :: b) :: suffixes b

/-! ## Lemmas -/

@[simp] theorem head?_suffixes (b : List Char) : (suffixes b).head? = some b := by
  cases b <;> rfl

theorem edits_nil_left (swaps : Bool) (b : List Char) : edits swaps [] b = b.length := by
  simp [edits]

theorem edits_nil_right (swaps : Bool) (a : List Char) : edits swaps a [] = a.length := by
  cases a <;> simp [edits]

theorem lastRow_eq (swaps : Bool) (b : List Char) :
    lastRow b = (suffixes b).map (edits swaps []) := by
  induction b with
  | nil => simp [lastRow, suffixes, edits_nil_left]
  | cons y b ih => simp [lastRow, suffixes, edits_nil_left, ih]

/-- A row computed from the exact rows below it is exact. -/
theorem nextRow_eq (swaps : Bool) (x : Char) (a b : List Char) (below : List Nat)
    (h : ∀ x' a', a = x' :: a' → below = (suffixes b).map (edits swaps a')) :
    nextRow swaps x a.head? b ((suffixes b).map (edits swaps a)) below =
      (suffixes b).map (edits swaps (x :: a)) := by
  induction b generalizing below with
  | nil => simp [nextRow, suffixes, edits_nil_right]
  | cons y b ih =>
    have ih' := ih below.tail fun x' a' e => by simp [h x' a' e, suffixes]
    simp only [nextRow, suffixes, List.map_cons, List.tail_cons, List.headD_cons] at ih' ⊢
    rw [ih']
    cases a with
    | nil => simp [edits]
    | cons x' a' =>
      have hb := h x' a' rfl
      cases b with
      | nil => simp [edits, suffixes]
      | cons y' b' =>
        rw [edits, hb]
        simp [suffixes]

/-- Both rows that are carried upwards are exact. -/
theorem tableRows_eq (swaps : Bool) (b a : List Char) :
    (tableRows swaps b a).1 = (suffixes b).map (edits swaps a) ∧
      ∀ x a', a = x :: a' → (tableRows swaps b a).2 = (suffixes b).map (edits swaps a') := by
  induction a with
  | nil => simp [tableRows, lastRow_eq swaps]
  | cons x a ih =>
    obtain ⟨h₁, h₂⟩ := ih
    refine ⟨?_, fun x' a' e => ?_⟩
    · simp only [tableRows, h₁]
      exact nextRow_eq swaps x a b _ h₂
    · obtain ⟨rfl, rfl⟩ := List.cons.inj e
      exact h₁

/-- The table computes the least number of edits. -/
theorem editDistance_eq_edits (swaps : Bool) (a b : List Char) :
    editDistance a b swaps = edits swaps a b := by
  simp [editDistance, (tableRows_eq swaps b a).1]

end Polystore.Text
