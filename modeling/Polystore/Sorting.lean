/-!
# Stable sorting

Sorting by a comparison that may leave items undecided.  Items that compare equal keep their order.

A short list is sorted by insertion: each item is inserted after the last one that it does not come
before.  A longer list is cut into runs, which are merged pairwise; a run is either found in the
list, or made by sorting a part of it, with quicksort and, for few items, a merge of two halves that
goes from both ends at once.  If the comparison is no order, that merge can take an item from both
ends.  Then the list is not sorted: there is no answer.

    (sortBy cmp l).Perm l                                               (sortBy_perm)
    (sortBy (fun a b => cmp (f a) (f b)) l).map f = sortBy cmp (l.map f)  (map_sortBy)
-/

namespace Polystore

/-! ## Insertion -/

variable {α : Type}

/-- Inserts an item into a list that is sorted from its end on: it moves past the items that it
comes before. -/
def insertBack (cmp : α → α → Ordering) (x : α) : List α → List α
  | [] => [x]
  | y :: ys => if cmp x y == .lt then y :: insertBack cmp x ys else x :: y :: ys

/-- A sorted list with further items inserted one after the other. -/
def insertAll (cmp : α → α → Ordering) (sorted new : List α) : List α :=
  (new.foldl (fun acc x => insertBack cmp x acc) sorted.reverse).reverse

/-- The list in increasing order. -/
def sortBy (cmp : α → α → Ordering) (l : List α) : List α := insertAll cmp [] l

namespace Sorting

variable (cmp : α → α → Ordering)

/-- Does the first item come before the second? -/
def before (a b : α) : Bool := cmp a b == .lt

/-! ## Few items -/

/-- Two pairs in order as one list.  The outer items are compared first; of the two others it is
known which one stood on the left. -/
def mergePairs (a b c d : α) : List α :=
  let first := if before cmp c a then c else a
  let last := if before cmp d b then b else d
  let left := if before cmp c a then a else if before cmp d b then c else b
  let right := if before cmp d b then d else if before cmp c a then b else c
  if before cmp right left then [first, right, left, last] else [first, left, right, last]

/-- Four items in order. -/
def sortFour (a b c d : α) : List α :=
  let p := if before cmp b a then (b, a) else (a, b)
  let q := if before cmp d c then (d, c) else (c, d)
  mergePairs cmp p.1 p.2 q.1 q.2

/-- The half of a list in order: by insertion, perhaps into its first four items in order. -/
def sortHalf (fours : Bool) : List α → List α
  | a :: b :: c :: d :: rest =>
    if fours then insertAll cmp (sortFour cmp a b c d) rest
    else sortBy cmp (a :: b :: c :: d :: rest)
  | l => sortBy cmp l

/-- What some steps of a merge take, and from which list how many.  A step takes the first item of
the one list or of the other. -/
def mergeSteps (fromLeft : α → α → Bool) : Nat → List α → List α → List α × Nat × Nat
  | n + 1, x :: xs, y :: ys =>
    if fromLeft x y then
      let taken := mergeSteps fromLeft n xs (y :: ys)
      (x :: taken.1, taken.2.1 + 1, taken.2.2)
    else
      let taken := mergeSteps fromLeft n (x :: xs) ys
      (y :: taken.1, taken.2.1, taken.2.2 + 1)
  | _, _, _ => ([], 0, 0)

/-- Merges two lists from both ends at once, as many steps from either as the left list is long.
There is no answer if an item is taken from both ends. -/
def mergeBoth (xs ys : List α) : Option (List α) :=
  let front := mergeSteps (fun x y => !before cmp y x) xs.length xs ys
  let back := mergeSteps (fun y x => !before cmp y x) xs.length ys.reverse xs.reverse
  let xsLeft := xs.take (xs.length - back.2.2)
  let ysLeft := ys.take (ys.length - back.2.1)
  if front.2.1 ≤ xsLeft.length ∧ front.2.2 ≤ ysLeft.length then
    some (front.1 ++ (xsLeft.drop front.2.1 ++ ysLeft.drop front.2.2) ++ back.1.reverse)
  else none

/-- A few items in order: both halves are sorted, then merged. -/
def smallSort (l : List α) : Option (List α) :=
  let sortHalf := sortHalf cmp (decide (8 ≤ l.length))
  mergeBoth cmp (sortHalf (l.take (l.length / 2))) (sortHalf (l.drop (l.length / 2)))

/-- The largest number of items that count as few. -/
def few : Nat := 32

/-! ## Runs -/

/-- Part of a list, which may be sorted already. -/
structure Run (α : Type) where
  items : List α
  sorted : Bool

/-- How many items go on, one after the other, in the way the first one does. -/
def climb (goesOn : α → α → Bool) (last : α) : List α → Nat
  | [] => 0
  | x :: xs => if goesOn x last then climb goesOn x xs + 1 else 0

/-- The run that a list starts with: the items that do not fall, or those that fall, turned
around. -/
def foundRun : List α → List α
  | x :: y :: rest =>
    if before cmp y x then (x :: y :: rest.take (climb (before cmp) y rest)).reverse
    else x :: y :: rest.take (climb (fun a b => !before cmp a b) y rest)
  | l => l

/-- The first run of a list: the one that it starts with if that one is long enough, or else a part
of the list, which is sorted at once or later. -/
def firstRun (atOnce : Bool) (enough : Nat) (l : List α) : Option (Run α) :=
  let run := foundRun cmp l
  if enough ≤ run.length then some ⟨run, true⟩
  else if atOnce then (smallSort cmp (l.take few)).map fun sorted => ⟨sorted, true⟩
  else some ⟨l.take enough, false⟩

/-- The list cut into at most so many runs. -/
def cut (atOnce : Bool) (enough : Nat) : Nat → List α → Option (List (Run α))
  | n + 1, x :: xs => do
    let run ← firstRun cmp atOnce enough (x :: xs)
    let rest ← cut atOnce enough n ((x :: xs).drop run.items.length)
    some (run :: rest)
  | _, _ => some []

/-! ## Merging runs -/

/-- Two sorted lists as one.  The merge starts at the end of the shorter one. -/
def merge (xs ys : List α) : List α :=
  if xs.length ≤ ys.length then xs.merge ys fun x y => !before cmp y x
  else (ys.reverse.merge xs.reverse fun y x => !before cmp y x).reverse

/-- The items of a run in order. -/
def Run.settle (quick : List α → Option (List α)) (r : Run α) : Option (List α) :=
  if r.sorted then some r.items else quick r.items

/-- Two neighbouring runs as one, which is sorted if one of them is. -/
def Run.join (quick : List α → Option (List α)) (left right : Run α) : Option (Run α) :=
  if left.sorted || right.sorted then do
    let xs ← left.settle quick
    let ys ← right.settle quick
    some ⟨merge cmp xs ys, true⟩
  else some ⟨left.items ++ right.items, false⟩

/-- Joins a run with those before it, the nearest first, as long as they belong at least so deep
into the tree of merges. -/
def joinDown (quick : List α → Option (List α)) (depth : Nat) :
    List (Run α × Nat) → Run α → Option (List (Run α × Nat) × Run α)
  | (left, d) :: earlier, run =>
    if depth ≤ d then do joinDown quick depth earlier (← left.join cmp quick run)
    else some ((left, d) :: earlier, run)
  | [], run => some ([], run)

/-- How deep into the tree of merges over `n` items the border of two neighbouring runs belongs:
the number of leading binary digits that the middles of both have in common. -/
def depthOf (n left mid right : Nat) : Nat :=
  let scale := ((1 <<< 62) + n - 1) / n
  let differing := (scale * (left + mid)) ^^^ (scale * (mid + right))
  if differing = 0 then 64 else 63 - differing.log2

/-- Joins all runs; `mid` is the end of the last one that was looked at. -/
def joinAll (quick : List α → Option (List α)) (n : Nat) :
    Nat → List (Run α × Nat) → Run α → List (Run α) → Option (Run α)
  | mid, earlier, run, next :: rest => do
    let right := mid + next.items.length
    let depth := depthOf n (mid - run.items.length) mid right
    let (earlier, run) ← joinDown cmp quick depth earlier run
    joinAll quick n right ((run, depth) :: earlier) next rest
  | _, earlier, run, [] => (joinDown cmp quick 0 earlier run).map Prod.snd

/-- The length from which on a run in a list of `n` items is worth keeping: half the list, up to
64, or about the square root of a long list. -/
def enoughOf (n : Nat) : Nat :=
  if n ≤ 4096 then min (n - n / 2) 64
  else
    let shift := (1 + n.log2) / 2
    ((1 <<< shift) + (n >>> shift)) / 2

/-- The list in order: it is cut into runs, and these are joined. -/
def byRuns (atOnce : Bool) (quick : List α → Option (List α)) (l : List α) : Option (List α) := do
  match ← cut cmp atOnce (enoughOf l.length) l.length l with
  | [] => some []
  | run :: rest => (← joinAll cmp quick l.length run.items.length [] run rest).settle quick

/-! ## Quicksort -/

/-- The place of the middle one of three items. -/
def median (less : Nat → Nat → Bool) (a b c : Nat) : Nat :=
  if less a b == less a c then if less b c == less a b then b else c else a

/-- The place of an item near the middle, among `n` from a place on. -/
def pivotIn (less : Nat → Nat → Bool) (start n : Nat) : Nat :=
  let step := n / 8
  if 8 ≤ step then
    median less (pivotIn less start step) (pivotIn less (start + 4 * step) step)
      (pivotIn less (start + 7 * step) step)
  else median less start (start + 4 * step) (start + 7 * step)
termination_by n

/-- Does the item at one place come before the one at another? -/
def beforeAt (l : List α) (i j : Nat) : Bool :=
  match l[i]?, l[j]? with
  | some a, some b => before cmp a b
  | _, _ => false

/-- A list parted at a pivot in two ways, into the smaller items and the others, and into the
greater items and the others.  The pivot is among the others both times. -/
structure Parting (α : Type) where
  pivot : α
  smaller : List α
  notSmaller : List α
  notGreater : List α
  greater : List α

/-- Parts a list at the item in a place; the items of a part keep their order. -/
def part (place : Nat) (l : List α) : Option (Parting α) :=
  match l.drop place with
  | [] => none
  | pivot :: after =>
    let earlier := l.take place
    let notSmaller := fun x => !before cmp x pivot
    let notGreater := fun x => !before cmp pivot x
    some
      { pivot
        smaller := (earlier ++ after).filter fun x => before cmp x pivot
        notSmaller := earlier.filter notSmaller ++ pivot :: after.filter notSmaller
        notGreater := earlier.filter notGreater ++ pivot :: after.filter notGreater
        greater := (earlier ++ after).filter fun x => before cmp pivot x }

/-- Sorts by parting the list at a pivot, `limit` times at most.  No item of the list comes before
`least`, a pivot of an earlier parting: a pivot that `least` does not come before is one of the
least items, and so are all that are not greater. -/
def quicksort : Nat → Option α → List α → Option (List α)
  | 0, _, l => if l.length ≤ few then smallSort cmp l else byRuns cmp true (smallSort cmp) l
  | limit + 1, least, l =>
    if l.length ≤ few then smallSort cmp l
    else do
      let p ← part cmp (pivotIn (beforeAt cmp l) 0 l.length) l
      if (least.any fun a => !before cmp a p.pivot) || p.smaller.isEmpty then do
        let greater ← quicksort limit none p.greater
        some (p.notGreater ++ greater)
      else do
        let notSmaller ← quicksort limit (some p.pivot) p.notSmaller
        let smaller ← quicksort limit least p.smaller
        some (smaller ++ notSmaller)

/-- Quicksort with a limit for the depth. -/
def quick (l : List α) : Option (List α) := quicksort cmp (2 * l.length.log2) none l

end Sorting

/-- The list in increasing order, unless the comparison turns out to be no order. -/
def sortBy? (cmp : α → α → Ordering) (l : List α) : Option (List α) :=
  if l.length ≤ 20 then some (sortBy cmp l)
  else Sorting.byRuns cmp (decide (l.length ≤ 64)) (Sorting.quick cmp) l

/-! ## Lemmas -/

theorem insertBack_perm (cmp : α → α → Ordering) (x : α) (l : List α) :
    (insertBack cmp x l).Perm (x :: l) := by
  induction l with
  | nil => exact .refl _
  | cons y ys ih =>
    simp only [insertBack]
    split
    · exact (ih.cons y).trans (.swap x y ys)
    · exact .refl _

/-- Insertion looks at items only through what they are compared by. -/
theorem map_insertBack {β : Type} (cmp : α → α → Ordering) (f : β → α) (x : β) (l : List β) :
    (insertBack (fun a b => cmp (f a) (f b)) x l).map f = insertBack cmp (f x) (l.map f) := by
  induction l with
  | nil => rfl
  | cons y ys ih =>
    simp only [insertBack, List.map_cons]
    split
    · rw [List.map_cons, ih]
    · rfl

/-- Inserting items rearranges them. -/
theorem insertAll_perm (cmp : α → α → Ordering) (sorted new : List α) :
    (insertAll cmp sorted new).Perm (sorted ++ new) := by
  refine (List.reverse_perm _).trans ?_
  suffices h : ∀ acc : List α,
      (new.foldl (fun acc x => insertBack cmp x acc) acc).Perm (acc ++ new) from
    (h _).trans ((List.reverse_perm _).append_right _)
  induction new with
  | nil => exact fun acc => .of_eq (List.append_nil acc).symm
  | cons x new ih =>
    intro acc
    exact (ih _).trans
      (((insertBack_perm cmp x acc).append_right new).trans List.perm_middle.symm)

/-- Inserting looks at items only through what they are compared by. -/
theorem map_insertAll {β : Type} (cmp : α → α → Ordering) (f : β → α) (sorted new : List β) :
    (insertAll (fun a b => cmp (f a) (f b)) sorted new).map f =
      insertAll cmp (sorted.map f) (new.map f) := by
  rw [insertAll, insertAll, List.map_reverse, ← List.map_reverse (l := sorted)]
  generalize sorted.reverse = acc
  induction new generalizing acc with
  | nil => rfl
  | cons x new ih => rw [List.foldl_cons, ih, map_insertBack, List.map_cons, List.foldl_cons]

/-- Sorting rearranges the list. -/
theorem sortBy_perm (cmp : α → α → Ordering) (l : List α) : (sortBy cmp l).Perm l :=
  insertAll_perm cmp [] l

/-- Sorting by what a function tells of the items sorts what it tells. -/
theorem map_sortBy {β : Type} (cmp : α → α → Ordering) (f : β → α) (l : List β) :
    (sortBy (fun a b => cmp (f a) (f b)) l).map f = sortBy cmp (l.map f) :=
  map_insertAll cmp f [] l

end Polystore
