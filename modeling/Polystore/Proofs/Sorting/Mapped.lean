import Mathlib.Data.List.Basic
import Polystore.Sorting

/-!
# Sorting looks at items only through what they are compared by

Items that are compared by what a function tells of them are sorted as the function's values are.
Every step of the algorithm keeps this, so the whole does:

    (sortBy? (fun a b => cmp (f a) (f b)) l).map (List.map f) = sortBy? cmp (l.map f)
                                                                              (map_sortBy?)
-/

namespace Polystore

namespace Sorting

variable {α β : Type} (cmp : α → α → Ordering) (f : β → α)

/-! ## Few items -/

theorem map_sortFour (a b c d : β) :
    (sortFour (fun a b => cmp (f a) (f b)) a b c d).map f =
      sortFour cmp (f a) (f b) (f c) (f d) := by
  have hpairs : ∀ a b c d : β, (mergePairs (fun a b => cmp (f a) (f b)) a b c d).map f =
      mergePairs cmp (f a) (f b) (f c) (f d) := by
    intro a b c d
    unfold mergePairs before
    dsimp only
    split_ifs <;> simp_all
  unfold sortFour
  rw [hpairs]
  unfold before
  split_ifs <;> rfl

theorem map_sortHalf (fours : Bool) (l : List β) :
    (sortHalf (fun a b => cmp (f a) (f b)) fours l).map f = sortHalf cmp fours (l.map f) := by
  rcases l with _ | ⟨a, _ | ⟨b, _ | ⟨c, _ | ⟨d, rest⟩⟩⟩⟩
  case cons.cons.cons.cons =>
    rw [List.map_cons, List.map_cons, List.map_cons, List.map_cons, sortHalf, sortHalf]
    split
    · rw [map_insertAll, map_sortFour]
    · exact map_sortBy cmp f _
  all_goals exact map_sortBy cmp f _

theorem map_mergeSteps (fromLeft : α → α → Bool) (n : Nat) (xs ys : List β) :
    mergeSteps fromLeft n (xs.map f) (ys.map f) =
      ((mergeSteps (fun x y => fromLeft (f x) (f y)) n xs ys).1.map f,
        (mergeSteps (fun x y => fromLeft (f x) (f y)) n xs ys).2) := by
  induction n generalizing xs ys with
  | zero => simp [mergeSteps]
  | succ n ih =>
    cases xs with
    | nil => simp [mergeSteps]
    | cons x xs =>
      cases ys with
      | nil => simp [mergeSteps]
      | cons y ys =>
        rw [List.map_cons, List.map_cons, mergeSteps, mergeSteps]
        split
        · rw [← List.map_cons, ih]
          rfl
        · rw [← List.map_cons, ih]
          rfl

theorem map_mergeBoth (xs ys : List β) :
    (mergeBoth (fun a b => cmp (f a) (f b)) xs ys).map (List.map f) =
      mergeBoth cmp (xs.map f) (ys.map f) := by
  unfold mergeBoth
  rw [← List.map_reverse, ← List.map_reverse, map_mergeSteps, map_mergeSteps]
  simp only [List.length_map, ← List.map_take, ← List.map_drop, ← List.map_append,
    ← List.map_reverse]
  unfold before
  split <;> rfl

theorem map_smallSort (l : List β) :
    (smallSort (fun a b => cmp (f a) (f b)) l).map (List.map f) = smallSort cmp (l.map f) := by
  unfold smallSort
  dsimp only
  rw [map_mergeBoth, map_sortHalf, map_sortHalf, List.map_take, List.map_drop, List.length_map]

/-! ## Runs -/

/-- A run of what a function tells of the items. -/
def Run.map (r : Run β) : Run α := ⟨r.items.map f, r.sorted⟩

theorem climb_map (goesOn : α → α → Bool) (last : β) (l : List β) :
    climb (fun a b => goesOn (f a) (f b)) last l = climb goesOn (f last) (l.map f) := by
  induction l generalizing last with
  | nil => rfl
  | cons x l ih => rw [List.map_cons, climb, climb, ih]

theorem map_foundRun (l : List β) :
    (foundRun (fun a b => cmp (f a) (f b)) l).map f = foundRun cmp (l.map f) := by
  rcases l with _ | ⟨x, _ | ⟨y, rest⟩⟩
  · rfl
  · rfl
  · have hfalls : climb (before fun a b => cmp (f a) (f b)) y rest =
        climb (before cmp) (f y) (rest.map f) := climb_map f (before cmp) y rest
    have hrises : climb (fun a b => !before (fun a b => cmp (f a) (f b)) a b) y rest =
        climb (fun a b => !before cmp a b) (f y) (rest.map f) :=
      climb_map f (fun a b => !before cmp a b) y rest
    rw [List.map_cons, List.map_cons, foundRun, foundRun, hfalls, hrises, ← List.map_take,
      ← List.map_take]
    unfold before
    split
    · rw [List.map_reverse]
      rfl
    · rfl

theorem map_firstRun (atOnce : Bool) (enough : Nat) (l : List β) :
    (firstRun (fun a b => cmp (f a) (f b)) atOnce enough l).map (Run.map f) =
      firstRun cmp atOnce enough (l.map f) := by
  unfold firstRun
  dsimp only
  rw [← map_foundRun, List.length_map, ← List.map_take, ← map_smallSort, ← List.map_take]
  split
  · rfl
  · split
    · rw [Option.map_map, Option.map_map]
      rfl
    · rfl

theorem map_cut (atOnce : Bool) (enough n : Nat) (l : List β) :
    (cut (fun a b => cmp (f a) (f b)) atOnce enough n l).map (List.map (Run.map f)) =
      cut cmp atOnce enough n (l.map f) := by
  induction n generalizing l with
  | zero => rfl
  | succ n ih =>
    cases l with
    | nil => rfl
    | cons x xs =>
      rw [List.map_cons, cut, cut, ← List.map_cons, ← map_firstRun]
      cases firstRun (fun a b => cmp (f a) (f b)) atOnce enough (x :: xs) with
      | none => rfl
      | some run =>
        have hdrop : ((x :: xs).map f).drop (run.map f).items.length =
            ((x :: xs).drop run.items.length).map f := by
          rw [List.map_drop, Run.map, List.length_map]
        simp only [Option.map_some, bind, Option.bind_some, hdrop, ← ih]
        cases cut (fun a b => cmp (f a) (f b)) atOnce enough n ((x :: xs).drop run.items.length)
        · rfl
        · rfl

/-! ## Merging runs -/

theorem map_merge (xs ys : List β) :
    (merge (fun a b => cmp (f a) (f b)) xs ys).map f = merge cmp (xs.map f) (ys.map f) := by
  unfold merge
  rw [List.length_map, List.length_map]
  split
  · exact List.map_merge fun _ _ _ _ => rfl
  · rw [List.map_reverse, ← List.map_reverse (l := xs), ← List.map_reverse (l := ys)]
    exact congrArg List.reverse (List.map_merge fun _ _ _ _ => rfl)

section
variable {quick : List β → Option (List β)} {quick' : List α → Option (List α)}
  (hquick : ∀ l, (quick l).map (List.map f) = quick' (l.map f))
include hquick

theorem Run.map_settle (r : Run β) :
    (r.settle quick).map (List.map f) = (r.map f).settle quick' := by
  unfold settle
  rw [map]
  split
  · rfl
  · exact hquick _

theorem Run.map_join (left right : Run β) :
    (left.join (fun a b => cmp (f a) (f b)) quick right).map (Run.map f) =
      (left.map f).join cmp quick' (right.map f) := by
  unfold join
  rw [← map_settle f hquick, ← map_settle f hquick]
  show _ = if left.sorted || right.sorted then _ else _
  split
  · cases left.settle quick with
    | none => rfl
    | some xs =>
      cases right.settle quick with
      | none => rfl
      | some ys =>
        simp only [Option.map_some, bind, Option.bind_some, ← map_merge]
        rfl
  · simp only [Option.map_some, map, List.map_append]

/-- Runs with their depths, told of by a function. -/
def mapRuns (earlier : List (Run β × Nat)) : List (Run α × Nat) :=
  earlier.map fun p => (p.1.map f, p.2)

theorem map_joinDown (depth : Nat) (earlier : List (Run β × Nat)) (run : Run β) :
    (joinDown (fun a b => cmp (f a) (f b)) quick depth earlier run).map
        (fun p => (mapRuns f p.1, p.2.map f)) =
      joinDown cmp quick' depth (mapRuns f earlier) (run.map f) := by
  induction earlier generalizing run with
  | nil => rfl
  | cons p earlier ih =>
    obtain ⟨left, d⟩ := p
    rw [mapRuns, List.map_cons, joinDown, joinDown, ← Run.map_join cmp f hquick]
    split
    · cases left.join (fun a b => cmp (f a) (f b)) quick run with
      | none => rfl
      | some run => exact ih run
    · rfl

theorem map_joinAll (n mid : Nat) (earlier : List (Run β × Nat)) (run : Run β)
    (rest : List (Run β)) :
    (joinAll (fun a b => cmp (f a) (f b)) quick n mid earlier run rest).map (Run.map f) =
      joinAll cmp quick' n mid (mapRuns f earlier) (run.map f) (rest.map (Run.map f)) := by
  induction rest generalizing mid earlier run with
  | nil =>
    rw [List.map_nil, joinAll, joinAll, ← map_joinDown cmp f hquick, Option.map_map,
      Option.map_map]
    rfl
  | cons next rest ih =>
    have hlength : ∀ r : Run β, (r.map f).items.length = r.items.length :=
      fun r => List.length_map f
    rw [List.map_cons, joinAll, joinAll, hlength, hlength, ← map_joinDown cmp f hquick]
    cases joinDown (fun a b => cmp (f a) (f b)) quick _ earlier run with
    | none => rfl
    | some p => exact ih _ _ _

theorem map_byRuns (atOnce : Bool) (l : List β) :
    (byRuns (fun a b => cmp (f a) (f b)) atOnce quick l).map (List.map f) =
      byRuns cmp atOnce quick' (l.map f) := by
  unfold byRuns
  rw [List.length_map, ← map_cut]
  cases cut (fun a b => cmp (f a) (f b)) atOnce (enoughOf l.length) l.length l with
  | none => rfl
  | some runs =>
    cases runs with
    | nil => rfl
    | cons run rest =>
      have hlength : (run.map f).items.length = run.items.length := List.length_map f
      simp only [Option.map_some, bind, Option.bind_some, List.map_cons, hlength]
      have hall := map_joinAll cmp f hquick l.length run.items.length [] run rest
      rw [mapRuns, List.map_nil] at hall
      rw [← hall]
      cases joinAll (fun a b => cmp (f a) (f b)) quick l.length run.items.length [] run rest with
      | none => rfl
      | some joined => exact Run.map_settle f hquick joined

end

/-! ## Quicksort -/

theorem beforeAt_map (l : List β) :
    beforeAt cmp (l.map f) = beforeAt (fun a b => cmp (f a) (f b)) l := by
  funext i j
  unfold beforeAt
  rw [List.getElem?_map, List.getElem?_map]
  cases l[i]? with
  | none => rfl
  | some a => cases l[j]? <;> rfl

/-- A parting of what a function tells of the items. -/
def Parting.map (p : Parting β) : Parting α :=
  ⟨f p.pivot, p.smaller.map f, p.notSmaller.map f, p.notGreater.map f, p.greater.map f⟩

theorem map_part (place : Nat) (l : List β) :
    (part (fun a b => cmp (f a) (f b)) place l).map (Parting.map f) =
      part cmp place (l.map f) := by
  unfold part
  rw [← List.map_drop]
  cases l.drop place with
  | nil => rfl
  | cons pivot after =>
    simp only [List.map_cons, Option.map_some, Parting.map, List.map_append, List.filter_append,
      List.filter_map, ← List.map_take]
    rfl

theorem map_quicksort (limit : Nat) (least : Option β) (l : List β) :
    (quicksort (fun a b => cmp (f a) (f b)) limit least l).map (List.map f) =
      quicksort cmp limit (least.map f) (l.map f) := by
  induction limit generalizing least l with
  | zero =>
    rw [quicksort, quicksort, List.length_map]
    split
    · exact map_smallSort cmp f l
    · exact map_byRuns cmp f (map_smallSort cmp f) true l
  | succ limit ih =>
    rw [quicksort, quicksort, List.length_map, beforeAt_map, ← map_part]
    split
    · exact map_smallSort cmp f l
    · cases part (fun a b => cmp (f a) (f b)) _ l with
      | none => rfl
      | some p =>
        have hleast : (least.any fun a => !before (fun a b => cmp (f a) (f b)) a p.pivot) =
            ((least.map f).any fun a => !before cmp a (p.map f).pivot) := by
          cases least <;> rfl
        have hempty : (p.map f).smaller.isEmpty = p.smaller.isEmpty := List.isEmpty_map
        simp only [Option.map_some, bind, Option.bind_some, ← hleast, hempty]
        split
        · have hgreater : quicksort cmp limit none (p.map f).greater = _ :=
            (ih none p.greater).symm
          rw [hgreater]
          cases quicksort (fun a b => cmp (f a) (f b)) limit none p.greater with
          | none => rfl
          | some greater => exact congrArg some List.map_append
        · have hothers : quicksort cmp limit (some (p.map f).pivot) (p.map f).notSmaller = _ :=
            (ih (some p.pivot) p.notSmaller).symm
          have hsmaller : quicksort cmp limit (least.map f) (p.map f).smaller = _ :=
            (ih least p.smaller).symm
          rw [hothers, hsmaller]
          cases quicksort (fun a b => cmp (f a) (f b)) limit (some p.pivot) p.notSmaller with
          | none => rfl
          | some notSmaller =>
            cases quicksort (fun a b => cmp (f a) (f b)) limit least p.smaller with
            | none => rfl
            | some smaller => exact congrArg some List.map_append

theorem map_quick (l : List β) :
    (quick (fun a b => cmp (f a) (f b)) l).map (List.map f) = quick cmp (l.map f) := by
  unfold quick
  rw [map_quicksort, List.length_map]
  rfl

end Sorting

variable {α β : Type}

/-- Sorting by what a function tells of the items sorts what it tells, or gives up as well. -/
theorem map_sortBy? (cmp : α → α → Ordering) (f : β → α) (l : List β) :
    (sortBy? (fun a b => cmp (f a) (f b)) l).map (List.map f) = sortBy? cmp (l.map f) := by
  unfold sortBy?
  rw [List.length_map, ← map_sortBy]
  split
  · rfl
  · exact Sorting.map_byRuns cmp f (Sorting.map_quick cmp f) _ l

end Polystore
