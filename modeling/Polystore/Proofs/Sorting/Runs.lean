import Polystore.Proofs.Sorting.Arranged

/-!
# Sorting long lists

What is sorted in parts is sorted: the runs that a list is cut into hold its items, a join holds the
items of the two runs it is made of, and the parts of a list at a pivot are sorted apart.  Nothing
can go wrong but a merge from both ends, and that does not if a jump is only over items that may not
stand before (`Strict`).

    Laws cmp R J E → Answers (Strict R J) (Arranged R E l) (sortBy? cmp l)      (Laws.sortBy?)
-/

namespace Polystore

open Sorting

/-- What is asked of an answer, and when there is sure to be one. -/
structure Answers {β : Type} (sure : Prop) (Q : β → Prop) (o : Option β) : Prop where
  right : ∀ {b}, o = some b → Q b
  given : sure → o.isSome

namespace Answers

variable {β γ : Type} {sure : Prop} {Q Q' : β → Prop} {Q'' : γ → Prop}

theorem some {b : β} (hb : Q b) : Answers sure Q (.some b) where
  right hb' := by
    cases hb'
    exact hb
  given _ := rfl

theorem bind {o : Option β} (ho : Answers sure Q o) {f : β → Option γ}
    (hf : ∀ b, Q b → Answers sure Q'' (f b)) : Answers sure Q'' (o.bind f) := by
  cases o with
  | none => exact ⟨nofun, ho.given⟩
  | some b => exact hf b (ho.right rfl)

theorem map {o : Option β} (ho : Answers sure Q o) {f : β → γ} (hf : ∀ b, Q b → Q'' (f b)) :
    Answers sure Q'' (o.map f) := by
  rw [Option.map_eq_bind]
  exact ho.bind fun b hb => .some (hf b hb)

theorem mono {o : Option β} (ho : Answers sure Q o) (hQ : ∀ b, Q b → Q' b) : Answers sure Q' o :=
  ⟨fun hb => hQ _ (ho.right hb), ho.given⟩

end Answers

variable {α : Type} {cmp : α → α → Ordering} {R J : α → α → Prop} {E : List α → List α → Prop}

/-- An item jumps only over items that may not stand before it. -/
def Strict (R J : α → α → Prop) : Prop := ∀ a b, J a b → ¬ R b a

/-- A run in order, if it is said to be sorted. -/
def Sorting.Run.Ordered (R : α → α → Prop) (r : Run α) : Prop :=
  r.sorted = true → r.items.Pairwise R

/-- The items of runs that stand one before the other, the last one first. -/
def Sorting.itemsOf (earlier : List (Run α × Nat)) : List α :=
  earlier.reverse.flatMap fun p => p.1.items

/-- The place of the pivot is one of the list. -/
theorem Sorting.pivotIn_bounds (less : Nat → Nat → Bool) (start n : Nat) (hn : 0 < n) :
    start ≤ pivotIn less start n ∧ pivotIn less start n < start + n := by
  have hmedian : ∀ {a b c lo hi : Nat}, (lo ≤ a ∧ a < hi) → (lo ≤ b ∧ b < hi) →
      (lo ≤ c ∧ c < hi) → lo ≤ median less a b c ∧ median less a b c < hi := by
    intro a b c lo hi ha hb hc
    unfold median
    split
    · split
      · exact hb
      · exact hc
    · exact ha
  have hstep : n / 8 * 8 ≤ n := Nat.div_mul_le_self n 8
  fun_induction pivotIn less start n with
  | case1 start n step hrec ih₁ ih₂ ih₃ =>
    have h₁ := ih₁ (by omega) (by omega)
    have h₂ := ih₂ (by omega) (by omega)
    have h₃ := ih₃ (by omega) (by omega)
    exact hmedian (by omega) (by omega) (by omega)
  | case2 start n step hrec =>
    exact hmedian (by omega) (by omega) (by omega)

/-- What holds of an item, and of all items without a property, holds of the two parts around the
item once those with the property are taken out. -/
theorem forall_around {P : α → Prop} {p : α → Bool} {l m : List α} {a : α} (ha : P a)
    (hp : ∀ x, p x = false → P x) :
    ∀ x ∈ (l.filter fun x => !p x) ++ a :: m.filter fun y => !p y, P x := by
  have hpart : ∀ l : List α, ∀ x ∈ l.filter fun x => !p x, P x := fun l x hx =>
    hp x (by simpa using (List.mem_filter.1 hx).2)
  exact List.forall_mem_append.2 ⟨hpart l, List.forall_mem_cons.2 ⟨ha, hpart m⟩⟩

namespace Laws

variable (h : Laws cmp R J E)
include h

/-! ## Few items -/

theorem smallSort (l : List α) : Answers (Strict R J) (Arranged R E l) (smallSort cmp l) := by
  have hleft := h.sortHalf (decide (8 ≤ l.length)) (l.take (l.length / 2))
  have hright := h.sortHalf (decide (8 ≤ l.length)) (l.drop (l.length / 2))
  have hlength := (h.perm hleft.moves).length_eq
  have hlength' := (h.perm hright.moves).length_eq
  rw [List.length_take] at hlength
  rw [List.length_drop] at hlength'
  constructor
  · intro s hs
    obtain ⟨hmoves, hordered⟩ :=
      h.mergeBoth hleft.ordered hright.ordered (by omega) (by omega) hs
    have hhalves := h.append hleft.moves hright.moves
    rw [List.take_append_drop] at hhalves
    exact ⟨h.after hmoves hhalves, hordered⟩
  · intro hstrict
    exact h.mergeBoth_isSome hleft.ordered hright.ordered hstrict (by omega)

/-! ## Runs -/

theorem falling (x : α) (l : List α) :
    Arranged R E (x :: l.take (climb (before cmp) x l))
        (x :: l.take (climb (before cmp) x l)).reverse ∧
      ∀ z ∈ l.take (climb (before cmp) x l), J z x ∧ R z x := by
  induction l generalizing x with
  | nil => exact ⟨h.arranged_of_pairwise (List.pairwise_singleton R x), by simp⟩
  | cons y l ih =>
    rw [climb]
    split
    · next hyx =>
      obtain ⟨⟨hmoves, hordered⟩, hlower⟩ := ih y
      rw [List.take_succ_cons]
      have hall : ∀ z ∈ y :: l.take (climb (before cmp) y l), J z x ∧ R z x :=
        List.forall_mem_cons.2 ⟨⟨h.jump hyx, h.of_before hyx⟩, fun z hz =>
          ⟨h.jump_after (hlower z hz).2 hyx, h.trans (hlower z hz).2 (h.of_before hyx)⟩⟩
      refine ⟨⟨?_, ?_⟩, hall⟩
      · rw [List.reverse_cons]
        refine h.after (h.append hmoves (h.same [x])) ?_
        have hjump : ∀ z ∈ y :: l.take (climb (before cmp) y l), ∀ w ∈ [x], J z w :=
          fun z hz w hw => List.mem_singleton.1 hw ▸ (hall z hz).1
        simpa using h.exchange hjump []
      · rw [List.reverse_cons]
        refine List.pairwise_append.2 ⟨hordered, List.pairwise_singleton R x, ?_⟩
        exact fun z hz w hw => List.mem_singleton.1 hw ▸ (hall z (List.mem_reverse.1 hz)).2
    · exact ⟨h.arranged_of_pairwise (List.pairwise_singleton R x), by simp⟩

theorem rising (x : α) (l : List α) :
    (x :: l.take (climb (fun a b => !before cmp a b) x l)).Pairwise R := by
  induction l generalizing x with
  | nil => exact List.pairwise_singleton R x
  | cons y l ih =>
    rw [climb]
    split
    · next hyx =>
      have hxy : R x y := h.of_not_before (by simpa using hyx)
      rw [List.take_succ_cons]
      refine List.pairwise_cons.2 ⟨List.forall_mem_cons.2 ⟨hxy, fun z hz => ?_⟩, ih y⟩
      exact h.trans hxy (List.rel_of_pairwise_cons (ih y) hz)
    · exact List.pairwise_singleton R x

theorem foundRun (l : List α) : ∃ n, Arranged R E (l.take (n + 1)) (foundRun cmp l) := by
  rcases l with _ | ⟨x, _ | ⟨y, rest⟩⟩
  · exact ⟨0, h.arranged_of_pairwise .nil⟩
  · exact ⟨0, h.arranged_of_pairwise (List.pairwise_singleton R x)⟩
  · rw [Sorting.foundRun]
    split
    · next hyx =>
      have hfalling := (h.falling x (y :: rest)).1
      rw [climb, if_pos hyx, List.take_succ_cons] at hfalling
      exact ⟨climb (before cmp) y rest + 1, hfalling⟩
    · next hyx =>
      have hrising := h.rising x (y :: rest)
      rw [climb, if_pos (by simpa using hyx), List.take_succ_cons] at hrising
      exact ⟨climb (fun a b => !before cmp a b) y rest + 1, h.arranged_of_pairwise hrising⟩

theorem firstRun (atOnce : Bool) (enough : Nat) (l : List α) :
    Answers (Strict R J) (fun r => (∃ n, E r.items (l.take (n + 1))) ∧ r.Ordered R)
      (firstRun cmp atOnce enough l) := by
  unfold Sorting.firstRun
  dsimp only
  split
  · obtain ⟨n, hmoves, hordered⟩ := h.foundRun l
    exact .some ⟨⟨n, hmoves⟩, fun _ => hordered⟩
  · next henough =>
    split
    · exact (h.smallSort (l.take few)).map fun s hs => ⟨⟨31, hs.moves⟩, fun _ => hs.ordered⟩
    · refine .some ⟨⟨enough - 1, ?_⟩, nofun⟩
      rw [Nat.sub_add_cancel (by omega)]
      exact h.same _

theorem cut (atOnce : Bool) (enough : Nat) {n : Nat} {l : List α} (hn : l.length ≤ n) :
    Answers (Strict R J)
      (fun runs => E (runs.flatMap Run.items) l ∧ ∀ r ∈ runs, Run.Ordered R r)
      (cut cmp atOnce enough n l) := by
  have hnil : Answers (Strict R J)
      (fun runs => E (runs.flatMap Run.items) ([] : List α) ∧ ∀ r ∈ runs, Run.Ordered R r)
      (some []) := .some ⟨h.same [], by simp⟩
  induction n generalizing l with
  | zero =>
    rw [List.eq_nil_of_length_eq_zero (Nat.le_zero.1 hn)]
    exact hnil
  | succ n ih =>
    rcases l with _ | ⟨x, xs⟩
    · exact hnil
    refine (h.firstRun atOnce enough (x :: xs)).bind fun run hrun => ?_
    obtain ⟨⟨k, hmoves⟩, hordered⟩ := hrun
    have hlength : run.items.length = min (k + 1) (xs.length + 1) := by
      rw [(h.perm hmoves).length_eq, List.length_take, List.length_cons]
    have hrest : ((x :: xs).drop run.items.length).length ≤ n := by
      rw [List.length_drop]
      rw [List.length_cons] at hn ⊢
      omega
    have htake : (x :: xs).take (k + 1) = (x :: xs).take run.items.length := by
      rw [List.take_eq_take_iff, hlength, List.length_cons]
      omega
    refine (ih hrest).bind fun runs hruns =>
      .some ⟨?_, List.forall_mem_cons.2 ⟨hordered, hruns.2⟩⟩
    have hall := h.append hmoves hruns.1
    rwa [htake, List.take_append_drop] at hall

/-! ## Joins -/

section
variable {quick : List α → Option (List α)}
  (hquick : ∀ l, Answers (Strict R J) (Arranged R E l) (quick l))
include hquick

theorem settle {r : Run α} (hr : r.Ordered R) :
    Answers (Strict R J) (Arranged R E r.items) (r.settle quick) := by
  unfold Run.settle
  split
  · next hsorted => exact .some (h.arranged_of_pairwise (hr hsorted))
  · exact hquick _

theorem join {left right : Run α} (hleft : left.Ordered R) (hright : right.Ordered R) :
    Answers (Strict R J) (fun r => E r.items (left.items ++ right.items) ∧ r.Ordered R)
      (left.join cmp quick right) := by
  unfold Run.join
  split
  · refine (h.settle hquick hleft).bind fun xs hxs => ?_
    refine (h.settle hquick hright).bind fun ys hys => ?_
    obtain ⟨hmoves, hordered⟩ := h.merge hxs.ordered hys.ordered
    exact .some ⟨h.after hmoves (h.append hxs.moves hys.moves), fun _ => hordered⟩
  · exact .some ⟨h.same _, nofun⟩

theorem joinDown (depth : Nat) {earlier : List (Run α × Nat)} {run : Run α}
    (hearlier : ∀ p ∈ earlier, Run.Ordered R p.1) (hrun : run.Ordered R) :
    Answers (Strict R J)
      (fun p => E (itemsOf p.1 ++ p.2.items) (itemsOf earlier ++ run.items) ∧
        (∀ q ∈ p.1, Run.Ordered R q.1) ∧ p.2.Ordered R ∧ (depth = 0 → p.1 = []))
      (joinDown cmp quick depth earlier run) := by
  induction earlier generalizing run with
  | nil => exact .some ⟨h.same _, hearlier, hrun, fun _ => rfl⟩
  | cons p earlier ih =>
    obtain ⟨left, d⟩ := p
    obtain ⟨hleft, hrest⟩ := List.forall_mem_cons.1 hearlier
    have hitems : itemsOf ((left, d) :: earlier) ++ run.items =
        itemsOf earlier ++ (left.items ++ run.items) := by
      simp [itemsOf]
    rw [Sorting.joinDown, hitems]
    split
    · refine (h.join hquick hleft hrun).bind fun joined hjoined => ?_
      refine (ih hrest hjoined.2).mono fun q hq => ⟨?_, hq.2⟩
      exact h.after hq.1 (h.append (h.same _) hjoined.1)
    · next hdepth =>
      refine .some ⟨?_, hearlier, hrun, fun h0 => absurd (h0 ▸ Nat.zero_le d) hdepth⟩
      rw [hitems]
      exact h.same _

theorem joinAll (n mid : Nat) {earlier : List (Run α × Nat)} {run : Run α} {rest : List (Run α)}
    (hearlier : ∀ p ∈ earlier, Run.Ordered R p.1) (hrun : run.Ordered R)
    (hrest : ∀ r ∈ rest, Run.Ordered R r) :
    Answers (Strict R J)
      (fun r => E r.items (itemsOf earlier ++ (run.items ++ rest.flatMap Run.items)) ∧
        r.Ordered R)
      (joinAll cmp quick n mid earlier run rest) := by
  induction rest generalizing mid earlier run with
  | nil =>
    refine (h.joinDown hquick 0 hearlier hrun).map fun p hp => ⟨?_, hp.2.2.1⟩
    have hmoves := hp.1
    rw [hp.2.2.2 rfl] at hmoves
    simpa [itemsOf] using hmoves
  | cons next rest ih =>
    obtain ⟨hnext, hrest⟩ := List.forall_mem_cons.1 hrest
    refine (h.joinDown hquick _ hearlier hrun).bind fun p hp => ?_
    obtain ⟨hmoves, hordered, hlast, -⟩ := hp
    refine (ih _ (List.forall_mem_cons.2 ⟨hlast, hordered⟩) hnext hrest).mono
      fun r hr => ⟨h.after hr.1 ?_, hr.2⟩
    have hall := h.append hmoves (h.same (next.items ++ rest.flatMap Run.items))
    simpa [itemsOf] using hall

theorem byRuns (atOnce : Bool) (l : List α) :
    Answers (Strict R J) (Arranged R E l) (byRuns cmp atOnce quick l) := by
  refine (h.cut atOnce (enoughOf l.length) (Nat.le_refl _)).bind fun runs hruns => ?_
  obtain ⟨hmoves, hordered⟩ := hruns
  cases runs with
  | nil => exact .some ⟨hmoves, .nil⟩
  | cons run rest =>
    obtain ⟨hrun, hrest⟩ := List.forall_mem_cons.1 hordered
    refine (h.joinAll hquick _ _ (by simp) hrun hrest).bind fun joined hjoined => ?_
    exact (h.settle hquick hjoined.2).mono fun s hs =>
      ⟨h.after hs.moves (h.after hjoined.1 hmoves), hs.ordered⟩

end

/-! ## Quicksort -/

/-- The items with a property, before the others. -/
theorem filter_append {p : α → Bool} {l : List α}
    (hj : ∀ a ∈ l, ∀ b ∈ l, p a = true → p b = false → J a b) :
    E (l.filter p ++ l.filter fun a => !p a) l := by
  induction l with
  | nil => exact h.same []
  | cons a l ih =>
    have hrest := ih fun b hb c hc => hj b (.tail _ hb) c (.tail _ hc)
    cases hp : p a with
    | true =>
      rw [List.filter_cons_of_pos hp, List.filter_cons_of_neg (by simp [hp])]
      exact h.cons a hrest
    | false =>
      rw [List.filter_cons_of_neg (by simp [hp]), List.filter_cons_of_pos (by simp [hp])]
      have hjump : ∀ b ∈ l.filter p, ∀ c ∈ [a], J b c := by
        intro b hb c hc
        obtain ⟨hb, hpb⟩ := List.mem_filter.1 hb
        exact List.mem_singleton.1 hc ▸ hj b (.tail _ hb) a (.head _) hpb hp
      exact h.after (h.exchange hjump _) (h.cons a hrest)

/-- The items with a property, before the others with an item that is kept in its place. -/
theorem filter_around {p : α → Bool} {l m : List α} {a : α}
    (hj : ∀ x ∈ l ++ m, ∀ y ∈ l ++ m, p x = true → p y = false → J x y)
    (ha : ∀ y ∈ m, p y = true → J y a) :
    E ((l ++ m).filter p ++ ((l.filter fun x => !p x) ++ a :: m.filter fun y => !p y))
      (l ++ a :: m) := by
  have hl : E (l.filter p ++ l.filter fun x => !p x) l :=
    h.filter_append fun x hx y hy => hj x (List.mem_append_left _ hx) y (List.mem_append_left _ hy)
  have hm : E (m.filter p ++ m.filter fun y => !p y) m := h.filter_append fun x hx y hy =>
    hj x (List.mem_append_right _ hx) y (List.mem_append_right _ hy)
  have hjump : ∀ y ∈ m.filter p, ∀ x ∈ (l.filter fun x => !p x) ++ [a], J y x := by
    intro y hy x hx
    obtain ⟨hy, hpy⟩ := List.mem_filter.1 hy
    rcases List.mem_append.1 hx with hx | hx
    · obtain ⟨hx, hpx⟩ := List.mem_filter.1 hx
      exact hj y (List.mem_append_right _ hy) x (List.mem_append_left _ hx) hpy (by simpa using hpx)
    · exact List.mem_singleton.1 hx ▸ ha y hy hpy
  have hmoves := h.append (h.same (l.filter p)) (h.exchange hjump (m.filter fun y => !p y))
  have hparts := h.append hl (h.cons a hm)
  rw [List.filter_append]
  simp only [List.append_assoc, List.cons_append] at hmoves hparts ⊢
  exact h.after hmoves hparts

/-- The same from the right: the items with a property after the others. -/
theorem filter_around_right {p : α → Bool} {l m : List α} {a : α}
    (hj : ∀ x ∈ l ++ m, ∀ y ∈ l ++ m, p x = true → p y = false → J y x)
    (ha : ∀ x ∈ l, p x = true → J a x) :
    E (((l.filter fun x => !p x) ++ a :: m.filter fun y => !p y) ++ (l ++ m).filter p)
      (l ++ a :: m) := by
  have hmem : ∀ {x}, x ∈ m.reverse ++ l.reverse → x ∈ l ++ m := fun hx => by
    rw [← List.reverse_append] at hx
    exact List.mem_reverse.1 hx
  have hflip := h.flip.filter_around (p := p) (l := m.reverse) (m := l.reverse) (a := a)
    (fun x hx y hy => hj x (hmem hx) y (hmem hy)) (fun x hx => ha x (List.mem_reverse.1 hx))
  simpa [← List.filter_reverse] using hflip

/-- A parting of a list: what it is asked for, as far as the pivot may stand before the greater
items and after the smaller ones. -/
structure Parts (R : α → α → Prop) (E : List α → List α → Prop) (l : List α) (p : Parting α) :
    Prop where
  mem_pivot : p.pivot ∈ l
  smaller_moves : E (p.smaller ++ p.notSmaller) l
  greater_moves : E (p.notGreater ++ p.greater) l
  smaller_before : ∀ a ∈ p.smaller, R a p.pivot
  not_smaller_after : ∀ a ∈ p.notSmaller, R p.pivot a
  not_greater_before : ∀ a ∈ p.notGreater, R a p.pivot
  greater_after : ∀ a ∈ p.greater, R p.pivot a
  pivot_least : p.smaller = [] → ∀ a ∈ l, R p.pivot a

theorem part {place : Nat} {l : List α} (hplace : place < l.length) :
    Answers (Strict R J) (Parts R E l) (part cmp place l) := by
  unfold Sorting.part
  have hsplit := List.take_append_drop place l
  cases hdrop : l.drop place with
  | nil => exact absurd (List.drop_eq_nil_iff.1 hdrop) (by omega)
  | cons pivot after =>
    rw [hdrop] at hsplit
    have hsmaller : ∀ {a}, before cmp a pivot = true → R a pivot := h.of_before
    have hothers : ∀ {a}, before cmp a pivot = false → R pivot a := h.of_not_before
    have hgreater : ∀ {a}, before cmp pivot a = true → R pivot a := h.of_before
    have hothers' : ∀ {a}, before cmp pivot a = false → R a pivot := h.of_not_before
    refine .some ?_
    constructor
    · exact hsplit ▸ List.mem_append_right _ (.head _)
    · have hmoves := h.filter_around (p := fun a => before cmp a pivot) (l := l.take place)
        (m := after) (a := pivot) (fun a _ b _ ha hb => h.jump_before ha (hothers hb))
        (fun a _ ha => h.jump ha)
      rwa [hsplit] at hmoves
    · have hmoves := h.filter_around_right (p := fun a => before cmp pivot a) (l := l.take place)
        (m := after) (a := pivot) (fun a _ b _ ha hb => h.jump_after (hothers' hb) ha)
        (fun a _ ha => h.jump ha)
      rwa [hsplit] at hmoves
    · exact fun a ha => hsmaller (List.mem_filter.1 ha).2
    · exact forall_around (h.refl pivot) fun a => hothers
    · exact forall_around (h.refl pivot) fun a => hothers'
    · exact fun a ha => hgreater (List.mem_filter.1 ha).2
    · intro hnone
      have hall : ∀ a ∈ l.take place ++ after, R pivot a := fun a ha =>
        hothers (by simpa using List.filter_eq_nil_iff.1 hnone a ha)
      obtain ⟨hleft, hright⟩ := List.forall_mem_append.1 hall
      rw [← hsplit]
      exact List.forall_mem_append.2 ⟨hleft, List.forall_mem_cons.2 ⟨h.refl pivot, hright⟩⟩

theorem quicksort (limit : Nat) {least : Option α} {l : List α}
    (hleast : ∀ a, least = some a → ∀ b ∈ l, R a b) :
    Answers (Strict R J) (Arranged R E l) (quicksort cmp limit least l) := by
  induction limit generalizing least l with
  | zero =>
    rw [Sorting.quicksort]
    split
    · exact h.smallSort l
    · exact h.byRuns h.smallSort true l
  | succ limit ih =>
    rw [Sorting.quicksort]
    split
    · exact h.smallSort l
    next hmany =>
    have hplace : pivotIn (beforeAt cmp l) 0 l.length < l.length := by
      simpa using (pivotIn_bounds (beforeAt cmp l) 0 l.length (by omega)).2
    refine (h.part hplace).bind fun p hp => ?_
    have hmem : ∀ {a}, a ∈ p.notGreater ++ p.greater → a ∈ l :=
      (h.perm hp.greater_moves).mem_iff.1
    have hmem' : ∀ {a}, a ∈ p.smaller ++ p.notSmaller → a ∈ l :=
      (h.perm hp.smaller_moves).mem_iff.1
    split
    · next hequal =>
      have hpivot : ∀ a ∈ l, R p.pivot a := by
        rcases Bool.or_eq_true_iff.1 hequal with hequal | hnone
        · cases least with
          | none => cases hequal
          | some b =>
            have hb : R p.pivot b := h.of_not_before (by simpa using hequal)
            exact fun a ha => h.trans hb (hleast b rfl a ha)
        · exact hp.pivot_least (List.isEmpty_iff.1 hnone)
      refine (ih (l := p.greater) (by simp)).bind fun s hs => .some ⟨?_, ?_⟩
      · exact h.after (h.append (h.same _) hs.moves) hp.greater_moves
      · refine List.pairwise_append.2 ⟨?_, hs.ordered, fun a ha b hb => ?_⟩
        · exact List.pairwise_of_forall_mem_list fun a ha b hb =>
            h.trans (hp.not_greater_before a ha) (hpivot b (hmem (List.mem_append_left _ hb)))
        · exact h.trans (hp.not_greater_before a ha)
            (hp.greater_after b ((h.perm hs.moves).mem_iff.1 hb))
    · have hothers : ∀ a, some p.pivot = some a → ∀ b ∈ p.notSmaller, R a b := by
        rintro a ⟨⟩
        exact hp.not_smaller_after
      refine (ih hothers).bind fun s hs => ?_
      refine (ih (l := p.smaller) fun a ha b hb => ?_).bind fun s' hs' => .some ⟨?_, ?_⟩
      · exact hleast a ha b (hmem' (List.mem_append_left _ hb))
      · exact h.after (h.append hs'.moves hs.moves) hp.smaller_moves
      · refine List.pairwise_append.2 ⟨hs'.ordered, hs.ordered, fun a ha b hb => ?_⟩
        exact h.trans (hp.smaller_before a ((h.perm hs'.moves).mem_iff.1 ha))
          (hp.not_smaller_after b ((h.perm hs.moves).mem_iff.1 hb))

theorem quick (l : List α) : Answers (Strict R J) (Arranged R E l) (quick cmp l) :=
  h.quicksort _ (by simp)

/-! ## The whole -/

/-- What a stable sort by insertion, runs and quicksort makes of a list. -/
theorem sortBy? (l : List α) : Answers (Strict R J) (Arranged R E l) (sortBy? cmp l) := by
  unfold Polystore.sortBy?
  split
  · exact .some (h.sortBy l)
  · exact h.byRuns h.quick _ l

end Laws

end Polystore
