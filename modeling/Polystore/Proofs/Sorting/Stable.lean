import Polystore.Proofs.Sorting.Mapped
import Polystore.Proofs.Sorting.Runs

/-!
# What sorting gives

Whenever a list is sorted, its items are rearranged, in the order of every relation that follows the
comparison on them.  If the comparison is transitive on the items, then there is an answer: the list
sorted by insertion, where items none of which comes before another keep their order.

    sortBy? cmp l = some s → s.Perm l                                        (perm_of_sortBy?)
    Follows R cmp l → sortBy? cmp l = some s → s.Pairwise R                  (Follows.pairwise)
    IsTransOn cmp l → sortBy? cmp l = some (sortBy cmp l)                    (IsTransOn.sortBy?)
-/

namespace Polystore

open Sorting

variable {α : Type} {cmp : α → α → Ordering} {R : α → α → Prop} {l s : List α}

theorem before_eq_false_iff [Std.OrientedCmp cmp] {a b : α} :
    before cmp a b = false ↔ (cmp b a).isLE = true := by
  have hswap : cmp b a = (cmp a b).swap := Std.OrientedCmp.eq_swap
  rw [before, hswap]
  cases cmp a b <;> decide

/-! ## Rearranging -/

/-- Nothing is asked of the order. -/
theorem laws_perm : Laws cmp (fun _ _ => True) (fun _ _ => True) List.Perm where
  of_before _ := trivial
  of_not_before _ := trivial
  trans _ _ := trivial
  jump_before _ _ := trivial
  jump_after _ _ := trivial
  same _ := .refl _
  after := List.Perm.trans
  append := List.Perm.append
  swap _ := .swap _ _ _
  perm h := h

/-- Sorting rearranges the list. -/
theorem perm_of_sortBy? (hs : sortBy? cmp l = some s) : s.Perm l :=
  have hlaws : Laws cmp _ _ _ := laws_perm
  (hlaws.sortBy? l).right hs |>.moves

/-- A short list is always sorted. -/
theorem sortBy?_of_length_le (h : l.length ≤ 20) : sortBy? cmp l = some (sortBy cmp l) := if_pos h

/-! ## Order -/

/-- A relation that follows the comparison, as far as it is asked about some items: `R a b` reads
"`a` may stand before `b`". -/
structure Follows (R : α → α → Prop) (cmp : α → α → Ordering) (l : List α) : Prop where
  of_lt : ∀ a ∈ l, ∀ b ∈ l, cmp a b = .lt → R a b
  of_ne_lt : ∀ a ∈ l, ∀ b ∈ l, cmp a b ≠ .lt → R b a
  trans : ∀ a ∈ l, ∀ b ∈ l, ∀ c ∈ l, R a b → R b c → R a c

/-- The comparison and the relation on the items of a list. -/
theorem Follows.laws (h : Follows R cmp l) :
    Laws (fun a b : {x // x ∈ l} => cmp a.1 b.1) (fun a b => R a.1 b.1) (fun _ _ => True)
      List.Perm where
  of_before {a b} hab := h.of_lt _ a.2 _ b.2 (by simpa [before] using hab)
  of_not_before {a b} hab := h.of_ne_lt _ a.2 _ b.2 (by simpa [before] using hab)
  trans {a b c} := h.trans _ a.2 _ b.2 _ c.2
  jump_before _ _ := trivial
  jump_after _ _ := trivial
  same _ := .refl _
  after := List.Perm.trans
  append := List.Perm.append
  swap _ := .swap _ _ _
  perm h := h

/-- The sorted list is in the order of every relation that follows the comparison. -/
theorem Follows.pairwise (h : Follows R cmp l) (hs : sortBy? cmp l = some s) : s.Pairwise R := by
  have hmap := map_sortBy? cmp (Subtype.val (p := fun x => x ∈ l)) l.attach
  rw [List.attach_map_subtype_val, hs] at hmap
  obtain ⟨t, ht, rfl⟩ := Option.map_eq_some_iff.1 hmap
  exact List.pairwise_map.2 ((h.laws.sortBy? l.attach).right ht).ordered

/-! ## Ties -/

/-- Is "not greater" transitive on the items? -/
def IsTransOn (cmp : α → α → Ordering) (l : List α) : Prop :=
  ∀ a ∈ l, ∀ b ∈ l, ∀ c ∈ l,
    (cmp a b).isLE = true → (cmp b c).isLE = true → (cmp a c).isLE = true

/-- A second comparison decides between the items that the first one leaves tied. -/
theorem isTransOn_then {cmp cmp' : α → α → Ordering} [Std.OrientedCmp cmp] {l : List α}
    (h : IsTransOn cmp l)
    (h' : ∀ a ∈ l, ∀ b ∈ l, ∀ c ∈ l, cmp a b = .eq → cmp b c = .eq →
      (cmp' a b).isLE = true → (cmp' b c).isLE = true → (cmp' a c).isLE = true) :
    IsTransOn (fun a b => (cmp a b).then (cmp' a b)) l := by
  intro a ha b hb c hc hab hbc
  have hab₁ : (cmp a b).isLE = true := Ordering.isLE_left_of_isLE_then hab
  have hbc₁ : (cmp b c).isLE = true := Ordering.isLE_left_of_isLE_then hbc
  rw [Ordering.isLE_then_iff_or] at hab hbc ⊢
  cases hac : cmp a c with
  | lt => exact .inl rfl
  | gt =>
    have hle := h a ha b hb c hc hab₁ hbc₁
    rw [hac] at hle
    cases hle
  | eq =>
    -- The ends are tied, so both are tied with the item between them.
    have hca : (cmp c a).isLE = true := Ordering.isLE_of_eq_eq (Std.OrientedCmp.eq_symm hac)
    have hab_eq := Std.OrientedCmp.isLE_antisymm hab₁ (h b hb c hc a ha hbc₁ hca)
    have hbc_eq := Std.OrientedCmp.isLE_antisymm hbc₁ (h c hc a ha b hb hca hab₁)
    rw [hab_eq] at hab
    rw [hbc_eq] at hbc
    obtain hab | ⟨-, hab⟩ := hab
    · cases hab
    obtain hbc | ⟨-, hbc⟩ := hbc
    · cases hbc
    exact .inr ⟨rfl, h' a ha b hb c hc hab_eq hbc_eq hab hbc⟩

/-- Lists with the same items, tied ones in the same order. -/
structure KeepsTies (cmp : α → α → Ordering) (l m : List α) : Prop where
  perm : l.Perm m
  ties : ∀ x, l.filter (fun y => cmp x y == .eq) = m.filter fun y => cmp x y == .eq

/-- Items in order jump only over those that come after them. -/
theorem laws_keepsTies [Std.TransCmp cmp] :
    Laws cmp (fun a b => before cmp b a = false) (fun a b => before cmp a b = true)
      (KeepsTies cmp) where
  of_before {a b} h := by
    rw [before_eq_false_iff]
    exact Ordering.isLE_of_eq_lt (by simpa [before] using h)
  of_not_before h := h
  trans := by
    simp only [before_eq_false_iff]
    exact Std.TransCmp.isLE_trans
  jump_before {a b c} hab hbc := by
    rw [before_eq_false_iff] at hbc
    simp only [before, beq_iff_eq] at hab ⊢
    exact Std.TransCmp.lt_of_lt_of_isLE hab hbc
  jump_after {a b c} hab hbc := by
    rw [before_eq_false_iff] at hab
    simp only [before, beq_iff_eq] at hbc ⊢
    exact Std.TransCmp.lt_of_isLE_of_lt hab hbc
  same _ := ⟨.refl _, fun _ => rfl⟩
  after h h' := ⟨h.perm.trans h'.perm, fun x => (h.ties x).trans (h'.ties x)⟩
  append h h' := ⟨h.perm.append h'.perm, fun x => by
    rw [List.filter_append, List.filter_append, h.ties, h'.ties]⟩
  swap {a b} h := ⟨.swap _ _ _, fun x => by
    have hapart : cmp x a = .eq → cmp x b ≠ .eq := fun ha hb => by
      have hab := Std.TransCmp.eq_trans (Std.OrientedCmp.eq_symm ha) hb
      simp [before, hab] at h
    by_cases ha : cmp x a = .eq
    · simp [ha, hapart ha]
    · simp [List.filter_cons, ha]⟩
  perm h := h.perm

/-- A list in order is determined by its items and the order of those that are tied. -/
theorem KeepsTies.eq [Std.TransCmp cmp] {s t : List α} (h : KeepsTies cmp s t)
    (hs : s.Pairwise fun a b => before cmp b a = false)
    (ht : t.Pairwise fun a b => before cmp b a = false) : s = t := by
  induction s generalizing t with
  | nil => exact (List.nil_perm.1 h.perm).symm
  | cons a s ih =>
    cases t with
    | nil => exact List.perm_nil.1 h.perm
    | cons b t =>
      obtain ⟨ha, hs'⟩ := List.pairwise_cons.1 hs
      obtain ⟨hb, ht'⟩ := List.pairwise_cons.1 ht
      have hab : (cmp a b).isLE = true := by
        rcases List.mem_cons.1 (h.perm.mem_iff.2 (.head _)) with rfl | hmem
        · exact Std.ReflCmp.isLE_rfl
        · exact before_eq_false_iff.1 (ha b hmem)
      have hba : (cmp b a).isLE = true := by
        rcases List.mem_cons.1 (h.perm.mem_iff.1 (.head _)) with rfl | hmem
        · exact Std.ReflCmp.isLE_rfl
        · exact before_eq_false_iff.1 (hb a hmem)
      have hties := h.ties a
      rw [List.filter_cons_of_pos (by simp [Std.ReflCmp.compare_self]),
        List.filter_cons_of_pos (by simp [Std.OrientedCmp.isLE_antisymm hab hba])] at hties
      obtain rfl := (List.cons.inj hties).1
      refine congrArg (a :: ·) (ih ⟨h.perm.cons_inv, fun x => ?_⟩ hs' ht')
      have htail := h.ties x
      rw [List.filter_cons, List.filter_cons] at htail
      split at htail
      · exact (List.cons.inj htail).2
      · exact htail

/-- Items that are all tied keep their order. -/
theorem KeepsTies.filter_eq [Std.OrientedCmp cmp] (h : KeepsTies cmp s l) {p : α → Bool}
    (hp : ∀ a ∈ l, ∀ b ∈ l, p a = true → p b = true → cmp a b ≠ .lt) :
    s.filter p = l.filter p := by
  by_cases hnone : ∃ a ∈ l, p a = true
  · obtain ⟨a, ha, hpa⟩ := hnone
    have htied : ∀ m : List α, (∀ b ∈ m, b ∈ l) →
        m.filter p = (m.filter fun b => cmp a b == .eq).filter p := by
      intro m hm
      rw [List.filter_filter]
      refine List.filter_congr fun b hb => ?_
      cases hpb : p b with
      | false => rfl
      | true =>
        have hab := hp a ha b (hm b hb) hpa hpb
        have hba := hp b (hm b hb) a ha hpb hpa
        have hswap : cmp b a = (cmp a b).swap := Std.OrientedCmp.eq_swap
        rw [hswap, Ne, Ordering.swap_eq_lt] at hba
        cases hcmp : cmp a b <;> simp_all
    rw [htied s fun b hb => h.perm.mem_iff.1 hb, h.ties, ← htied l fun b hb => hb]
  · have hfalse : ∀ a ∈ l, ¬ p a = true := fun a ha hpa => hnone ⟨a, ha, hpa⟩
    rw [List.filter_eq_nil_iff.2 hfalse,
      List.filter_eq_nil_iff.2 fun a ha => hfalse a (h.perm.mem_iff.1 ha)]

/-- If the comparison is transitive, then the list is sorted as by insertion. -/
theorem sortBy?_of_transCmp [Std.TransCmp cmp] (l : List α) :
    sortBy? cmp l = some (sortBy cmp l) := by
  have hlaws : Laws cmp _ _ _ := laws_keepsTies
  have hanswers := hlaws.sortBy? l
  have hstrict : Strict (fun a b => before cmp b a = false) fun a b => before cmp a b = true :=
    fun a b hab hba => by simp [hab] at hba
  obtain ⟨s, hs⟩ := Option.isSome_iff_exists.1 (hanswers.given hstrict)
  have hsorted := hanswers.right hs
  have hinserted := hlaws.sortBy l
  have hties : KeepsTies cmp s (sortBy cmp l) :=
    ⟨hsorted.moves.perm.trans hinserted.moves.perm.symm, fun x =>
      (hsorted.moves.ties x).trans (hinserted.moves.ties x).symm⟩
  rw [hs, hties.eq hsorted.ordered hinserted.ordered]

section Items
variable [Std.OrientedCmp cmp] (h : IsTransOn cmp l)
include h

theorem IsTransOn.transCmp : Std.TransCmp fun a b : {x // x ∈ l} => cmp a.1 b.1 :=
  { eq_swap := Std.OrientedCmp.eq_swap
    isLE_trans := fun {a b c} => h _ a.2 _ b.2 _ c.2 }

/-- If the comparison is transitive on the items, then the list is sorted as by insertion. -/
theorem IsTransOn.sortBy? : sortBy? cmp l = some (sortBy cmp l) := by
  have htrans := h.transCmp
  have hlist := List.attach_map_subtype_val l
  have hmap := map_sortBy? cmp (Subtype.val (p := fun x => x ∈ l)) l.attach
  rw [sortBy?_of_transCmp, Option.map_some, map_sortBy, hlist] at hmap
  exact hmap.symm

/-- Items none of which comes before another keep their order. -/
theorem IsTransOn.filter_sortBy {p : α → Bool}
    (hp : ∀ a ∈ l, ∀ b ∈ l, p a = true → p b = true → cmp a b ≠ .lt) :
    (sortBy cmp l).filter p = l.filter p := by
  have htrans := h.transCmp
  have hlist := List.attach_map_subtype_val l
  have hlaws : Laws (fun a b : {x // x ∈ l} => cmp a.1 b.1) _ _ _ := laws_keepsTies
  have hkeeps := (hlaws.sortBy l.attach).moves
  have hfilter := hkeeps.filter_eq (p := fun a => p a.1)
    fun a _ b _ => hp _ a.2 _ b.2
  have hmap := congrArg (List.map Subtype.val) hfilter
  have hval : (fun a : {x // x ∈ l} => p a.1) = p ∘ Subtype.val := rfl
  rwa [hval, ← List.filter_map, ← List.filter_map, map_sortBy, hlist] at hmap

end Items

end Polystore
