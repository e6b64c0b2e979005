import Polystore.Proofs.Json.Comparison
import Polystore.Search.Index

/-!
# The comparisons of searches

Two lists are sorted in a search: the hits by their sort keys, and the values of a facet by their
numbers.  Both comparisons turn around when the items change places.  Whether they are transitive
depends on the values: values of one kind are put in order, but among values of several kinds the
ties between kinds break the order up.

    (∀ keys over fields, IsTransOn (compareByKeys suffix keys) docs) ↔
      ∀ f ∈ fields, Uniform (docs.filterMap (sortValue? suffix f))
    IsTransOn compareCounts (valueCounts suffix field docs) ↔
      ∀ n, Uniform (valuesWith n (valueCounts suffix field docs))
                                                                    (isTransOn_comparators_iff)
-/

namespace Polystore

open Json (compareOrTie Uniform isTransOn_compareOrTie_iff)

variable {α : Type}

/-! ## Sort keys -/

namespace Search

/-- Two values are compared in one direction or the other. -/
theorem compareValues_some (descending : Bool) (v w : Json) :
    compareValues descending (some v) (some w) =
      if descending then compareOrTie w v else compareOrTie v w := by
  cases descending with
  | false => rfl
  | true =>
    have hswap : compareOrTie w v = (compareOrTie v w).swap := Std.OrientedCmp.eq_swap
    rw [if_pos rfl, hswap]
    rfl

theorem compareValues_swap (descending : Bool) (v w : Option Json) :
    compareValues descending v w = (compareValues descending w v).swap := by
  cases v with
  | none => cases w <;> rfl
  | some v =>
    cases w with
    | none => rfl
    | some w =>
      have hvw : compareOrTie v w = (compareOrTie w v).swap := Std.OrientedCmp.eq_swap
      have hwv : compareOrTie w v = (compareOrTie v w).swap := Std.OrientedCmp.eq_swap
      rw [compareValues_some, compareValues_some]
      cases descending with
      | false => exact hvw
      | true => exact hwv

instance (descending : Bool) (f : α → Option Json) :
    Std.OrientedCmp fun a b => compareValues descending (f a) (f b) :=
  ⟨compareValues_swap descending _ _⟩

theorem compareByKeys_swap (suffix : String) (keys : List (String × Bool)) (a b : Record) :
    compareByKeys suffix keys a b = (compareByKeys suffix keys b a).swap := by
  induction keys with
  | nil => rfl
  | cons key keys ih =>
    obtain ⟨field, descending⟩ := key
    rw [compareByKeys, compareByKeys, Ordering.swap_then, ← compareValues_swap, ← ih]

instance (suffix : String) (keys : List (String × Bool)) :
    Std.OrientedCmp (compareByKeys suffix keys) :=
  ⟨compareByKeys_swap suffix keys _ _⟩

/-- Items are compared by the values that they have; those without a value come last. -/
theorem isTransOn_compareValues_iff (descending : Bool) (f : α → Option Json) (l : List α) :
    IsTransOn (fun a b => compareValues descending (f a) (f b)) l ↔ Uniform (l.filterMap f) := by
  rw [← isTransOn_compareOrTie_iff]
  constructor
  · intro h u hu v hv w hw huv hvw
    obtain ⟨a, ha, hau⟩ := List.mem_filterMap.1 hu
    obtain ⟨b, hb, hbv⟩ := List.mem_filterMap.1 hv
    obtain ⟨c, hc, hcw⟩ := List.mem_filterMap.1 hw
    have hac := h a ha b hb c hc
    have hca := h c hc b hb a ha
    simp only [hau, hbv, hcw, compareValues_some] at hac hca
    cases descending with
    | false => exact hac huv hvw
    | true => exact hca hvw huv
  · intro h a ha b hb c hc hab hbc
    cases hfa : f a with
    | none =>
      -- Only an item without a value is not greater than one without.
      cases hfb : f b with
      | none => simpa only [hfa, hfb] using hbc
      | some v =>
        simp only [hfa, hfb] at hab
        cases hab
    | some u =>
      cases hfc : f c with
      | none => simp only [hfa, hfc]; rfl
      | some w =>
        cases hfb : f b with
        | none =>
          simp only [hfb, hfc] at hbc
          cases hbc
        | some v =>
          have hu := List.mem_filterMap.2 ⟨a, ha, hfa⟩
          have hv := List.mem_filterMap.2 ⟨b, hb, hfb⟩
          have hw := List.mem_filterMap.2 ⟨c, hc, hfc⟩
          simp only [hfa, hfb, hfc, compareValues_some] at hab hbc ⊢
          cases descending with
          | false => exact h u hu v hv w hw hab hbc
          | true => exact h w hw v hv u hu hbc hab

/-- Sort keys over fields with uniform values put the documents in order. -/
theorem isTransOn_compareByKeys {suffix : String} {keys : List (String × Bool)}
    {docs : List Record}
    (h : ∀ key ∈ keys, Uniform (docs.filterMap (sortValue? suffix key.1))) :
    IsTransOn (compareByKeys suffix keys) docs := by
  induction keys with
  | nil => exact fun _ _ _ _ _ _ _ _ => rfl
  | cons key keys ih =>
    obtain ⟨field, descending⟩ := key
    obtain ⟨hfield, hkeys⟩ := List.forall_mem_cons.1 h
    have hfirst := (isTransOn_compareValues_iff descending (sortValue? suffix field) docs).2 hfield
    exact isTransOn_then hfirst fun a ha b hb c hc _ _ => ih hkeys a ha b hb c hc

/-- A single sort key is transitive only over uniform values. -/
theorem uniform_of_isTransOn {suffix field : String} {docs : List Record}
    (h : IsTransOn (compareByKeys suffix [(field, false)]) docs) :
    Uniform (docs.filterMap (sortValue? suffix field)) := by
  refine (isTransOn_compareValues_iff false (sortValue? suffix field) docs).1 ?_
  intro a ha b hb c hc
  have hkey : ∀ d e, compareByKeys suffix [(field, false)] d e =
      compareValues false (sortValue? suffix field d) (sortValue? suffix field e) :=
    fun d e => Ordering.then_eq
  have hac := h a ha b hb c hc
  rw [hkey, hkey, hkey] at hac
  exact hac

end Search

/-! ## Values of a facet -/

theorem compareCounts_swap (p q : Json × Nat) : compareCounts p q = (compareCounts q p).swap := by
  have hn : compare q.2 p.2 = (compare p.2 q.2).swap := Std.OrientedOrd.eq_swap
  have hv : compareOrTie p.1 q.1 = (compareOrTie q.1 p.1).swap := Std.OrientedCmp.eq_swap
  rw [compareCounts, compareCounts, Ordering.swap_then, ← hn]
  exact congrArg _ hv

/-- The values that have a number. -/
def valuesWith (n : Nat) (counts : List (Json × Nat)) : List Json :=
  (counts.filter fun p => p.2 == n).map Prod.fst

theorem mem_valuesWith {n : Nat} {counts : List (Json × Nat)} {v : Json} :
    v ∈ valuesWith n counts ↔ (v, n) ∈ counts := by
  simp [valuesWith]

/-- Greater numbers come first. -/
instance : Std.OrientedCmp fun p q : Json × Nat => compare q.2 p.2 :=
  ⟨Std.OrientedOrd.eq_swap⟩

/-- Only values with one number are compared by themselves. -/
theorem isTransOn_compareCounts_iff (counts : List (Json × Nat)) :
    IsTransOn compareCounts counts ↔ ∀ n, Uniform (valuesWith n counts) := by
  constructor
  · intro h n
    have hsame : ∀ v w : Json, compareCounts (v, n) (w, n) = compareOrTie v w := by
      intro v w
      have hn : compare n n = .eq := Std.ReflCmp.compare_self
      rw [compareCounts, hn]
      rfl
    refine (isTransOn_compareOrTie_iff _).1 fun u hu v hv w hw => ?_
    have huw := h _ (mem_valuesWith.1 hu) _ (mem_valuesWith.1 hv) _ (mem_valuesWith.1 hw)
    rw [hsame, hsame, hsame] at huw
    exact huw
  · intro h
    have hnumbers : IsTransOn (fun p q : Json × Nat => compare q.2 p.2) counts :=
      fun _ _ _ _ _ _ hab hbc => Std.TransOrd.isLE_trans hbc hab
    have htrans : IsTransOn
        (fun p q : Json × Nat => (compare q.2 p.2).then (compareOrTie p.1 q.1)) counts := by
      refine isTransOn_then hnumbers ?_
      rintro ⟨u, l⟩ hu ⟨v, m⟩ hv ⟨w, n⟩ hw hlm hmn
      obtain rfl : m = l := Std.LawfulEqCmp.eq_of_compare hlm
      obtain rfl : n = m := Std.LawfulEqCmp.eq_of_compare hmn
      have huniform := (isTransOn_compareOrTie_iff _).2 (h n)
      exact huniform u (mem_valuesWith.2 hu) v (mem_valuesWith.2 hv) w (mem_valuesWith.2 hw)
    exact htrans

/-! ## Both comparisons -/

/-- Both comparisons turn around with their arguments.  Sort keys over some fields are transitive on
the documents exactly if each of the fields has uniform values, and so is the comparison of a facet
exactly if the values with one number are uniform. -/
theorem isTransOn_comparators_iff (suffix : String) :
    (∀ keys a b, Search.compareByKeys suffix keys a b =
        (Search.compareByKeys suffix keys b a).swap) ∧
      (∀ p q, compareCounts p q = (compareCounts q p).swap) ∧
      (∀ (docs : List Record) (fields : List String),
        (∀ keys : List (String × Bool), (∀ key ∈ keys, key.1 ∈ fields) →
          IsTransOn (Search.compareByKeys suffix keys) docs) ↔
        ∀ field ∈ fields, Uniform (docs.filterMap (Search.sortValue? suffix field))) ∧
      ∀ (docs : List Json) (field : String),
        IsTransOn compareCounts (valueCounts suffix field docs) ↔
          ∀ n, Uniform (valuesWith n (valueCounts suffix field docs)) := by
  refine ⟨Search.compareByKeys_swap suffix, compareCounts_swap, fun docs fields => ?_,
    fun docs field => isTransOn_compareCounts_iff _⟩
  constructor
  · intro h field hfield
    refine Search.uniform_of_isTransOn (h [(field, false)] fun key hkey => ?_)
    rw [List.mem_singleton.1 hkey]
    exact hfield
  · intro h keys hkeys
    exact Search.isTransOn_compareByKeys fun key hkey => h key.1 (hkeys key hkey)

/-- A text, a number and a smaller text: by either comparison each is not greater than the next one,
and the first is greater than the last. -/
theorem not_isTransOn_textNumberText :
    ¬ IsTransOn (Search.compareByKeys "" [("f", false)])
        [[("f", .str "b")], [("f", .ofInt 1)], [("f", .str "a")]] ∧
      ¬ IsTransOn compareCounts (valueCounts "" "f"
        [.obj [("f", .str "b")], .obj [("f", .ofInt 1)], .obj [("f", .str "a")]]) := by
  constructor
  · intro h
    exact absurd (h [("f", .str "b")] (by simp) [("f", .ofInt 1)] (by simp)
      [("f", .str "a")] (by simp) (by decide) (by decide)) (by decide)
  · intro h
    have hcounts : valueCounts "" "f"
        [.obj [("f", .str "b")], .obj [("f", .ofInt 1)], .obj [("f", .str "a")]] =
        [(.str "b", 1), (.ofInt 1, 1), (.str "a", 1)] := rfl
    rw [hcounts] at h
    exact absurd (h (.str "b", 1) (by simp) (.ofInt 1, 1) (by simp) (.str "a", 1) (by simp)
      (by decide) (by decide)) (by decide)

end Polystore
