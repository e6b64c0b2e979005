import Polystore.Proofs.Table.Consistency

/-!
# Independent effects

Two effects are independent if neither writes a row whose key the other addresses, by writing it or
by removing it.  On a table whose rows have their key cells, independent effects commute up to the
order of rows and of known columns:

    e.Independent t.layout e' →
      (e.apply (e'.apply t)).SameUpToOrder (e'.apply (e.apply t))                (apply_comm)

Rows are removed by conditions on the key alone, and a row agrees with its key, so a row that is
written is removed neither before nor after.
-/

namespace Polystore

/-! ## Independence -/

namespace Effect

/-- The key of the row that the effect changes. -/
def written? : Effect → Option (List Json)
  | change key _ _ => some key
  | _ => none

/-- Does the effect change the row with a key, or remove it? -/
def addresses (l : KeyLayout) (e : Effect) (key : List Json) : Bool :=
  match e with
  | nothing => false
  | change k _ _ => Json.sameItems k key
  | remove conditions _ => conditions.all (·.holdsIn (l.valueIn? key))

/-- Is the row that either effect changes not addressed by the other one? -/
structure Independent (l : KeyLayout) (e e' : Effect) : Prop where
  left : ∀ key, e.written? = some key → e'.addresses l key = false
  right : ∀ key, e'.written? = some key → e.addresses l key = false

theorem Independent.symm {l : KeyLayout} {e e' : Effect} (h : Independent l e e') :
    Independent l e' e := ⟨h.right, h.left⟩

end Effect

namespace Table

/-- Do the tables hold the same rows and know the same columns, in whatever order? -/
structure SameUpToOrder (t t' : Table) : Prop where
  layout : t.layout = t'.layout
  declared : t.declared = t'.declared
  clock : t.clock = t'.clock
  columns : t.columns.Perm t'.columns
  rows : t.rows.Perm t'.rows

theorem SameUpToOrder.refl (t : Table) : t.SameUpToOrder t := ⟨rfl, rfl, rfl, .refl _, .refl _⟩

/-! ## Two changes -/

/-- It does not matter in which order columns are noted, but for the order in which they are
known. -/
theorem noteColumns_perm_comm (columns new new' : List String) :
    (noteColumns (noteColumns columns new) new').Perm
      (noteColumns (noteColumns columns new') new) := by
  have happend : ∀ as bs : List String,
      noteColumns (noteColumns columns as) bs = noteColumns columns (as ++ bs) := fun as bs =>
    (List.foldl_append (f := noteColumn)).symm
  rw [happend, happend]
  obtain ⟨added, he, hd, hm⟩ := exists_noteColumns_eq_append columns (new ++ new')
  obtain ⟨added', he', hd', hm'⟩ := exists_noteColumns_eq_append columns (new' ++ new)
  rw [he, he']
  refine List.Perm.append_left _ ((List.perm_ext_iff_of_nodup hd hd').2 fun c => ?_)
  rw [hm, hm', List.mem_append, List.mem_append, or_comm]

/-- Rows with different keys can be changed in either order. -/
theorem changeRow_perm_comm {key key' : List Json} {f g : Row → Row}
    (hne : Json.sameItems key key' = false) (hne' : Json.sameItems key' key = false)
    (hf : ∀ r, (f r).key = r.key) (hg : ∀ r, (g r).key = r.key) {rows : List Row}
    (hw : ∀ r ∈ rows, Json.areWellKeyed r.key = true) :
    (changeRow key f (changeRow key' g rows)).Perm (changeRow key' g (changeRow key f rows)) := by
  induction rows with
  | nil =>
    have hfk : Json.sameItems (g (.fresh key')).key key = false := (hg _).symm ▸ hne'
    have hgk : Json.sameItems (f (.fresh key)).key key' = false := (hf _).symm ▸ hne
    simp only [changeRow, hfk, hgk, Bool.false_eq_true, if_false]
    exact .swap _ _ _
  | cons r rows ih =>
    rw [List.forall_mem_cons] at hw
    by_cases hk : Json.sameItems r.key key = true
    · -- the key of the row cannot be the same as both
      have hk' : Json.sameItems r.key key' = false := by
        rw [Json.sameItems_congr_left hw.1 hk, hne]
      have hfk : Json.sameItems (f r).key key' = false := (hf r).symm ▸ hk'
      simp only [changeRow, hk, hk', hfk, Bool.false_eq_true, if_false, if_true]
      exact .refl _
    · rw [Bool.not_eq_true] at hk
      by_cases hk' : Json.sameItems r.key key' = true
      · have hgk : Json.sameItems (g r).key key = false := (hg r).symm ▸ hk
        simp only [changeRow, hk, hk', hgk, Bool.false_eq_true, if_false, if_true]
        exact .refl _
      · rw [Bool.not_eq_true] at hk'
        simp only [changeRow, hk, hk', Bool.false_eq_true, if_false]
        exact (ih hw.2).cons _

/-! ## A change and a removal -/

/-- Rows can be removed before or after a row is changed that stays in any case. -/
theorem changeRow_filter {key : List Json} {f : Row → Row} {stays : Row → Bool} {rows : List Row}
    (h : ∀ r ∈ rows, Json.sameItems r.key key = true → stays r = true ∧ stays (f r) = true)
    (hfresh : stays (f (.fresh key)) = true) :
    changeRow key f (rows.filter stays) = (changeRow key f rows).filter stays := by
  induction rows with
  | nil => simp [changeRow, hfresh]
  | cons r rows ih =>
    rw [List.forall_mem_cons] at h
    by_cases hk : Json.sameItems r.key key = true
    · obtain ⟨hr, hfr⟩ := h.1 hk
      simp only [changeRow, hk, if_true, List.filter_cons_of_pos hr, List.filter_cons_of_pos hfr]
    · by_cases hr : stays r = true
      · rw [List.filter_cons_of_pos hr, changeRow, changeRow, if_neg hk, if_neg hk,
          List.filter_cons_of_pos hr, ih h.2]
      · rw [List.filter_cons_of_neg hr, changeRow, if_neg hk, List.filter_cons_of_neg hr, ih h.2]

/-- Conditions on the key hold of a row if they hold of keys that are the same as its own. -/
theorem all_conditions_of_same {l : KeyLayout} {r : Row} (h : r.Keyed l) {key : List Json}
    (hs : Json.sameItems r.key key = true) {conditions : List Condition}
    (hc : ∀ d ∈ conditions, l.isKey d.column = true) (now : Nat) :
    (conditions.all fun d => d.holds r now) = conditions.all (·.holdsIn (l.valueIn? key)) := by
  rw [h.all_conditions hc]
  congr 1
  funext d
  exact Condition.holdsIn_congr (KeyLayout.sameValue_valueIn? h.wellKeyed hs d.column)

/-! ## Effects in either order -/

variable {t : Table}

theorem change_change_comm (hw : ∀ r ∈ t.rows, Json.areWellKeyed r.key = true)
    {key key' : List Json} {f g : Row → Row} {columns columns' : List String}
    (hf : ∀ r, (f r).key = r.key) (hg : ∀ r, (g r).key = r.key)
    (hi : Effect.Independent t.layout (.change key f columns) (.change key' g columns')) :
    SameUpToOrder (Effect.apply (.change key f columns) (Effect.apply (.change key' g columns') t))
      (Effect.apply (.change key' g columns') (Effect.apply (.change key f columns) t)) where
  layout := rfl
  declared := rfl
  clock := rfl
  columns := noteColumns_perm_comm t.columns columns' columns
  rows := changeRow_perm_comm (hi.right key' rfl) (hi.left key rfl) hf hg hw

theorem change_remove_comm (hk : ∀ r ∈ t.rows, r.Keyed t.layout) {key : List Json}
    {f : Row → Row} {columns : List String} {conditions : List Condition} {now : Nat}
    (hf : Effect.Keeps t.layout key f columns)
    (hc : ∀ d ∈ conditions, t.layout.isKey d.column = true)
    (hi : Effect.Independent t.layout (.change key f columns) (.remove conditions now)) :
    Effect.apply (.change key f columns) (Effect.apply (.remove conditions now) t) =
      Effect.apply (.remove conditions now) (Effect.apply (.change key f columns) t) := by
  have hkey : conditions.all (·.holdsIn (t.layout.valueIn? key)) = false := hi.left key rfl
  -- a keyed row with the key is not removed
  have hstays : ∀ r : Row, r.Keyed t.layout → Json.sameItems r.key key = true →
      (!conditions.all fun d => d.holds r now) = true := by
    intro r hr hs
    rw [all_conditions_of_same hr hs hc, hkey]
    rfl
  have hchanged : ∀ r : Row, r.Proper t.layout → Json.sameItems r.key key = true →
      (!conditions.all fun d => d.holds (f r) now) = true := by
    intro r hr hs
    refine hstays (f r) (hf.keyed r hr hs) ?_
    rw [hf.key_eq]
    exact hs
  have hrows : changeRow key f (t.rows.filter fun r => !conditions.all fun d => d.holds r now) =
      (changeRow key f t.rows).filter fun r => !conditions.all fun d => d.holds r now := by
    refine changeRow_filter (fun r hr hs => ?_) ?_
    · exact ⟨hstays r (hk r hr) hs, hchanged r (hk r hr).toProper hs⟩
    · exact hchanged _ ⟨hf.length, hf.wellKeyed, List.nodup_nil⟩ (Json.sameItems_refl hf.wellKeyed)
  simp only [Effect.apply, deleted, hrows]

theorem remove_remove_comm (conditions conditions' : List Condition) (now now' : Nat) :
    Effect.apply (.remove conditions now) (Effect.apply (.remove conditions' now') t) =
      Effect.apply (.remove conditions' now') (Effect.apply (.remove conditions now) t) := by
  simp only [Effect.apply, deleted, List.filter_filter, Bool.and_comm]

/-- Sound effects that are independent lead to the same table in either order, up to the order of
rows and of columns. -/
theorem apply_comm {e e' : Effect} (hk : ∀ r ∈ t.rows, r.Keyed t.layout) (he : e.Sound t)
    (he' : e'.Sound t) (hi : Effect.Independent t.layout e e') :
    (e.apply (e'.apply t)).SameUpToOrder (e'.apply (e.apply t)) := by
  cases e with
  | nothing => exact .refl _
  | change key f columns =>
    cases e' with
    | nothing => exact .refl _
    | change key' g columns' =>
      exact change_change_comm (fun r hr => (hk r hr).wellKeyed) he.1.key_eq he'.1.key_eq hi
    | remove conditions now =>
      rw [change_remove_comm hk he.1 he' hi]
      exact .refl _
  | remove conditions now =>
    cases e' with
    | nothing => exact .refl _
    | change key f columns =>
      rw [change_remove_comm hk he'.1 he hi.symm]
      exact .refl _
    | remove conditions' now' =>
      rw [remove_remove_comm]
      exact .refl _

end Table

end Polystore
