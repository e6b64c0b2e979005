import Polystore.Proofs.Table.Effects

/-!
# Consistent tables

A table whose rows have different keys and agree with them, whose cells outside the key hold values
in known columns, and which knows no column twice.  Every sound effect keeps a table consistent, and
adds columns at the end only:

    e.Sound t → t.Consistent → (e.apply t).Consistent                    (Consistent.apply)
    t.columns <+: (e.apply t).columns                                    (columns_prefix_apply)
-/

namespace Polystore.Table

/-! ## Columns that are noted -/

/-- Columns are noted at the end, each once and only if it was not known. -/
theorem exists_noteColumns_eq_append (columns new : List String) :
    ∃ added : List String, noteColumns columns new = columns ++ added ∧ added.Nodup ∧
      ∀ c, c ∈ added ↔ c ∈ new ∧ c ∉ columns := by
  unfold noteColumns
  induction new generalizing columns with
  | nil => exact ⟨[], by simp⟩
  | cons c new ih =>
    rw [List.foldl_cons]
    by_cases hc : c ∈ columns
    · have hn : noteColumn columns c = columns := if_pos (List.contains_iff_mem.2 hc)
      obtain ⟨added, he, hd, hm⟩ := ih columns
      refine ⟨added, by rw [hn, he], hd, fun d => ?_⟩
      rw [hm, List.mem_cons]
      constructor
      · rintro ⟨hnew, hout⟩
        exact ⟨.inr hnew, hout⟩
      · rintro ⟨hnew, hout⟩
        exact ⟨hnew.resolve_left fun e => hout (e ▸ hc), hout⟩
    · have hn : noteColumn columns c = columns ++ [c] := if_neg (by simpa using hc)
      obtain ⟨added, he, hd, hm⟩ := ih (columns ++ [c])
      refine ⟨c :: added, by rw [hn, he, List.append_assoc, List.singleton_append], ?_, fun d => ?_⟩
      · refine List.nodup_cons.2 ⟨fun h => ?_, hd⟩
        exact ((hm c).1 h).2 (by simp)
      · rw [List.mem_cons, List.mem_cons, hm, List.mem_append, List.mem_singleton, not_or]
        by_cases hdc : d = c
        · simp [hdc, hc]
        · simp [hdc]

theorem prefix_noteColumns (columns new : List String) : columns <+: noteColumns columns new := by
  obtain ⟨added, he, -⟩ := exists_noteColumns_eq_append columns new
  exact ⟨added, he.symm⟩

theorem nodup_noteColumns {columns : List String} (h : columns.Nodup) (new : List String) :
    (noteColumns columns new).Nodup := by
  obtain ⟨added, he, hd, hm⟩ := exists_noteColumns_eq_append columns new
  rw [he]
  refine List.nodup_append'.2 ⟨h, hd, fun c hc ha => ?_⟩
  exact ((hm c).1 ha).2 hc

theorem noteColumns_of_subset {columns new : List String} (h : ∀ c ∈ new, c ∈ columns) :
    noteColumns columns new = columns := by
  obtain ⟨added, he, -, hm⟩ := exists_noteColumns_eq_append columns new
  have hn : added = [] := List.eq_nil_iff_forall_not_mem.2 fun c hc =>
    ((hm c).1 hc).2 (h c ((hm c).1 hc).1)
  rw [he, hn, List.append_nil]

/-! ## Consistency -/

/-- Do the rows of the table have different keys of full length and cells for them that never run
out, do all other cells hold values in columns that the table knows, and does it know each column
once, and the declared ones only if there are any? -/
structure Consistent (t : Table) : Prop where
  keysDiffer : KeysDiffer t.rows
  keyed : ∀ r ∈ t.rows, r.Keyed t.layout
  filled : ∀ r ∈ t.rows, r.Filled t.layout t.columns
  nodup : t.columns.Nodup
  declared : ∀ columns, t.declared = some columns → t.columns = columns

variable {t : Table} {e : Effect}

theorem consistent_fresh (layout : KeyLayout) {declared : Option (List String)} (clock : Clock)
    (h : ∀ columns, declared = some columns → columns.Nodup) :
    (fresh layout declared clock).Consistent where
  keysDiffer := .nil
  keyed := by simp [fresh]
  filled := by simp [fresh]
  nodup := by
    cases declared with
    | none => exact layout.nodup_names
    | some columns => exact h columns rfl
  declared := by
    rintro columns rfl
    rfl

/-- A sound effect leaves rows with different keys. -/
theorem keysDiffer_apply (he : e.Sound t) (h : KeysDiffer t.rows) :
    KeysDiffer (e.apply t).rows := by
  cases e with
  | nothing => exact h
  | change key f columns => exact keysDiffer_changeRow he.1.key_eq h
  | remove conditions now => exact h.filter _

/-- A sound effect leaves every row with its key cells. -/
theorem keyed_apply (he : e.Sound t) (h : ∀ r ∈ t.rows, r.Keyed t.layout) :
    ∀ r ∈ (e.apply t).rows, r.Keyed t.layout := by
  cases e with
  | nothing => exact h
  | change key f columns =>
    obtain ⟨hk, -⟩ := he
    refine forall_mem_changeRow h (fun r hr hs => hk.keyed r (h r hr).toProper hs) ?_
    exact hk.keyed _ ⟨hk.length, hk.wellKeyed, List.nodup_nil⟩ (Json.sameItems_refl hk.wellKeyed)
  | remove conditions now => exact fun r hr => h r (List.mem_of_mem_filter hr)

theorem filled_apply (he : e.Sound t) (h : ∀ r ∈ t.rows, r.Filled t.layout t.columns) :
    ∀ r ∈ (e.apply t).rows, r.Filled t.layout (e.apply t).columns := by
  cases e with
  | nothing => exact h
  | change key f columns =>
    obtain ⟨hk, -⟩ := he
    have hold : ∀ r ∈ t.rows, r.Filled t.layout (noteColumns t.columns columns) := fun r hr =>
      (h r hr).mono fun c hc => mem_noteColumns.2 (.inl hc)
    have hf := hk.filled (noteColumns t.columns columns) fun c hc => mem_noteColumns.2 (.inr hc)
    exact forall_mem_changeRow hold (fun r hr _ => hf r (hold r hr))
      (hf _ fun _ hp => absurd hp List.not_mem_nil)
  | remove conditions now => exact fun r hr => h r (List.mem_of_mem_filter hr)

theorem columns_prefix_apply (e : Effect) (t : Table) : t.columns <+: (e.apply t).columns := by
  cases e with
  | change key f columns => exact prefix_noteColumns t.columns columns
  | _ => exact List.prefix_refl _

/-- A sound effect keeps the columns of a table that has them declared. -/
theorem columns_apply_of_declared (he : e.Sound t) (h : t.declared = some t.columns) :
    (e.apply t).columns = t.columns := by
  cases e with
  | change key f columns =>
    refine noteColumns_of_subset fun c hc => ?_
    have hc := he.2 c hc
    unfold allows at hc
    rw [h] at hc
    exact List.contains_iff_mem.1 hc
  | _ => rfl

/-- A sound effect leaves a consistent table consistent. -/
theorem Consistent.apply (h : t.Consistent) (he : e.Sound t) : (e.apply t).Consistent where
  keysDiffer := keysDiffer_apply he h.keysDiffer
  keyed := by
    rw [e.layout_apply]
    exact keyed_apply he h.keyed
  filled := by
    rw [e.layout_apply]
    exact filled_apply he h.filled
  nodup := by
    cases e with
    | change key f columns => exact nodup_noteColumns h.nodup columns
    | _ => exact h.nodup
  declared := by
    intro columns hd
    rw [e.declared_apply] at hd
    obtain rfl := h.declared columns hd
    exact columns_apply_of_declared he hd

end Polystore.Table
