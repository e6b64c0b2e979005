import Polystore.Proofs.Table.Cells

/-!
# Known columns

A table knows every column that one of its rows has a cell in, those of the key included: a write
notes the columns that it names, and an undeclared table knows the columns of its key from the
start.  So a read of all columns shows everything that a row has.

    t.Noted → t.run a now = (result, t') → t'.Noted                   (Noted.run)
    project t.columns [] r now = project t.columns [] r' now →
      (r.value? c now).getD .null = (r'.value? c now).getD .null      (Noted.value?_of_project_eq)
-/

namespace Polystore

/-! ## Cells of a row -/

/-- Has the row cells in these columns only? -/
def Row.Within (r : Row) (columns : List String) : Prop :=
  ∀ c, c ∉ columns → Assoc.find? c r.cells = none

theorem Row.Within.mono {r : Row} {columns columns' : List String} (h : r.Within columns)
    (hs : ∀ c ∈ columns, c ∈ columns') : r.Within columns' :=
  fun c hc => h c fun hm => hc (hs c hm)

namespace Table

variable {r : Row} {columns : List String}

theorem within_insertCells (h : r.Within columns) {values : List (String × Json)}
    (hv : ∀ c ∈ values.map Prod.fst, c ∈ columns) (l : KeyLayout) (d : Deadline) :
    (insertCells l d r values).Within columns := by
  intro c hc
  rw [← h c hc]
  refine Row.find?_foldl_of_keeps fun r p hp => ?_
  have hne : c ≠ p.1 := fun e => hc (e ▸ hv p.1 (List.mem_map_of_mem hp))
  split
  · rw [Row.find?_write, if_neg hne]
  · rw [Row.find?_store, if_neg hne]

theorem within_updateCells (h : r.Within columns) {l : KeyLayout}
    (hk : ∀ c ∈ l.names, c ∈ columns) {assignments : List Assignment}
    (ha : ∀ c ∈ assignments.map Assignment.column, c ∈ columns) (key : List Json) (now : Nat)
    (d : Deadline) : (updateCells l key now d r assignments).Within columns := by
  intro c hc
  rw [← h c hc, updateCells, Row.find?_foldl_of_keeps, Row.find?_foldl_of_keeps]
  · intro r p hp
    have hne : c ≠ p.1 := fun e => hc (e ▸ hk p.1 (List.of_mem_zip hp).1)
    rw [Row.find?_write, if_neg hne]
  · intro r a hm
    have hne : c ≠ a.column := fun e => hc (e ▸ ha a.column (List.mem_map_of_mem hm))
    exact Row.find?_assign_of_ne r hne now d

/-- What holds of the rows, and of the row with the key after it is changed, holds of the rows after
the change. -/
theorem forall_mem_changeRow {P : Row → Prop} {key : List Json} {f : Row → Row} {rows : List Row}
    (h : ∀ r ∈ rows, P r) (hf : ∀ r ∈ rows, Json.sameItems r.key key = true → P (f r))
    (hfresh : P (f (.fresh key))) : ∀ r ∈ changeRow key f rows, P r := by
  obtain ⟨before, r, after, rfl, hk, -, he⟩ | ⟨-, he⟩ := changeRow_cases key f rows
  · rw [he]
    have hr := hf r (by simp) hk
    rw [List.forall_mem_append, List.forall_mem_cons] at h ⊢
    exact ⟨h.1, hr, h.2.2⟩
  · rw [he, List.forall_mem_append]
    exact ⟨h, List.forall_mem_singleton.2 hfresh⟩

/-! ## Tables that know their columns -/

/-- Does the table know its first columns, declared ones or those of its key, and those of its
cells? -/
structure Noted (t : Table) : Prop where
  first : ∀ c ∈ t.declared.getD t.layout.names, c ∈ t.columns
  cells : ∀ r ∈ t.rows, r.Within t.columns

variable {t t' : Table}

theorem noted_fresh (layout : KeyLayout) (declared : Option (List String)) (clock : Clock) :
    (fresh layout declared clock).Noted := ⟨fun _ h => h, fun _ h => absurd h List.not_mem_nil⟩

/-- The table knows a column of its key that it allows. -/
theorem Noted.mem_columns_of_key (h : t.Noted) {c : String} (hc : c ∈ t.layout.names)
    (ha : t.allows c = true) : c ∈ t.columns := by
  refine h.first c ?_
  unfold allows at ha
  cases hd : t.declared with
  | none => exact hc
  | some declared =>
    rw [hd] at ha
    exact List.contains_iff_mem.1 ha

/-- Noting columns and changing a row within them keeps a table noted. -/
theorem Noted.changeRow (h : t.Noted) {new : List String} {key : List Json} {f : Row → Row}
    (hf : ∀ r : Row, r.Within (noteColumns t.columns new) →
      (f r).Within (noteColumns t.columns new)) :
    Noted { t with
      columns := noteColumns t.columns new, rows := Table.changeRow key f t.rows } where
  first := fun c hc => mem_noteColumns.2 (.inl (h.first c hc))
  cells := by
    have hm : ∀ r ∈ t.rows, r.Within (noteColumns t.columns new) := fun r hr =>
      Row.Within.mono (h.cells r hr) fun c hc => mem_noteColumns.2 (.inl hc)
    exact forall_mem_changeRow hm (fun r hr _ => hf r (hm r hr)) (hf _ fun _ _ => rfl)

theorem Noted.inserted (h : t.Noted) (key : List Json) (columns : List (String × Json))
    (ttl : Option Int) (now : Nat) : (t.inserted key columns ttl now).Noted :=
  h.changeRow fun r hr =>
    within_insertCells (r := { r with inserted := some (.after t.clock now ttl) }) hr
      (fun _ hc => mem_noteColumns.2 (.inr hc)) _ _

/-- A value that the conditions ask for is asked for by one of them. -/
theorem mem_of_equalityOn? {column : String} {conditions : List Condition} {v : Json}
    (h : equalityOn? column conditions = some v) : ⟨column, .equals v⟩ ∈ conditions := by
  induction conditions with
  | nil => cases h
  | cons d conditions ih =>
    obtain ⟨c, relation⟩ := d
    rw [equalityOn?] at h
    split at h
    · next u hu =>
      simp only at hu h
      split at h
      · next hc =>
        obtain rfl := Option.some.inj h
        rw [hu, hc]
        exact List.mem_cons_self
      · exact List.mem_cons_of_mem _ (ih h)
    · exact List.mem_cons_of_mem _ (ih h)

/-- An update asks for a value of every key column, so the table allows them. -/
theorem allows_of_updateKey {key : List Json} {assignments : List Assignment}
    {conditions : List Condition} (hk : t.updateKey assignments conditions = .ok key) :
    ∀ c ∈ t.layout.names, t.allows c = true := by
  simp only [updateKey, Outcome.then_eq_ok, checkKeyConditions_eq_ok] at hk
  obtain ⟨-, hc, hk⟩ := hk
  intro c hm
  obtain ⟨v, hv⟩ := (fullKey_eq_ok hk).2 c hm
  exact (hc _ (mem_of_equalityOn? hv)).1

theorem Noted.updated (h : t.Noted) {key : List Json} {assignments : List Assignment}
    {conditions : List Condition} (hk : t.updateKey assignments conditions = .ok key)
    (ttl : Option Int) (now : Nat) : (t.updated key assignments ttl now).Noted := by
  refine h.changeRow fun r hr => within_updateCells hr (fun c hc => ?_) (fun c hc => ?_) _ _ _
  · exact mem_noteColumns.2 (.inl (h.mem_columns_of_key hc (allows_of_updateKey hk c hc)))
  · exact mem_noteColumns.2 (.inr hc)

theorem Noted.deleted (h : t.Noted) (conditions : List Condition) (now : Nat) :
    (t.deleted conditions now).Noted :=
  ⟨h.first, fun r hr => h.cells r (List.mem_of_mem_filter hr)⟩

/-- Every action, accepted or not, leaves a table that knows its columns such. -/
theorem Noted.run (h : t.Noted) {a : Action} {now : Nat} {result : Except StoreFault RowSet}
    (hr : t.run a now = (result, t')) : t'.Noted := by
  obtain ⟨_, _, rfl⟩ | ⟨_, _, _, _, _, _, rfl⟩ | ⟨_, _, _, _, _, hk, _, rfl⟩ |
    ⟨conditions, _, _, _, rfl⟩ | ⟨_, _, _, _, _, _, rfl⟩ := run_cases hr
  · exact h
  · exact h.inserted _ _ _ now
  · exact h.updated hk _ now
  · exact h.deleted conditions now
  · exact h

/-! ## Reads of all columns -/

/-- Rows that a read of all columns returns alike have the same live values, up to nulls. -/
theorem Noted.value?_of_project_eq (h : t.Noted) {r r' : Row} (hr : r ∈ t.rows) (hr' : r' ∈ t.rows)
    {now : Nat} (he : project t.columns [] r now = project t.columns [] r' now) (c : String) :
    (r.value? c now).getD .null = (r'.value? c now).getD .null := by
  by_cases hc : c ∈ t.columns
  · have hf := congrArg (Assoc.find? c) he
    rw [find?_project, find?_project, if_pos hc, if_pos hc] at hf
    exact Option.some.inj hf
  · have hn : ∀ r ∈ t.rows, r.value? c now = none := by
      intro r hr
      rw [Row.value?, Row.cell?, h.cells r hr c hc]
      rfl
    rw [hn r hr, hn r' hr']

end Table

end Polystore
