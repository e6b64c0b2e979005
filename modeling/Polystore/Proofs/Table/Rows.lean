import Polystore.Proofs.Table.Work

/-!
# Rows stay apart

A write changes the one row with its key or appends one (`changeRow_cases`), and no write changes
the key of a row.  So a table never holds two rows with the same key, and it never knows a column
that it does not allow:

    t.Orderly → t.run a now = (result, t') → t'.Orderly               (Orderly.run)
-/

namespace Polystore

/-! ## Keys of rows -/

namespace Row

@[simp] theorem key_write (r : Row) (column : String) (c : Cell) : (r.write column c).key = r.key :=
  rfl

@[simp] theorem key_store (r : Row) (column : String) (v : Json) (d : Deadline) :
    (r.store column v d).key = r.key := by
  unfold store
  split <;> rfl

@[simp] theorem key_assign (r : Row) (now : Nat) (d : Deadline) (a : Assignment) :
    (r.assign now d a).key = r.key := by
  cases a with
  | set column v => exact key_store r column v d
  | put column entry v => rfl
  | remove column entry =>
    unfold assign
    dsimp only
    split <;> rfl

end Row

namespace Table

theorem key_foldl {α : Type} {f : Row → α → Row} (hf : ∀ r a, (f r a).key = r.key) (l : List α)
    (r : Row) : (l.foldl f r).key = r.key := by
  induction l generalizing r with
  | nil => rfl
  | cons a l ih => rw [List.foldl_cons, ih, hf]

@[simp] theorem key_insertCells (l : KeyLayout) (d : Deadline) (r : Row)
    (columns : List (String × Json)) : (insertCells l d r columns).key = r.key := by
  unfold insertCells
  refine key_foldl (fun r (p : String × Json) => ?_) columns r
  split
  · rfl
  · exact Row.key_store r p.1 p.2 d

@[simp] theorem key_updateCells (l : KeyLayout) (key : List Json) (now : Nat) (d : Deadline)
    (r : Row) (assignments : List Assignment) :
    (updateCells l key now d r assignments).key = r.key := by
  unfold updateCells
  rw [key_foldl (fun r a => Row.key_assign r now d a)]
  exact key_foldl (fun r (p : String × Json) => Row.key_write r p.1 _) _ r

/-! ## The row that is changed -/

/-- A write changes the first row with its key, or appends a row if there is none. -/
theorem changeRow_cases (key : List Json) (f : Row → Row) (rows : List Row) :
    (∃ before r after, rows = before ++ r :: after ∧ Json.sameItems r.key key = true ∧
      (∀ b ∈ before, Json.sameItems b.key key = false) ∧
      changeRow key f rows = before ++ f r :: after) ∨
    ((∀ r ∈ rows, Json.sameItems r.key key = false) ∧
      changeRow key f rows = rows ++ [f (.fresh key)]) := by
  induction rows with
  | nil => exact .inr ⟨by simp, rfl⟩
  | cons r rows ih =>
    by_cases h : Json.sameItems r.key key = true
    · exact .inl ⟨[], r, rows, rfl, h, by simp, by simp [changeRow, h]⟩
    · have hr : Json.sameItems r.key key = false := by simpa using h
      have hc : changeRow key f (r :: rows) = r :: changeRow key f rows := by
        rw [changeRow, if_neg h]
      obtain ⟨before, r', after, rfl, hk, hb, he⟩ | ⟨hn, he⟩ := ih
      · refine .inl ⟨r :: before, r', after, rfl, hk, ?_, by rw [hc, he]; rfl⟩
        exact List.forall_mem_cons.2 ⟨hr, hb⟩
      · exact .inr ⟨List.forall_mem_cons.2 ⟨hr, hn⟩, by rw [hc, he]; rfl⟩

/-- Do the rows, each against all later ones, have different keys? -/
def KeysDiffer (rows : List Row) : Prop :=
  rows.Pairwise fun r r' => Json.sameItems r.key r'.key = false

theorem keysDiffer_changeRow {key : List Json} {f : Row → Row} (hf : ∀ r, (f r).key = r.key)
    {rows : List Row} (h : KeysDiffer rows) : KeysDiffer (changeRow key f rows) := by
  unfold KeysDiffer at h ⊢
  obtain ⟨before, r, after, rfl, -, -, he⟩ | ⟨hn, he⟩ := changeRow_cases key f rows
  · rw [he]
    rw [List.pairwise_append, List.pairwise_cons] at h ⊢
    obtain ⟨hb, ⟨hr, ha⟩, hx⟩ := h
    refine ⟨hb, ⟨fun a hm => ?_, ha⟩, fun b hm c hc => ?_⟩
    · rw [hf]
      exact hr a hm
    · rcases List.mem_cons.1 hc with rfl | hc
      · rw [hf]
        exact hx b hm r List.mem_cons_self
      · exact hx b hm c (List.mem_cons_of_mem _ hc)
  · rw [he, List.pairwise_append]
    refine ⟨h, List.pairwise_singleton _ _, fun r hm c hc => ?_⟩
    obtain rfl := List.mem_singleton.1 hc
    rw [hf]
    exact hn r hm

/-! ## Known columns -/

/-- May a column be named?  If columns are declared it has to be one of them. -/
def allows (t : Table) (column : String) : Bool := t.declared.all (·.contains column)

variable {t t' : Table}

theorem checkColumn_eq_ok {column : String} :
    t.checkColumn column = .ok () ↔ t.allows column = true := by
  unfold checkColumn allows
  cases t.declared with
  | none => simp
  | some declared =>
    dsimp only [Option.all]
    split
    · next h => simp only [h, Outcome.pure_eq_ok]
    · next h => simpa using h

theorem checkColumns_eq_ok {columns : List String} :
    t.checkColumns columns = .ok () ↔ ∀ c ∈ columns, t.allows c = true := by
  induction columns with
  | nil => simp [checkColumns]
  | cons c cs ih =>
    rw [checkColumns, Outcome.then_eq_ok, checkColumn_eq_ok, ih, List.forall_mem_cons]

theorem checkAssignments_eq_ok {assignments : List Assignment} :
    t.checkAssignments assignments = .ok () ↔
      ∀ a ∈ assignments, t.allows a.column = true ∧ t.layout.isKey a.column = false := by
  induction assignments with
  | nil => simp [checkAssignments]
  | cons a as ih =>
    rw [checkAssignments, Outcome.then_eq_ok, checkColumn_eq_ok, List.forall_mem_cons]
    by_cases hk : t.layout.isKey a.column = true
    · simp [hk]
    · rw [if_neg hk, ih]
      simp [hk]

theorem checkKeyConditions_eq_ok {conditions : List Condition} :
    t.checkKeyConditions conditions = .ok () ↔
      ∀ c ∈ conditions, t.allows c.column = true ∧ t.layout.isKey c.column = true := by
  induction conditions with
  | nil => simp [checkKeyConditions]
  | cons c cs ih =>
    rw [checkKeyConditions, Outcome.then_eq_ok, checkColumn_eq_ok, List.forall_mem_cons]
    by_cases hk : t.layout.isKey c.column = true
    · rw [if_pos hk, ih]
      simp [hk]
    · simp [hk]

theorem mem_noteColumn {columns : List String} {c d : String} :
    d ∈ noteColumn columns c ↔ d ∈ columns ∨ d = c := by
  unfold noteColumn
  by_cases h : columns.contains c = true
  · rw [if_pos h]
    refine ⟨Or.inl, ?_⟩
    rintro (hd | rfl)
    · exact hd
    · exact List.contains_iff_mem.1 h
  · rw [if_neg h]
    simp

theorem mem_noteColumns {columns new : List String} {d : String} :
    d ∈ noteColumns columns new ↔ d ∈ columns ∨ d ∈ new := by
  unfold noteColumns
  induction new generalizing columns with
  | nil => simp
  | cons c new ih => rw [List.foldl_cons, ih, mem_noteColumn, List.mem_cons, or_assoc]

/-! ## Rows that are returned -/

theorem find?_putAll_map (f : String → Json) (columns : List String) (c : String)
    (r : Record) :
    Assoc.find? c (Assoc.putAll r (columns.map fun column => (column, f column))) =
      if c ∈ columns then some (f c) else Assoc.find? c r := by
  unfold Assoc.putAll
  induction columns generalizing r with
  | nil => rfl
  | cons column columns ih =>
    rw [List.map_cons, List.foldl_cons, ih, Assoc.find?_put]
    by_cases hc : c ∈ columns
    · simp [hc]
    · by_cases he : c = column <;> simp [hc, he]

/-- A row is returned with the live values of the columns, and null for those that have none. -/
theorem find?_project (columns : List String) (r : Row) (now : Nat) (c : String) :
    Assoc.find? c (project columns [] r now) =
      if c ∈ columns then some ((r.value? c now).getD .null) else none := by
  unfold project Assoc.ofList
  rw [List.map_nil, List.append_nil]
  exact find?_putAll_map (fun c => (r.value? c now).getD .null) columns c []

/-! ## Orderly tables -/

/-- A table whose rows have different keys and which knows allowed columns only. -/
structure Orderly (t : Table) : Prop where
  keysDiffer : KeysDiffer t.rows
  allowed : ∀ c ∈ t.columns, t.allows c = true

theorem orderly_fresh (layout : KeyLayout) (declared : Option (List String)) (clock : Clock) :
    (fresh layout declared clock).Orderly where
  keysDiffer := List.Pairwise.nil
  allowed := by
    intro c hc
    cases declared with
    | none => rfl
    | some columns => exact List.contains_iff_mem.2 hc

theorem Orderly.inserted (h : t.Orderly) {key : List Json} {columns : List (String × Json)}
    (hk : t.insertKey columns = .ok key) (ttl : Option Int) (now : Nat) :
    (t.inserted key columns ttl now).Orderly where
  keysDiffer := by
    refine keysDiffer_changeRow (fun r => ?_) h.keysDiffer
    rw [key_insertCells]
  allowed := by
    rw [insertKey, Outcome.then_eq_ok, checkColumns_eq_ok] at hk
    obtain ⟨hc, -⟩ := hk
    intro c hm
    rcases mem_noteColumns.1 hm with hm | hm
    · exact h.allowed c hm
    · exact hc c hm

theorem Orderly.updated (h : t.Orderly) {key : List Json} {assignments : List Assignment}
    {conditions : List Condition} (hk : t.updateKey assignments conditions = .ok key)
    (ttl : Option Int) (now : Nat) : (t.updated key assignments ttl now).Orderly where
  keysDiffer := by
    refine keysDiffer_changeRow (fun r => ?_) h.keysDiffer
    rw [key_updateCells]
  allowed := by
    rw [updateKey, Outcome.then_eq_ok, checkAssignments_eq_ok] at hk
    obtain ⟨ha, -⟩ := hk
    intro c hm
    rcases mem_noteColumns.1 hm with hm | hm
    · exact h.allowed c hm
    · obtain ⟨a, hma, rfl⟩ := List.mem_map.1 hm
      exact (ha a hma).1

theorem Orderly.deleted (h : t.Orderly) (conditions : List Condition) (now : Nat) :
    (t.deleted conditions now).Orderly :=
  ⟨h.keysDiffer.filter _, h.allowed⟩

/-- Every action, accepted or not, leaves an orderly table orderly. -/
theorem Orderly.run (h : t.Orderly) {a : Action} {now : Nat} {result : Except StoreFault RowSet}
    (hr : t.run a now = (result, t')) : t'.Orderly := by
  obtain ⟨_, _, rfl⟩ | ⟨_, _, _, _, hk, _, rfl⟩ | ⟨_, _, _, _, _, hk, _, rfl⟩ |
    ⟨conditions, _, _, _, rfl⟩ | ⟨_, _, _, _, _, _, rfl⟩ := run_cases hr
  · exact h
  · exact h.inserted hk _ now
  · exact h.updated hk _ now
  · exact h.deleted conditions now
  · exact h

end Table

end Polystore
