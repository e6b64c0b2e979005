import Polystore.Proofs.Outcome
import Polystore.Table.Basic

/-!
# What work on a table does

Every action checks first and writes afterwards, so its run is one of two: it is refused and the
table is as it was, or it is accepted and the table is changed as a whole.

    t.run a now = (.error fault, t') → t' = t                      (run_of_refused)

`run_cases` lists what an action can do, with its checks; proofs about runs start from there.
-/

namespace Polystore.Table

/-! ## Checks of an action -/

variable (t : Table)

/-- The key that an insertion addresses, if it is accepted. -/
def insertKey (columns : List (String × Json)) : Except StoreFault (List Json) := do
  t.checkColumns (columns.map Prod.fst)
  fullKey (fun name => Assoc.find? name columns) t.layout.names

/-- The key that an update addresses, if it is accepted. -/
def updateKey (assignments : List Assignment) (conditions : List Condition) :
    Except StoreFault (List Json) := do
  t.checkAssignments assignments
  t.checkKeyConditions conditions
  fullKey (fun name => equalityOn? name conditions) t.layout.names

/-- Refuses a deletion without conditions or with a condition that is not on the key. -/
def deleteCheck (conditions : List Condition) : Except StoreFault Unit :=
  if conditions.isEmpty then throw .noCondition else t.checkKeyConditions conditions

/-! ## Tables after an accepted action -/

/-- The table with a record inserted under a key. -/
def inserted (key : List Json) (columns : List (String × Json)) (ttl : Option Int) (now : Nat) :
    Table :=
  { t with
    columns := noteColumns t.columns (columns.map Prod.fst)
    rows := changeRow key
      (fun r => insertCells t.layout (.after t.clock now ttl)
        { r with inserted := some (.after t.clock now ttl) } columns) t.rows }

/-- The table with assignments made to the row with a key. -/
def updated (key : List Json) (assignments : List Assignment) (ttl : Option Int) (now : Nat) :
    Table :=
  { t with
    columns := noteColumns t.columns (assignments.map Assignment.column)
    rows := changeRow key
      (fun r => updateCells t.layout key now (.after t.clock now ttl) r assignments) t.rows }

/-- The table without the rows that satisfy all conditions. -/
def deleted (conditions : List Condition) (now : Nat) : Table :=
  { t with rows := t.rows.filter fun r => !conditions.all fun c => c.holds r now }

/-! ## Runs -/

variable {t}

theorem run_insert (columns : List (String × Json)) (ttl : Option Int) (now : Nat) :
    t.run (.insert columns ttl) now =
      match t.insertKey columns with
      | .ok key => (.ok .none, t.inserted key columns ttl now)
      | .error fault => (.error fault, t) := by
  unfold run perform insert insertKey
  simp only [bind_assoc, Work.check_bind_run]
  cases h : t.checkColumns (columns.map Prod.fst) with
  | error fault => rfl
  | ok u => cases hk : fullKey (fun name => Assoc.find? name columns) t.layout.names <;> rfl

theorem run_update (assignments : List Assignment) (conditions : List Condition)
    (ttl : Option Int) (now : Nat) :
    t.run (.update assignments conditions ttl) now =
      match t.updateKey assignments conditions with
      | .ok key => (.ok .none, t.updated key assignments ttl now)
      | .error fault => (.error fault, t) := by
  unfold run perform update updateKey
  simp only [bind_assoc, Work.check_bind_run]
  cases h : t.checkAssignments assignments with
  | error fault => rfl
  | ok u =>
    cases hc : t.checkKeyConditions conditions with
    | error fault => rfl
    | ok u => cases hk : fullKey (fun name => equalityOn? name conditions) t.layout.names <;> rfl

theorem run_delete (conditions : List Condition) (now : Nat) :
    t.run (.delete conditions) now =
      match t.deleteCheck conditions with
      | .ok () => (.ok .none, t.deleted conditions now)
      | .error fault => (.error fault, t) := by
  unfold run perform delete deleteCheck
  simp only [bind_assoc, Work.check_bind_run]
  by_cases he : conditions.isEmpty = true
  · rw [if_pos he, if_pos he]
    rfl
  · rw [if_neg he, if_neg he]
    cases h : t.checkKeyConditions conditions <;> rfl

theorem run_insert_fst (columns : List (String × Json)) (ttl : Option Int) (now : Nat) :
    (t.run (.insert columns ttl) now).1 = (t.insertKey columns).map fun _ => .none := by
  rw [run_insert]
  cases t.insertKey columns <;> rfl

theorem run_update_fst (assignments : List Assignment) (conditions : List Condition)
    (ttl : Option Int) (now : Nat) :
    (t.run (.update assignments conditions ttl) now).1 =
      (t.updateKey assignments conditions).map fun _ => .none := by
  rw [run_update]
  cases t.updateKey assignments conditions <;> rfl

theorem run_delete_fst (conditions : List Condition) (now : Nat) :
    (t.run (.delete conditions) now).1 = (t.deleteCheck conditions).map fun _ => .none := by
  rw [run_delete]
  cases t.deleteCheck conditions <;> rfl

theorem run_select (s : Selection) (conditions : List Condition) (now : Nat) :
    t.run (.select s conditions) now = (t.select s conditions now, t) := rfl

/-- What an action can do.  It is refused and leaves the table as it was, or it passes its checks
and does all of its work. -/
theorem run_cases {a : Action} {now : Nat} {result : Except StoreFault RowSet} {t' : Table}
    (h : t.run a now = (result, t')) :
    (∃ fault, result = .error fault ∧ t' = t) ∨
    (∃ columns ttl key, a = .insert columns ttl ∧ t.insertKey columns = .ok key ∧
      result = .ok .none ∧ t' = t.inserted key columns ttl now) ∨
    (∃ assignments conditions ttl key, a = .update assignments conditions ttl ∧
      t.updateKey assignments conditions = .ok key ∧
      result = .ok .none ∧ t' = t.updated key assignments ttl now) ∨
    (∃ conditions, a = .delete conditions ∧ t.deleteCheck conditions = .ok () ∧
      result = .ok .none ∧ t' = t.deleted conditions now) ∨
    (∃ s conditions rs, a = .select s conditions ∧ t.select s conditions now = .ok rs ∧
      result = .ok rs ∧ t' = t) := by
  cases a with
  | insert columns ttl =>
    rw [run_insert] at h
    split at h
    · next key hk =>
      obtain ⟨rfl, rfl⟩ := Prod.mk.inj h
      exact .inr (.inl ⟨columns, ttl, key, rfl, hk, rfl, rfl⟩)
    · next fault _ =>
      obtain ⟨rfl, rfl⟩ := Prod.mk.inj h
      exact .inl ⟨fault, rfl, rfl⟩
  | update assignments conditions ttl =>
    rw [run_update] at h
    split at h
    · next key hk =>
      obtain ⟨rfl, rfl⟩ := Prod.mk.inj h
      exact .inr (.inr (.inl ⟨assignments, conditions, ttl, key, rfl, hk, rfl, rfl⟩))
    · next fault _ =>
      obtain ⟨rfl, rfl⟩ := Prod.mk.inj h
      exact .inl ⟨fault, rfl, rfl⟩
  | delete conditions =>
    rw [run_delete] at h
    split at h
    · next hk =>
      obtain ⟨rfl, rfl⟩ := Prod.mk.inj h
      exact .inr (.inr (.inr (.inl ⟨conditions, rfl, hk, rfl, rfl⟩)))
    · next fault _ =>
      obtain ⟨rfl, rfl⟩ := Prod.mk.inj h
      exact .inl ⟨fault, rfl, rfl⟩
  | select s conditions =>
    rw [run_select] at h
    obtain ⟨rfl, rfl⟩ := Prod.mk.inj h
    cases hs : t.select s conditions now with
    | error fault => exact .inl ⟨fault, rfl, rfl⟩
    | ok rs => exact .inr (.inr (.inr (.inr ⟨s, conditions, rs, rfl, hs, rfl, rfl⟩)))

theorem run_insert_of_ok {columns : List (String × Json)} {ttl : Option Int} {now : Nat}
    {rs : RowSet} (h : (t.run (.insert columns ttl) now).1 = .ok rs) :
    ∃ key, t.insertKey columns = .ok key ∧
      (t.run (.insert columns ttl) now).2 = t.inserted key columns ttl now := by
  rw [run_insert] at h ⊢
  cases hk : t.insertKey columns with
  | ok key => exact ⟨key, rfl, rfl⟩
  | error fault =>
    rw [hk] at h
    cases h

theorem run_update_of_ok {assignments : List Assignment} {conditions : List Condition}
    {ttl : Option Int} {now : Nat} {rs : RowSet}
    (h : (t.run (.update assignments conditions ttl) now).1 = .ok rs) :
    ∃ key, t.updateKey assignments conditions = .ok key ∧
      (t.run (.update assignments conditions ttl) now).2 =
        t.updated key assignments ttl now := by
  rw [run_update] at h ⊢
  cases hk : t.updateKey assignments conditions with
  | ok key => exact ⟨key, rfl, rfl⟩
  | error fault =>
    rw [hk] at h
    cases h

theorem run_delete_of_ok {conditions : List Condition} {now : Nat} {rs : RowSet}
    (h : (t.run (.delete conditions) now).1 = .ok rs) :
    t.deleteCheck conditions = .ok () ∧
      (t.run (.delete conditions) now).2 = t.deleted conditions now := by
  rw [run_delete] at h ⊢
  cases hk : t.deleteCheck conditions with
  | ok u => exact ⟨rfl, rfl⟩
  | error fault =>
    rw [hk] at h
    cases h

/-- A refused action leaves the table as it was. -/
theorem run_of_refused {a : Action} {now : Nat} {fault : StoreFault} {t' : Table}
    (h : t.run a now = (.error fault, t')) : t' = t := by
  obtain ⟨-, -, ht⟩ | ⟨_, _, _, _, _, he, _⟩ | ⟨_, _, _, _, _, _, he, _⟩ | ⟨_, _, _, he, _⟩ |
    ⟨_, _, _, _, _, he, _⟩ := run_cases h
  · exact ht
  all_goals cases he

/-- An action never changes the key, the declared columns or the clock of a table. -/
theorem run_keeps {a : Action} {now : Nat} {result : Except StoreFault RowSet} {t' : Table}
    (h : t.run a now = (result, t')) :
    t'.layout = t.layout ∧ t'.declared = t.declared ∧ t'.clock = t.clock := by
  obtain ⟨_, _, rfl⟩ | ⟨_, _, _, _, _, _, rfl⟩ | ⟨_, _, _, _, _, _, _, rfl⟩ | ⟨_, _, _, _, rfl⟩ |
    ⟨_, _, _, _, _, _, rfl⟩ := run_cases h
  all_goals exact ⟨rfl, rfl, rfl⟩

section
variable (t : Table) (a : Action) (now : Nat)

theorem layout_run : (t.run a now).2.layout = t.layout := (run_keeps rfl).1

theorem declared_run : (t.run a now).2.declared = t.declared := (run_keeps rfl).2.1

theorem clock_run : (t.run a now).2.clock = t.clock := (run_keeps rfl).2.2

end

/-! ## Checks look at the key and the declared columns only -/

section
variable {t t' : Table} (hl : t'.layout = t.layout) (hd : t'.declared = t.declared)
include hd

theorem checkColumn_congr (column : String) : t'.checkColumn column = t.checkColumn column := by
  unfold checkColumn
  rw [hd]

theorem checkColumns_congr (columns : List String) :
    t'.checkColumns columns = t.checkColumns columns := by
  induction columns with
  | nil => rfl
  | cons c cs ih => simp only [checkColumns, checkColumn_congr hd, ih]

include hl

theorem checkKeyConditions_congr (conditions : List Condition) :
    t'.checkKeyConditions conditions = t.checkKeyConditions conditions := by
  induction conditions with
  | nil => rfl
  | cons c cs ih => simp only [checkKeyConditions, checkColumn_congr hd, hl, ih]

theorem checkAssignments_congr (assignments : List Assignment) :
    t'.checkAssignments assignments = t.checkAssignments assignments := by
  induction assignments with
  | nil => rfl
  | cons a as ih => simp only [checkAssignments, checkColumn_congr hd, hl, ih]

theorem insertKey_congr (columns : List (String × Json)) :
    t'.insertKey columns = t.insertKey columns := by
  unfold insertKey
  rw [checkColumns_congr hd, hl]

theorem updateKey_congr (assignments : List Assignment) (conditions : List Condition) :
    t'.updateKey assignments conditions = t.updateKey assignments conditions := by
  unfold updateKey
  rw [checkAssignments_congr hl hd, checkKeyConditions_congr hl hd, hl]

theorem deleteCheck_congr (conditions : List Condition) :
    t'.deleteCheck conditions = t.deleteCheck conditions := by
  unfold deleteCheck
  rw [checkKeyConditions_congr hl hd]

end

/-- Whether a write is accepted, and why not, does not depend on the rows nor on the columns known
so far. -/
theorem run_write_fst_congr {t t' : Table} (hl : t'.layout = t.layout)
    (hd : t'.declared = t.declared) {a : Action} (ha : ∀ s conditions, a ≠ .select s conditions)
    (now now' : Nat) : (t'.run a now').1 = (t.run a now).1 := by
  cases a with
  | insert columns ttl =>
    rw [run_insert_fst, run_insert_fst, insertKey_congr hl hd]
  | update assignments conditions ttl =>
    rw [run_update_fst, run_update_fst, updateKey_congr hl hd]
  | delete conditions =>
    rw [run_delete_fst, run_delete_fst, deleteCheck_congr hl hd]
  | select s conditions => exact absurd rfl (ha s conditions)

end Polystore.Table
