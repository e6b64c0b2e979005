import Polystore.Proofs.Classification
import Polystore.Proofs.Column.Columns
import Polystore.Proofs.Table.Rows

/-!
# Faults of actions

Why an action is refused.  An action checks the columns that it names in a fixed order.  An
insertion and a read check all of them before anything else, so an undeclared one among them is the
fault; an update and a deletion check each column for what it is used for too, and may be refused
for that first.  In no case is a fault about a column that the action does not name, or about a
declared one as if it were not:

    (t.run a now).1 = .error f → f.Concerns t a.columns                          (concerns_of_run)
    (t.run a now).1 = .ok rs → ∀ c ∈ a.columns, t.allows c = true                (allows_of_run)
-/

namespace Polystore

/-- What a fault of a statement that names these columns can be about: an undeclared column among
them, a column of the key that has no value, or a column among them that is used in the wrong
place. -/
def StoreFault.Concerns (f : StoreFault) (t : Table) (columns : List String) : Prop :=
  match f with
  | undefinedColumn name => name ∈ columns ∧ t.allows name = false
  | missingKeyPart name => name ∈ t.layout.names
  | keyAssigned name | nonKeyCondition name => name ∈ columns
  | noCondition | readInBatch => True

namespace StoreFault

variable {f : StoreFault} {t t' : Table} {columns columns' : List String}

theorem Concerns.mono (h : f.Concerns t columns) (hs : ∀ c ∈ columns, c ∈ columns') :
    f.Concerns t columns' := by
  cases f with
  | undefinedColumn name => exact ⟨hs name h.1, h.2⟩
  | missingKeyPart name => exact h
  | keyAssigned name => exact hs name h
  | nonKeyCondition name => exact hs name h
  | noCondition => trivial
  | readInBatch => trivial

/-- A fault that concerns identifiers names one. -/
theorem Concerns.isPlain (h : f.Concerns t columns)
    (hc : ∀ c ∈ columns, Identifier.holds c = true)
    (hk : ∀ c ∈ t.layout.names, Identifier.holds c = true) : f.IsPlain := by
  rintro name hn
  cases f with
  | undefinedColumn c =>
    obtain rfl := Option.some.inj hn
    exact hc c h.1
  | missingKeyPart c =>
    obtain rfl := Option.some.inj hn
    exact hk c h
  | keyAssigned c =>
    obtain rfl := Option.some.inj hn
    exact hc c h
  | nonKeyCondition c =>
    obtain rfl := Option.some.inj hn
    exact hc c h
  | noCondition => cases hn
  | readInBatch => cases hn

end StoreFault

namespace Table

variable {t : Table} {f : StoreFault} {now : Nat}

/-! ## Checks that fail -/

theorem checkColumn_eq (column : String) :
    t.checkColumn column =
      if t.allows column = true then .ok () else .error (.undefinedColumn column) := by
  unfold checkColumn allows
  cases t.declared with
  | none => rfl
  | some declared => rfl

theorem checkColumn_eq_error {column : String} :
    t.checkColumn column = .error f ↔ t.allows column = false ∧ f = .undefinedColumn column := by
  rw [checkColumn_eq]
  by_cases ha : t.allows column = true
  · rw [if_pos ha]
    simp [ha]
  · rw [if_neg ha]
    simp [ha, eq_comm]

/-- The first column that the table does not allow. -/
def firstUndefined? (t : Table) (columns : List String) : Option String :=
  columns.find? fun c => !t.allows c

theorem checkColumns_eq (columns : List String) :
    t.checkColumns columns =
      match t.firstUndefined? columns with
      | some c => .error (.undefinedColumn c)
      | none => .ok () := by
  induction columns with
  | nil => rfl
  | cons c cs ih =>
    rw [checkColumns, checkColumn_eq, firstUndefined?, List.find?_cons]
    by_cases ha : t.allows c = true
    · rw [if_pos ha, ha]
      exact ih
    · rw [if_neg ha, (Bool.not_eq_true _).mp ha]
      rfl

theorem checkColumns_append (columns columns' : List String) :
    t.checkColumns (columns ++ columns') =
      t.checkColumns columns >>= fun _ => t.checkColumns columns' := by
  induction columns with
  | nil => rfl
  | cons c cs ih => rw [List.cons_append, checkColumns, checkColumns, ih, bind_assoc]

theorem concerns_of_checkColumns {columns : List String} (h : t.checkColumns columns = .error f) :
    f.Concerns t columns := by
  rw [checkColumns_eq] at h
  cases hf : t.firstUndefined? columns with
  | none =>
    rw [hf] at h
    cases h
  | some c =>
    rw [hf] at h
    obtain rfl := Except.error.inj h
    refine ⟨List.mem_of_find?_eq_some hf, ?_⟩
    have hc := List.find?_some hf
    rwa [Bool.not_eq_true'] at hc

theorem concerns_of_checkAssignments {assignments : List Assignment}
    (h : t.checkAssignments assignments = .error f) :
    f.Concerns t (assignments.map Assignment.column) := by
  induction assignments with
  | nil => cases h
  | cons a as ih =>
    rw [checkAssignments, Outcome.bind_eq_error, checkColumn_eq_error] at h
    obtain ⟨ha, rfl⟩ | ⟨_, -, h⟩ := h
    · exact ⟨List.mem_cons_self, ha⟩
    · split at h
      · obtain rfl := Except.error.inj h
        exact List.mem_cons_self
      · exact (ih h).mono fun c hc => List.mem_cons_of_mem _ hc

theorem concerns_of_checkKeyConditions {conditions : List Condition}
    (h : t.checkKeyConditions conditions = .error f) :
    f.Concerns t (conditions.map Condition.column) := by
  induction conditions with
  | nil => cases h
  | cons c cs ih =>
    rw [checkKeyConditions, Outcome.bind_eq_error, checkColumn_eq_error] at h
    obtain ⟨hc, rfl⟩ | ⟨_, -, h⟩ := h
    · exact ⟨List.mem_cons_self, hc⟩
    · split at h
      · exact (ih h).mono fun d hd => List.mem_cons_of_mem _ hd
      · obtain rfl := Except.error.inj h
        exact List.mem_cons_self

theorem fullKey_eq_error {lookup : String → Option Json} {names : List String}
    (h : fullKey lookup names = .error f) : ∃ name ∈ names, f = .missingKeyPart name := by
  induction names with
  | nil => cases h
  | cons name names ih =>
    rw [fullKey] at h
    split at h
    · obtain h | ⟨vs, -, h⟩ := Outcome.bind_eq_error.1 h
      · obtain ⟨other, hm, rfl⟩ := ih h
        exact ⟨other, List.mem_cons_of_mem _ hm, rfl⟩
      · cases h
    · exact ⟨name, List.mem_cons_self, (Except.error.inj h).symm⟩

theorem concerns_of_fullKey {lookup : String → Option Json}
    (h : fullKey lookup t.layout.names = .error f) (columns : List String) :
    f.Concerns t columns := by
  obtain ⟨name, hm, rfl⟩ := fullKey_eq_error h
  exact hm

/-! ## Refused actions -/

/-- A read of all columns of an orderly table names no column that is not declared, so a read is
accepted if the columns that it names are. -/
theorem Orderly.select_eq (ho : t.Orderly) (s : Selection) (conditions : List Condition)
    (now : Nat) :
    t.select s conditions now =
      t.checkColumns (Action.select s conditions).columns >>= fun _ =>
        pure ⟨t.selected s ++ s.ttl.map Prod.snd,
          (t.matching conditions now).map fun r => project (t.selected s) s.ttl r now⟩ := by
  have hs : t.checkColumns (t.selected s) = t.checkColumns (s.columns.getD []) := by
    unfold selected
    cases s.columns with
    | some columns => rfl
    | none =>
      refine (checkColumns_eq_ok.2 ?_).trans (checkColumns_eq_ok.2 ?_).symm
      · dsimp only
        split
        · exact ho.allowed
        · exact fun c hc => absurd hc List.not_mem_nil
      · exact fun c hc => absurd hc List.not_mem_nil
  rw [select, Action.columns, checkColumns_append, checkColumns_append]
  simp only [bind_assoc, hs]

/-- An insertion or a read that names an undeclared column is refused for the first one. -/
theorem run_of_undefined (ho : t.Orderly) {a : Action} {c : String}
    (ha : (∃ columns ttl, a = .insert columns ttl) ∨ ∃ s conditions, a = .select s conditions)
    (hc : t.firstUndefined? a.columns = some c) :
    (t.run a now).1 = .error (.undefinedColumn c) := by
  have hcheck : t.checkColumns a.columns = .error (.undefinedColumn c) := by
    rw [checkColumns_eq, hc]
  obtain ⟨columns, ttl, rfl⟩ | ⟨s, conditions, rfl⟩ := ha
  · have hk : t.insertKey columns = .error (.undefinedColumn c) :=
      Outcome.bind_eq_error.2 (.inl hcheck)
    rw [run_insert, hk]
  · rw [run_select, ho.select_eq]
    exact Outcome.bind_eq_error.2 (.inl hcheck)

/-- A fault is about a column that the action names or one of the key. -/
theorem concerns_of_run (ho : t.Orderly) {a : Action} (h : (t.run a now).1 = .error f) :
    f.Concerns t a.columns := by
  cases a with
  | insert columns ttl =>
    rw [run_insert_fst, Outcome.map_eq_error] at h
    obtain h | ⟨_, -, h⟩ := Outcome.bind_eq_error.1 h
    · exact concerns_of_checkColumns h
    · exact concerns_of_fullKey h _
  | update assignments conditions ttl =>
    rw [run_update_fst, Outcome.map_eq_error] at h
    obtain h | ⟨_, -, h⟩ := Outcome.bind_eq_error.1 h
    · exact (concerns_of_checkAssignments h).mono fun c hc => List.mem_append_left _ hc
    · obtain h | ⟨_, -, h⟩ := Outcome.bind_eq_error.1 h
      · exact (concerns_of_checkKeyConditions h).mono fun c hc => List.mem_append_right _ hc
      · exact concerns_of_fullKey h _
  | delete conditions =>
    rw [run_delete_fst, Outcome.map_eq_error] at h
    unfold deleteCheck at h
    split at h
    · obtain rfl := Except.error.inj h
      trivial
    · exact concerns_of_checkKeyConditions h
  | select s conditions =>
    rw [run_select, ho.select_eq] at h
    obtain h | ⟨_, -, h⟩ := Outcome.bind_eq_error.1 h
    · exact concerns_of_checkColumns h
    · cases h

/-- An accepted action names declared columns only. -/
theorem allows_of_run (ho : t.Orderly) {a : Action} {rs : RowSet} (h : (t.run a now).1 = .ok rs) :
    ∀ c ∈ a.columns, t.allows c = true := by
  cases a with
  | insert columns ttl =>
    obtain ⟨key, hk, -⟩ := run_insert_of_ok h
    rw [insertKey, Outcome.then_eq_ok, checkColumns_eq_ok] at hk
    exact hk.1
  | update assignments conditions ttl =>
    obtain ⟨key, hk, -⟩ := run_update_of_ok h
    rw [updateKey, Outcome.then_eq_ok, Outcome.then_eq_ok, checkAssignments_eq_ok,
      checkKeyConditions_eq_ok] at hk
    obtain ⟨ha, hc, -⟩ := hk
    refine List.forall_mem_append.2 ⟨List.forall_mem_map.2 fun a hm => (ha a hm).1, ?_⟩
    exact List.forall_mem_map.2 fun c hm => (hc c hm).1
  | delete conditions =>
    obtain ⟨hk, -⟩ := run_delete_of_ok h
    unfold deleteCheck at hk
    split at hk
    · cases hk
    · exact List.forall_mem_map.2 fun c hm => (checkKeyConditions_eq_ok.1 hk c hm).1
  | select s conditions =>
    rw [run_select, ho.select_eq, Outcome.then_eq_ok, checkColumns_eq_ok] at h
    exact h.1

end Table

end Polystore
