import Polystore.Column.Compile
import Polystore.Proofs.Table.Work
import Polystore.Table.Store

/-!
# Calls on a store

A call names a table and an operation; the operation is compiled, and its plan is carried out.  Two
stores are alike if they hold the same table under every name, where a table that was not named yet
counts as a fresh one.  Alike stores cannot be told apart:

    s.Alike s' → s.answers calls = s'.answers calls          (answers_of_alike)
-/

namespace Polystore

/-- Why a call on a store fails: its operation is refused, or one of its statements is. -/
inductive Refusal where
  | rejected (r : Rejection)
  | faulted (f : StoreFault)
  deriving DecidableEq, Repr

/-- A clock that shows the instants of some three hundred years. -/
def Clock.wide : Clock := ⟨Decimal.tenTo 19⟩

namespace Store

/-! ## Calls -/

/-- Carries out a plan. -/
def carryOut (s : Store) (p : Plan) (now : Nat) : Except StoreFault RowSet × Store :=
  match p with
  | .single st => s.execute st now
  | .batch sts =>
    let (result, s') := s.executeBatch sts now
    (result.map fun _ => .none, s')

/-- Compiles an operation on a table and carries out its plan. -/
def call (s : Store) (name : TableName) (op : Operation) (now : Nat) :
    Except Refusal RowSet × Store :=
  match compile name op with
  | .error r => (.error (.rejected r), s)
  | .ok plan =>
    let (result, s') := s.carryOut plan now
    (result.mapError .faulted, s')

/-- The answers to plans that are carried out one after the other, each at its instant. -/
def answers (s : Store) : List (Plan × Nat) → List (Except StoreFault RowSet)
  | [] => []
  | (p, now) :: rest => (s.carryOut p now).1 :: answers (s.carryOut p now).2 rest

variable {s s' : Store}

section
variable {name : TableName} {op : Operation} {now : Nat}

theorem call_of_compile {plan : Plan} (h : compile name op = .ok plan) :
    s.call name op now =
      ((s.carryOut plan now).1.mapError .faulted, (s.carryOut plan now).2) := by
  unfold call
  rw [h]

theorem call_of_rejected {r : Rejection} (h : compile name op = .error r) :
    s.call name op now = (.error (.rejected r), s) := by
  unfold call
  rw [h]

theorem call_eq_ok_iff {rs : RowSet} :
    (s.call name op now).1 = .ok rs ↔
      ∃ plan, compile name op = .ok plan ∧ (s.carryOut plan now).1 = .ok rs := by
  cases hc : compile name op with
  | error r => simp [call_of_rejected hc]
  | ok plan => simp [call_of_compile hc, Outcome.mapError_eq_ok]

end

/-! ## Tables of a store -/

theorem table_withTable (s : Store) (name other : TableName) (t : Table) :
    (s.withTable name t).table other = if other = name then t else s.table other := by
  unfold table withTable
  dsimp only
  rw [Assoc.find?_put]
  split <;> rfl

theorem execute_eq (s : Store) (st : Statement) (now : Nat) :
    s.execute st now =
      (((s.table st.target).run st.action now).1,
        s.withTable st.target ((s.table st.target).run st.action now).2) := rfl

theorem table_execute (s : Store) (st : Statement) (now : Nat) (name : TableName) :
    (s.execute st now).2.table name =
      if name = st.target then ((s.table st.target).run st.action now).2 else s.table name := by
  rw [execute_eq, table_withTable]

/-! ## Alike stores -/

/-- Do the stores hold the same tables? -/
def Alike (s s' : Store) : Prop := ∀ name, s.table name = s'.table name

theorem Alike.refl (s : Store) : s.Alike s := fun _ => rfl

theorem Alike.trans {s s' s'' : Store} (h : s.Alike s') (h' : s'.Alike s'') : s.Alike s'' :=
  fun name => (h name).trans (h' name)

theorem execute_of_alike (h : s.Alike s') (st : Statement) (now : Nat) :
    (s.execute st now).1 = (s'.execute st now).1 ∧
      (s.execute st now).2.Alike (s'.execute st now).2 := by
  refine ⟨?_, fun name => ?_⟩
  · rw [execute_eq, execute_eq, h st.target]
  · rw [table_execute, table_execute, h st.target, h name]

theorem stage_of_alike (h : s.Alike s') (sts : List Statement) (now : Nat) :
    (s.stage now sts).1 = (s'.stage now sts).1 ∧
      (s.stage now sts).2.Alike (s'.stage now sts).2 := by
  induction sts generalizing s s' with
  | nil => exact ⟨rfl, h⟩
  | cons st sts ih =>
    obtain ⟨h₁, h₂⟩ := execute_of_alike h st now
    simp only [stage]
    split
    · exact ⟨rfl, h⟩
    · rcases he : s.execute st now with ⟨result, t⟩
      rcases he' : s'.execute st now with ⟨result', t'⟩
      rw [he, he'] at h₁ h₂
      cases h₁
      cases result with
      | ok rs => exact ih h₂
      | error fault => exact ⟨rfl, h₂⟩

theorem executeBatch_of_alike (h : s.Alike s') (sts : List Statement) (now : Nat) :
    (s.executeBatch sts now).1 = (s'.executeBatch sts now).1 ∧
      (s.executeBatch sts now).2.Alike (s'.executeBatch sts now).2 := by
  obtain ⟨h₁, h₂⟩ := stage_of_alike h sts now
  unfold executeBatch
  rcases he : s.stage now sts with ⟨result, t⟩
  rcases he' : s'.stage now sts with ⟨result', t'⟩
  rw [he, he'] at h₁ h₂
  cases h₁
  cases result with
  | ok u => exact ⟨rfl, h₂⟩
  | error fault => exact ⟨rfl, h⟩

theorem carryOut_of_alike (h : s.Alike s') (p : Plan) (now : Nat) :
    (s.carryOut p now).1 = (s'.carryOut p now).1 ∧
      (s.carryOut p now).2.Alike (s'.carryOut p now).2 := by
  cases p with
  | single st => exact execute_of_alike h st now
  | batch sts =>
    obtain ⟨h₁, h₂⟩ := executeBatch_of_alike h sts now
    exact ⟨congrArg (Except.map fun _ => RowSet.none) h₁, h₂⟩

/-- Alike stores answer alike, however long they are asked. -/
theorem answers_of_alike (h : s.Alike s') (calls : List (Plan × Nat)) :
    s.answers calls = s'.answers calls := by
  induction calls generalizing s s' with
  | nil => rfl
  | cons c calls ih =>
    obtain ⟨p, now⟩ := c
    obtain ⟨h₁, h₂⟩ := carryOut_of_alike h p now
    simp only [answers, h₁, ih h₂]

/-! ## Refused statements -/

theorem eq_withTable_of_execute_refused {st : Statement} {now : Nat} {fault : StoreFault}
    (h : s.execute st now = (.error fault, s')) :
    s' = s.withTable st.target (s.table st.target) := by
  rcases hr : (s.table st.target).run st.action now with ⟨result, t⟩
  rw [execute_eq, hr] at h
  obtain ⟨rfl, rfl⟩ := Prod.mk.inj h
  rw [Table.run_of_refused hr]

/-- A refused statement leaves a store that is alike. -/
theorem alike_of_execute_refused {st : Statement} {now : Nat} {fault : StoreFault}
    (h : s.execute st now = (.error fault, s')) : s'.Alike s := by
  intro name
  rw [eq_withTable_of_execute_refused h, table_withTable]
  split
  · next hn => rw [hn]
  · rfl

/-- A read leaves a store that is alike. -/
theorem alike_execute_of_isRead {st : Statement} (h : st.isRead = true) (s : Store) (now : Nat) :
    (s.execute st now).2.Alike s := by
  intro name
  obtain ⟨target, action⟩ := st
  cases action with
  | select selection conditions =>
    rw [table_execute]
    split
    · next hn => rw [hn]; rfl
    · rfl
  | _ => cases h

/-- All that a refused statement leaves behind is a table without rows, if it named one that was not
there. -/
theorem find?_of_execute_refused {st : Statement} {now : Nat} {fault : StoreFault}
    (h : s.execute st now = (.error fault, s')) (name : TableName) :
    Assoc.find? name s'.tables = Assoc.find? name s.tables ∨
      Assoc.find? name s.tables = none ∧
        Assoc.find? name s'.tables =
          some (.fresh (s.registry.get name) (Assoc.find? name s.declared) s.clock) := by
  rw [eq_withTable_of_execute_refused h]
  simp only [withTable, Assoc.find?_put]
  split
  · next hn =>
    subst hn
    unfold table
    cases Assoc.find? st.target s.tables with
    | none => exact .inr ⟨rfl, rfl⟩
    | some t => exact .inl rfl
  · exact .inl rfl

/-! ## What no statement changes -/

section
variable {α : Type} {f : Table → α} (hf : ∀ t a now, f (Table.run t a now).2 = f t)
include hf

/-- What every action keeps of a table, every statement keeps of every table. -/
theorem kept_execute (s : Store) (st : Statement) (now : Nat) (name : TableName) :
    f ((s.execute st now).2.table name) = f (s.table name) := by
  rw [table_execute]
  split
  · next hn => rw [hf, hn]
  · rfl

theorem kept_foldl (s : Store) (sts : List Statement) (now : Nat) (name : TableName) :
    f ((sts.foldl (fun s st => (s.execute st now).2) s).table name) = f (s.table name) := by
  induction sts generalizing s with
  | nil => rfl
  | cons st sts ih => exact (ih _).trans (kept_execute hf s st now name)

end

/-! ## Stores of the same shape -/

/-- Do the tables of the stores have the same keys and declared columns? -/
def SameShape (s s' : Store) : Prop :=
  ∀ name, (s'.table name).layout = (s.table name).layout ∧
    (s'.table name).declared = (s.table name).declared

/-- A statement, accepted or not, keeps keys and declared columns. -/
theorem sameShape_execute (s : Store) (st : Statement) (now : Nat) :
    s.SameShape (s.execute st now).2 :=
  fun name => ⟨kept_execute Table.layout_run s st now name,
    kept_execute Table.declared_run s st now name⟩

theorem isRead_eq_false_iff {st : Statement} :
    st.isRead = false ↔ ∀ sel conditions, st.action ≠ .select sel conditions := by
  unfold Statement.isRead
  cases st.action <;> simp

/-- Stores of the same shape accept the same writes. -/
theorem execute_write_of_sameShape (h : s.SameShape s') {st : Statement}
    (hw : st.isRead = false) (now : Nat) : (s'.execute st now).1 = (s.execute st now).1 :=
  Table.run_write_fst_congr (h st.target).1 (h st.target).2 (isRead_eq_false_iff.1 hw) now now

end Store

end Polystore
