import Polystore.Backend.Memory
import Polystore.Proofs.Access.Refusals
import Polystore.Proofs.Response.Rows
import Polystore.Proofs.Store.Selection

/-!
# Reads under other names

A mapping of columns has a part in one step of a call only: when the rows of a read become records.
As long as it keeps the columns of the rows apart, a call is answered as without the mapping, with
the fields of the records renamed, and it leaves the same state (`reads_renamed`).  This holds on
any backend, and also where the logical name of one column is the physical name of another.
-/

namespace Polystore

/-- The answer with renamed records. -/
def Answer.renamed (f : String → String) : Answer → Answer
  | .response r => .response (r.renamed f)
  | answer => answer

namespace Access

variable {σ : Type} {a : Access σ} {st : AccessState σ}

/-- The same access without a mapping of columns. -/
def withoutMapping (a : Access σ) : Access σ :=
  { a with settings.store.columnMapping := [] }

/-! ## Rows of a call -/

/-- The native call of a plan returns the rows. -/
def Yields (a : Access σ) (st : AccessState σ) (context : CallContext) (plan : Plan)
    (rows : RowSet) : Prop :=
  ∃ opened left reply, (a.openStore context.space).run.run st = (.ok (), opened) ∧
    (a.execute plan).run.run opened = (.ok reply, left) ∧ reply.result = .ok rows

/-- The request is a read, and the rows are what its native call returns. -/
def Reads (a : Access σ) (st : AccessState σ) (request : Request) (rows : RowSet) : Prop :=
  ∃ context plan, a.prepare (freshId st.issued) request = .ok (.table context plan) ∧
    plan.statements.any Statement.isRead = true ∧ a.Yields st context plan rows

/-- Rows that come in time are those of the reply. -/
theorem result_of_settleWithin {α : Type} {limitMs : Nat} {context : CallContext} {r : Reply α}
    {x : α} (h : settleWithin limitMs context r = .ok x) : r.result = .ok x := by
  unfold settleWithin at h
  split at h
  · cases h
  · exact Outcome.mapError_eq_ok.1 h

/-! ## Calls with a mapping and without it -/

theorem execute_withoutMapping (a : Access σ) (plan : Plan) :
    a.withoutMapping.execute plan = a.execute plan := by
  cases plan with
  | single s => rfl
  | batch ss => rfl

theorem prepare_withoutMapping (a : Access σ) (fresh : String) (request : Request) :
    a.withoutMapping.prepare fresh request = a.prepare fresh request := by
  cases request with
  | table name call => rfl
  | index name call => rfl
  | health => rfl

theorem performTable_renamed {context : CallContext} {plan : Plan}
    (h : plan.statements.any Statement.isRead = true → ∀ rows, a.Yields st context plan rows →
      ColumnMapping.KeepsApart a.settings.store.columnMapping rows.columns) :
    (a.performTable context plan).run.run st =
      (((a.withoutMapping.performTable context plan).run.run st).1.map
          (Response.renamed (ColumnMapping.logical a.settings.store.columnMapping)),
        ((a.withoutMapping.performTable context plan).run.run st).2) := by
  have hopen : a.withoutMapping.openStore context.space = a.openStore context.space := rfl
  rw [performTable, performTable, hopen, execute_withoutMapping]
  rcases ho : (a.openStore context.space).run.run st with ⟨e | u, opened⟩
  · rw [bind_run_of_error ho, bind_run_of_error ho]
    rfl
  rw [bind_run_of_ok ho, bind_run_of_ok ho]
  rcases he : (a.execute plan).run.run opened with ⟨e | reply, left⟩
  · rw [bind_run_of_error he, bind_run_of_error he]
    rfl
  rw [bind_run_of_ok he, bind_run_of_ok he]
  have hlimit : a.withoutMapping.settings.store.requestTimeoutMs =
    a.settings.store.requestTimeoutMs := rfl
  rw [hlimit]
  have hlift := lift_run (settleWithin a.settings.store.requestTimeoutMs context reply) left
  cases hs : settleWithin a.settings.store.requestTimeoutMs context reply with
  | error e =>
    rw [hs] at hlift
    rw [bind_run_of_error hlift, bind_run_of_error hlift]
    rfl
  | ok rows =>
    rw [hs] at hlift
    rw [bind_run_of_ok hlift, bind_run_of_ok hlift, pure_run, pure_run]
    refine congrArg (fun r => (Except.ok r, left)) ?_
    by_cases hread : plan.statements.any Statement.isRead = true
    · rw [if_pos hread, if_pos hread]
      exact (h hread rows ⟨opened, left, reply, ho, he, result_of_settleWithin hs⟩).ofRows_renamed
    · rw [if_neg hread, if_neg hread]
      rfl

theorem shape_renamed (name : TableName) (call : TableCall) (f : String → String) (r : Response) :
    shape (.table name call) (.response (r.renamed f)) =
      (shape (.table name call) (.response r)).renamed f := by
  cases call with
  | deleteByIds ids => rfl
  | _ => rfl

theorem exists_of_prepare_table {fresh : String} {name : TableName} {call : TableCall} {task : Task}
    (h : a.prepare fresh (.table name call) = .ok task) :
    ∃ context plan, task = .table context plan := by
  rw [prepare_table] at h
  cases hc : call.toOperation (a.registry.get name) >>= compile name with
  | error r =>
    rw [hc] at h
    cases h
  | ok plan =>
    rw [hc] at h
    exact ⟨_, plan, (Except.ok.inj h).symm⟩

/-- A call that was accepted is answered with the response to its plan. -/
theorem run_accepted {name : TableName} {call : TableCall} {context : CallContext} {plan : Plan}
    (h : a.prepare (freshId st.issued) (.table name call) = .ok (.table context plan)) :
    (a.run (.table name call)).run.run st =
      (((a.performTable context plan).run.run st).1.map fun r =>
          shape (.table name call) (.response r),
        ((a.performTable context plan).run.run st).2) := by
  have hissue : issueFor (σ := σ) (.table name call) = pure () := rfl
  rw [run_of_prepare_ok h, hissue, pure_bind, perform, bind_assoc, bind_run]
  rcases (a.performTable context plan).run.run st with ⟨e | r, left⟩
  · rfl
  · rfl

/-- A call with a mapping and the same call without it. -/
theorem run_renamed {name : TableName} {call : TableCall}
    (h : ∀ rows, a.Reads st (.table name call) rows →
      ColumnMapping.KeepsApart a.settings.store.columnMapping rows.columns) :
    (a.run (.table name call)).run.run st =
      (((a.withoutMapping.run (.table name call)).run.run st).1.map
          (Answer.renamed (ColumnMapping.logical a.settings.store.columnMapping)),
        ((a.withoutMapping.run (.table name call)).run.run st).2) := by
  have hp := prepare_withoutMapping a (freshId st.issued) (.table name call)
  cases ht : a.prepare (freshId st.issued) (.table name call) with
  | error r =>
    rw [run_of_prepare_error ht, run_of_prepare_error (hp.trans ht)]
    rfl
  | ok task =>
    obtain ⟨context, plan, rfl⟩ := exists_of_prepare_table ht
    have htable := performTable_renamed fun hread rows hy => h rows ⟨context, plan, ht, hread, hy⟩
    rw [run_accepted ht, run_accepted (hp.trans ht), htable]
    rcases (a.withoutMapping.performTable context plan).run.run st with ⟨e | r, left⟩
    · rfl
    · exact congrArg (fun answer => (Except.ok answer, left)) (shape_renamed name call _ r)

/-- Renaming is all that a mapping does.

Rows whose columns are different, and are under different logical names, become one record for each
row, in order, and are counted.  A record has the logical names of the columns in order, each with
the value that the row has in the column, or null if it has none.  So a call on a table that reads
such rows is answered as the same call without a mapping, but for the names of the fields, and
leaves the same state. -/
theorem reads_renamed (m : ColumnMapping) :
    (∀ rs : RowSet, m.KeepsApart rs.columns →
      Response.ofRows m rs =
        ⟨rs.rows.map fun row => rs.columns.map fun c =>
          (ColumnMapping.logical m c, (Assoc.find? c row).getD .null), rs.rows.length, none⟩) ∧
    ∀ {σ : Type} (a : Access σ) (st : AccessState σ) (name : TableName) (call : TableCall),
      a.settings.store.columnMapping = m →
      (∀ rows, a.Reads st (.table name call) rows → m.KeepsApart rows.columns) →
      a.outcome st (.table name call) =
          (a.withoutMapping.outcome st (.table name call)).map
            (Answer.renamed (ColumnMapping.logical m)) ∧
        a.after st (.table name call) = a.withoutMapping.after st (.table name call) := by
  refine ⟨fun rs h => h.ofRows_eq, ?_⟩
  rintro σ a st name call rfl h
  have hr := run_renamed h
  refine ⟨?_, ?_⟩
  · rw [outcome, hr]
    rfl
  · rw [after, hr]
    rfl

/-! ### Swapped names -/

/-- Access with settings under which two columns have each other's name. -/
def swappingNames : Access Memory :=
  ⟨{ store.columnMapping := [("id", "n"), ("n", "id")] }, .empty, Memory.backend⟩

/-- A memory with one row, whose `id` is `a` and whose `n` is 5. -/
def itemState : AccessState Memory := .fresh ⟨Store.oneRow, .empty ".raw", 0⟩

theorem reads_renamed_of_swapped :
    (∀ rows, swappingNames.Reads itemState (.table ⟨"shop", "items"⟩ (.readAll none)) rows →
      ColumnMapping.KeepsApart [("id", "n"), ("n", "id")] rows.columns) ∧
    swappingNames.withoutMapping.outcome itemState (.table ⟨"shop", "items"⟩ (.readAll none)) =
      .ok (.response (.ofRecords [[("id", .str "a"), ("n", .ofNat 5)]])) ∧
    swappingNames.outcome itemState (.table ⟨"shop", "items"⟩ (.readAll none)) =
      .ok (.response (.ofRecords [[("n", .str "a"), ("id", .ofNat 5)]])) := by
  have hapart : ∀ rows,
      swappingNames.Reads itemState (.table ⟨"shop", "items"⟩ (.readAll none)) rows →
        ColumnMapping.KeepsApart [("id", "n"), ("n", "id")] rows.columns := by
    rintro rows ⟨context, plan, hp, -, opened, left, reply, ho, he, hr⟩
    cases hp
    cases ho
    cases he
    cases hr
    exact ⟨by decide, by decide⟩
  have hplain : swappingNames.withoutMapping.outcome itemState
      (.table ⟨"shop", "items"⟩ (.readAll none)) =
        .ok (.response (.ofRecords [[("id", .str "a"), ("n", .ofNat 5)]])) := rfl
  refine ⟨hapart, hplain, ?_⟩
  rw [((reads_renamed [("id", "n"), ("n", "id")]).2 swappingNames itemState _ _ rfl hapart).1,
    hplain]
  rfl

end Access

end Polystore
