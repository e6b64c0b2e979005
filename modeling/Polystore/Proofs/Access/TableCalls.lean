import Polystore.Backend.Memory
import Polystore.Proofs.Access.Running
import Polystore.Proofs.Store.Call

/-!
# Calls on tables in memory

A call on a table that was checked and compiled comes to its plan being carried out by the store in
memory: what the store answers decides between an answer and a failure, and nothing else of the
memory changes.  A call that is rejected changes nothing.

    compile name op = .ok plan →
      (a.after st (.table name call)).backend =
        { st.backend with store := (st.backend.store.carryOut plan st.backend.now).2 }
                                                                      (backend_after_table)
-/

namespace Polystore.Access

/-- What a request comes to from a given state. -/
def outcome {σ : Type} (a : Access σ) (st : AccessState σ) (request : Request) :
    Except AccessFailure Answer := ((a.run request).run.run st).1

/-- The state that a request leaves. -/
def after {σ : Type} (a : Access σ) (st : AccessState σ) (request : Request) : AccessState σ :=
  ((a.run request).run.run st).2

variable {a : Access Memory} {st : AccessState Memory}

/-! ## Single steps -/

/-- The handle of a keyspace can always be had. -/
theorem openStore_run (hb : a.backend = Memory.backend) (space : String)
    (st : AccessState Memory) :
    ∃ pool, (a.openStore space).run.run st = (.ok (), { st with stores := pool }) := by
  have hrun : (a.openStore space).run.run st =
      ((st.stores.get a.backend.openStore space st.backend).1.mapError .handle,
        { st with
          backend := (st.stores.get a.backend.openStore space st.backend).2.1
          stores := (st.stores.get a.backend.openStore space st.backend).2.2 }) := rfl
  rw [hrun, hb, Pool.get]
  cases Assoc.find? space st.stores.handles with
  | none => exact ⟨_, rfl⟩
  | some u => exact ⟨_, rfl⟩

/-- A plan is carried out by the store at once. -/
theorem execute_run (hb : a.backend = Memory.backend) (plan : Plan) (st : AccessState Memory) :
    (a.execute plan).run.run st =
      (.ok (.now ((st.backend.store.carryOut plan st.backend.now).1.mapError
          fun f => .failure f.failure)),
        { st with backend :=
          { st.backend with store := (st.backend.store.carryOut plan st.backend.now).2 } }) := by
  cases plan with
  | single s =>
    rw [execute, hb]
    rfl
  | batch ss =>
    have hmap : ∀ r : Except StoreFault Unit,
        (Reply.now (r.mapError fun f => Breakdown.failure f.failure)).map (fun _ => RowSet.none) =
          .now ((r.map fun _ => RowSet.none).mapError fun f => .failure f.failure) := by
      intro r
      cases r with
      | error f => rfl
      | ok u => rfl
    rw [execute, hb]
    refine (bind_run_of_ok (native_run _ _)).trans ?_
    rw [pure_run]
    exact congrArg (fun r => (Except.ok r, _)) (hmap _)

/-- A reply without delay is always in time. -/
theorem settleWithin_now {α : Type} (limitMs : Nat) (context : CallContext)
    (result : Except Breakdown α) :
    settleWithin limitMs context (.now result) = result.mapError (Breakdown.told context 0) :=
  if_neg (Nat.not_lt_zero limitMs)

/-! ## Plans -/

/-- The response to a plan whose rows were returned. -/
def responseTo (a : Access Memory) (plan : Plan) (rows : RowSet) : Response :=
  if plan.statements.any Statement.isRead then .ofRows a.settings.store.columnMapping rows
  else .empty

/-- A plan is told by what the store answers, and leaves what the store leaves. -/
theorem performTable_run (hb : a.backend = Memory.backend) (context : CallContext) (plan : Plan)
    (st : AccessState Memory) :
    ∃ pool, (a.performTable context plan).run.run st =
      ((st.backend.store.carryOut plan st.backend.now).1.mapError
          (fun f => classify context 0 f.failure) |>.map (a.responseTo plan),
        { st with
          stores := pool
          backend :=
            { st.backend with store := (st.backend.store.carryOut plan st.backend.now).2 } }) := by
  obtain ⟨pool, ho⟩ := openStore_run hb context.space st
  have he := execute_run hb plan { st with stores := pool }
  rw [performTable, bind_run_of_ok ho, bind_run_of_ok he, settleWithin_now]
  refine ⟨pool, ?_⟩
  dsimp only
  cases (st.backend.store.carryOut plan st.backend.now).1 with
  | error f => exact bind_run_of_error (lift_run _ _)
  | ok rows => exact bind_run_of_ok (lift_run _ _)

/-! ## Calls -/

/-- A call on a table is checked by turning it into an operation and compiling that. -/
theorem prepare_table {σ : Type} (a : Access σ) (id : String) (name : TableName)
    (call : TableCall) :
    a.prepare id (.table name call) =
      (call.toOperation (a.registry.get name) >>= compile name).map
        (.table ⟨call.name, name.keyspace, name.table⟩) := by
  rw [prepare]
  cases call.toOperation (a.registry.get name) with
  | error r => rfl
  | ok op =>
    show (compile name op >>= fun plan => _) = (compile name op).map _
    cases compile name op with
    | error r => rfl
    | ok plan => rfl

section
variable {name : TableName} {call : TableCall} {op : Operation} {plan : Plan}
  (ho : call.toOperation (a.registry.get name) = .ok op) (hp : compile name op = .ok plan)
include ho hp

/-- The request of an operation that was compiled is answered by its plan. -/
theorem run_table (st : AccessState Memory) :
    (a.run (.table name call)).run.run st =
      (a.performTable ⟨call.name, name.keyspace, name.table⟩ plan >>= fun response =>
        (pure (shape (.table name call) (.response response)) : Act Memory Answer)).run.run st := by
  have hplan : (call.toOperation (a.registry.get name) >>= compile name) = .ok plan := by
    rw [ho]
    exact hp
  rw [run, bind_run_of_ok (get_run st), prepare_table, hplan]
  dsimp only [Except.map, issueFor, perform]
  rw [pure_bind, bind_assoc]
  simp only [pure_bind]

variable (hb : a.backend = Memory.backend)
include hb

/-- A refused plan is told by what is read in the message of the fault. -/
theorem outcome_of_error {f : StoreFault}
    (h : (st.backend.store.carryOut plan st.backend.now).1 = .error f) :
    a.outcome st (.table name call) =
      .error (classify ⟨call.name, name.keyspace, name.table⟩ 0 f.failure) := by
  obtain ⟨pool, hr⟩ := performTable_run hb ⟨call.name, name.keyspace, name.table⟩ plan st
  rw [h] at hr
  rw [outcome, run_table ho hp, bind_run_of_error hr]

/-- An accepted plan is answered with its rows. -/
theorem outcome_of_ok {rows : RowSet}
    (h : (st.backend.store.carryOut plan st.backend.now).1 = .ok rows) :
    a.outcome st (.table name call) =
      .ok (shape (.table name call) (.response (a.responseTo plan rows))) := by
  obtain ⟨pool, hr⟩ := performTable_run hb ⟨call.name, name.keyspace, name.table⟩ plan st
  rw [h] at hr
  rw [outcome, run_table ho hp, bind_run_of_ok hr]
  rfl

theorem exists_outcome_of_ok {rows : RowSet}
    (h : (st.backend.store.carryOut plan st.backend.now).1 = .ok rows) :
    ∃ answer, a.outcome st (.table name call) = .ok answer := ⟨_, outcome_of_ok ho hp hb h⟩

theorem outcome_isOk_iff :
    (∃ answer, a.outcome st (.table name call) = .ok answer) ↔
      ∃ rows, (st.backend.store.carryOut plan st.backend.now).1 = .ok rows := by
  constructor
  · rintro ⟨answer, ha⟩
    cases hc : (st.backend.store.carryOut plan st.backend.now).1 with
    | ok rows => exact ⟨rows, rfl⟩
    | error f =>
      rw [outcome_of_error ho hp hb hc] at ha
      cases ha
  · rintro ⟨rows, hc⟩
    exact exists_outcome_of_ok ho hp hb hc

/-- The store is left as the plan leaves it, and time stands still. -/
theorem backend_after_table :
    (a.after st (.table name call)).backend =
      { st.backend with store := (st.backend.store.carryOut plan st.backend.now).2 } := by
  obtain ⟨pool, hr⟩ := performTable_run hb ⟨call.name, name.keyspace, name.table⟩ plan st
  rw [after, run_table ho hp, bind_run, hr]
  cases (st.backend.store.carryOut plan st.backend.now).1 with
  | error f => rfl
  | ok rows => rfl

end

/-- A call that is rejected changes nothing. -/
theorem run_table_of_rejected {name : TableName} {call : TableCall} {r : Rejection}
    (h : (call.toOperation (a.registry.get name) >>= compile name) = .error r)
    (st : AccessState Memory) :
    (a.run (.table name call)).run.run st = (.error (.refused r), st) := by
  rw [run, bind_run_of_ok (get_run st), prepare_table, h]
  rfl

end Polystore.Access
