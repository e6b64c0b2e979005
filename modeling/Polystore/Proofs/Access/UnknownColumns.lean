import Polystore.Proofs.Access.TableCalls
import Polystore.Proofs.Store.Faults

/-!
# Undeclared columns are told from other faults

What the caller of a table learns if an operation names a column that is not declared.  The store
says so in a message, and the message is all that the caller's side has; what it makes of the
message is exact.  An insertion or a read that names undeclared columns fails for the first of
them.  Any operation that names one fails, and if the failure is told as one of the schema, it names
such a column.  An operation that names declared columns only never fails for the schema
(`undeclared_columns_classified`).
-/

namespace Polystore

/-- Does the operation insert one record, or read? -/
def Operation.InsertsOrReads : Operation → Prop
  | insert _ _ | select _ _ => True
  | _ => False

namespace Access

variable {a : Access Memory} {st : AccessState Memory}

/-! ## Undeclared columns -/

/-- Calls go to the store in memory, which calls have led to, and the table has declared columns and
a key of identifiers. -/
structure Declares (a : Access Memory) (st : AccessState Memory) (name : TableName)
    (declared : List String) : Prop where
  memory : a.backend = Memory.backend
  reachable : st.backend.store.Reachable
  declared : (st.backend.store.table name).declared = some declared
  identifiers : AreIdentifiers (st.backend.store.table name).layout.names

section
variable {name : TableName} {declared : List String} {call : TableCall} {op : Operation}
  {plan : Plan} {f : StoreFault} (hd : a.Declares st name declared)
include hd

theorem Declares.allows_eq (c : String) :
    (st.backend.store.table name).allows c = declared.contains c := by
  rw [Table.allows, hd.declared]
  rfl

section
variable (hp : compile name op = .ok plan)
include hp

theorem Declares.concerns (h : (st.backend.store.carryOut plan st.backend.now).1 = .error f) :
    f.Concerns (st.backend.store.table name) op.columns := by
  rw [← op.columns_plan name, ← compile_eq_plan hp]
  exact Store.concerns_of_carryOut hd.reachable.orderly (target_of_compile hp) h

theorem Declares.isPlain (h : (st.backend.store.carryOut plan st.backend.now).1 = .error f) :
    f.IsPlain :=
  (hd.concerns hp h).isPlain (Operation.areIdentifiers_columns hp) hd.identifiers

/-- A fault that is told as one of the schema is about an undeclared column of the operation. -/
theorem Declares.undefined_of_schema
    (h : (st.backend.store.carryOut plan st.backend.now).1 = .error f) {context : CallContext}
    (hk : (classify context 0 f.failure).kind = .schema) :
    ∃ u, classify context 0 f.failure = .unknownProperty u ∧
      u.property ∈ op.columns ∧ u.property ∉ declared := by
  obtain ⟨c, rfl, hu⟩ := exists_of_schema (hd.isPlain hp h) hk
  obtain ⟨hc, ha⟩ := hd.concerns hp h
  refine ⟨_, hu, hc, fun hm => ?_⟩
  rw [hd.allows_eq, List.contains_iff_mem.2 hm] at ha
  cases ha

/-- An operation that is accepted names declared columns only. -/
theorem Declares.mem_of_ok {rows : RowSet}
    (h : (st.backend.store.carryOut plan st.backend.now).1 = .ok rows) :
    ∀ c ∈ op.columns, c ∈ declared := by
  intro c hc
  rw [← op.columns_plan name, ← compile_eq_plan hp] at hc
  have ha := Store.allows_of_carryOut hd.reachable.orderly (target_of_compile hp) h c hc
  rw [hd.allows_eq] at ha
  exact List.contains_iff_mem.1 ha

/-- An insertion or a read is refused for the first undeclared column that it names. -/
theorem Declares.carryOut_of_undeclared (hi : op.InsertsOrReads) {c : String}
    (hc : op.columns.find? (fun c => !declared.contains c) = some c) :
    (st.backend.store.carryOut plan st.backend.now).1 = .error (.undefinedColumn c) := by
  have hfirst : (st.backend.store.table name).firstUndefined? op.columns = some c := by
    rw [← hc, Table.firstUndefined?]
    congr 1
    funext c
    rw [hd.allows_eq]
  have hrun : ∀ action : Action, plan = .single ⟨name, action⟩ →
      ((∃ columns ttl, action = .insert columns ttl) ∨
        ∃ s conditions, action = .select s conditions) →
      (st.backend.store.carryOut plan st.backend.now).1 = .error (.undefinedColumn c) := by
    rintro action rfl ha
    have hcolumns : action.columns = op.columns := by
      rw [← op.columns_plan name, ← compile_eq_plan hp]
      exact (List.flatMap_singleton _ _).symm
    rw [← hcolumns] at hfirst
    exact Table.run_of_undefined (hd.reachable.orderly.table name) ha hfirst
  have he := compile_eq_plan hp
  cases op with
  | insert record ttl => exact hrun _ he (.inl ⟨_, _, rfl⟩)
  | select criteria p => exact hrun _ he (.inr ⟨_, _, rfl⟩)
  | _ => exact hi.elim

end

/-- Undeclared columns are told from other faults.  An insertion or a read that names one fails for
the schema, by the whole name of the first one in the order of the checks; the caller is to blame,
and the same call cannot succeed later.  Whatever names one fails, and if it fails for the schema
then by an undeclared column that it names.  What names declared columns only never fails for the
schema. -/
theorem undeclared_columns_classified
    (ho : call.toOperation (a.registry.get name) = .ok op) (hp : compile name op = .ok plan) :
    (op.InsertsOrReads → (∃ c ∈ op.columns, c ∉ declared) →
      ∃ c failure, op.columns.find? (fun c => !declared.contains c) = some c ∧
        a.outcome st (.table name call) = .error failure ∧
        failure = .unknownProperty
          ⟨c, name.keyspace, name.table, "Undefined column name " ++ c⟩ ∧
        failure.kind = .schema ∧ failure.isClientError = true ∧ failure.isRetryable = false) ∧
    ((∃ c ∈ op.columns, c ∉ declared) →
      ∃ failure, a.outcome st (.table name call) = .error failure ∧
        (failure.kind = .schema → ∃ u, failure = .unknownProperty u ∧
          u.property ∈ op.columns ∧ u.property ∉ declared)) ∧
    ((∀ c ∈ op.columns, c ∈ declared) →
      ∀ failure, a.outcome st (.table name call) = .error failure → failure.kind ≠ .schema) := by
  refine ⟨fun hi hc => ?_, fun hc => ?_, fun hall failure hf hk => ?_⟩
  · obtain ⟨c, hm, hn⟩ := hc
    have hsome : (op.columns.find? fun c => !declared.contains c).isSome = true :=
      List.find?_isSome.2 ⟨c, hm, by simpa using hn⟩
    obtain ⟨first, hfirst⟩ := Option.isSome_iff_exists.1 hsome
    have hcarry := hd.carryOut_of_undeclared hp hi hfirst
    refine ⟨first, _, hfirst, outcome_of_error ho hp hd.memory hcarry, ?_⟩
    rw [classify_failure (hd.isPlain hp hcarry)]
    exact ⟨rfl, rfl, rfl, rfl⟩
  · obtain ⟨c, hm, hn⟩ := hc
    cases hcarry : (st.backend.store.carryOut plan st.backend.now).1 with
    | ok rows => exact absurd (hd.mem_of_ok hp hcarry c hm) hn
    | error f =>
      exact ⟨_, outcome_of_error ho hp hd.memory hcarry, hd.undefined_of_schema hp hcarry⟩
  · cases hcarry : (st.backend.store.carryOut plan st.backend.now).1 with
    | ok rows =>
      obtain ⟨answer, ha⟩ := exists_outcome_of_ok ho hp hd.memory hcarry
      rw [ha] at hf
      cases hf
    | error f =>
      rw [outcome_of_error ho hp hd.memory hcarry] at hf
      obtain rfl := Except.error.inj hf
      obtain ⟨u, -, hu, hn⟩ := hd.undefined_of_schema hp hcarry hk
      exact hn (hall u.property hu)

end

/-! ### A record with two columns of which one is declared -/

/-- A store in memory with one declared table. -/
def usersDeclared : AccessState Memory :=
  .fresh ⟨(Store.empty .empty .wide).declare ⟨"app", "users"⟩ ["id", "name"], .empty ".raw", 0⟩

/-- Access to it with the usual settings. -/
def usersAccess : Access Memory := ⟨{}, .empty, Memory.backend⟩

/-- A record with a column that is not declared. -/
def nicknamed : Record := [("id", .str "u1"), ("nickname", .str "A")]

theorem declares_users :
    usersAccess.Declares usersDeclared ⟨"app", "users"⟩ ["id", "name"] where
  memory := rfl
  reachable := .declare (.start _ _) _ _
  declared := rfl
  identifiers := by
    have hnames : (usersDeclared.backend.store.table ⟨"app", "users"⟩).layout.names = ["id"] := rfl
    rw [hnames]
    exact List.forall_mem_singleton.2 (by decide)

theorem insert_nicknamed :
    compile ⟨"app", "users"⟩ (.insert nicknamed 0) =
        .ok (.single ⟨⟨"app", "users"⟩, .insert nicknamed none⟩) ∧
      usersAccess.outcome usersDeclared (.table ⟨"app", "users"⟩ (.insert nicknamed)) =
        .error (.unknownProperty
          ⟨"nickname", "app", "users", "Undefined column name nickname"⟩) := by
  have ho : (TableCall.insert nicknamed).toOperation
      (usersAccess.registry.get ⟨"app", "users"⟩) = .ok (.insert nicknamed 0) := rfl
  have hp : compile ⟨"app", "users"⟩ (.insert nicknamed 0) =
      .ok (.single ⟨⟨"app", "users"⟩, .insert nicknamed none⟩) := rfl
  obtain ⟨c, failure, hc, hf, rfl, -⟩ := (undeclared_columns_classified declares_users ho hp).1
    trivial ⟨"nickname", by decide, by decide⟩
  obtain rfl : c = "nickname" := Option.some.inj (hc.symm.trans (by decide))
  exact ⟨hp, hf⟩

end Access

end Polystore
