import Polystore.Proofs.Column.Outline

/-!
# Columns of operations

The columns that an operation names: those of its values, its keys and conditions, and what it
reads.  They are told in the order in which the store looks at them.  The plan of an accepted
operation names the same ones, and each of them is an identifier:

    (op.plan t).columns = op.columns                                  (Operation.columns_plan)
    compile t op = .ok plan → AreIdentifiers op.columns               (areIdentifiers_columns)
-/

namespace Polystore

/-! ## Columns of statements -/

/-- The columns that an action names, in the order in which they are checked. -/
def Action.columns : Action → List String
  | insert columns _ => columns.map Prod.fst
  | update assignments conditions _ =>
    assignments.map Assignment.column ++ conditions.map Condition.column
  | delete conditions => conditions.map Condition.column
  | select s conditions =>
    conditions.map Condition.column ++ (s.columns.getD [] ++ s.ttl.map Prod.fst)

/-- The columns that the statements of a plan name, statement by statement. -/
def Plan.columns (p : Plan) : List String := p.statements.flatMap fun st => st.action.columns

theorem Statement.mem_names_of_mem_columns {st : Statement} :
    ∀ c ∈ st.action.columns, c ∈ st.names := by
  intro c hc
  refine List.mem_append_right _ ?_
  obtain ⟨target, action⟩ := st
  cases action with
  | insert columns ttl => exact hc
  | update assignments conditions ttl => exact hc
  | delete conditions => exact hc
  | select s conditions =>
    dsimp only [Action.columns] at hc ⊢
    rcases List.mem_append.1 hc with hc | hc
    · exact List.mem_append_right _ hc
    · rcases List.mem_append.1 hc with hc | hc
      · exact List.mem_append_left _ (List.mem_append_left _ hc)
      · obtain ⟨p, hp, rfl⟩ := List.mem_map.1 hc
        refine List.mem_append_left _ (List.mem_append_right _ ?_)
        exact List.mem_flatMap.2 ⟨p, hp, List.mem_cons_self⟩

/-! ## Columns of operations -/

/-- The columns that the conditions of an entry name, once for each condition. -/
def Criterion.columns (field : String) : Criterion → List String
  | scalar _ | list _ => [field]
  | operators ops => ops.bounds.map fun _ => field

/-- The columns that the conditions of a filter name. -/
def Filter.columns (f : Filter) : List String := f.entries.flatMap fun e => e.2.columns e.1

/-- The columns of a key. -/
def RowKey.columns (k : RowKey) : List String := k.equalities.map Prod.fst

/-- The columns that the conditions of criteria name. -/
def Criteria.columns : Criteria → List String
  | all => []
  | key k => k.columns
  | oneOf column _ => [column]
  | properties f | keyRange f => f.columns
  | contains column _ f => column :: f.columns

/-- The columns that a write of a batch names. -/
def BatchItem.columns : BatchItem → List String
  | insert record _ => record.map Prod.fst
  | update key values => values.map Prod.fst ++ key.columns

/-- The columns that an operation names, in the order in which the store checks them: values come
before keys, conditions before what is returned, and that before remaining times to live. -/
def Operation.columns : Operation → List String
  | insert record _ => record.map Prod.fst
  | update key values _ => values.map Prod.fst ++ key.columns
  | delete c => c.columns
  | select c p => c.columns ++ (p.columns.getD [] ++ p.ttl.map Prod.fst)
  | putEntry key column _ _ | removeEntry key column _ => column :: key.columns
  | batch items => items.flatMap BatchItem.columns

theorem Criterion.columns_asked (field : String) (c : Criterion) :
    (c.asked field).map Condition.column = c.columns field := by
  cases c with
  | scalar v => rfl
  | list vs => rfl
  | operators ops =>
    rw [asked, List.map_map]
    rfl

theorem Filter.columns_asked (f : Filter) : f.asked.map Condition.column = f.columns := by
  simp only [asked, columns, List.map_flatMap, Criterion.columns_asked]

theorem RowKey.columns_equalConditions (k : RowKey) :
    k.equalConditions.map Condition.column = k.columns := by
  rw [equalConditions, List.map_map]
  rfl

theorem Criteria.columns_asked (c : Criteria) : c.asked.map Condition.column = c.columns := by
  cases c with
  | all => rfl
  | key k => exact k.columns_equalConditions
  | oneOf column values => rfl
  | properties f => exact f.columns_asked
  | keyRange f => exact f.columns_asked
  | contains column v f => exact congrArg (column :: ·) f.columns_asked

theorem columns_assignments (values : Record) (k : RowKey) (ttl : Option Int) :
    (Action.update (values.map fun p => .set p.1 p.2) k.equalConditions ttl).columns =
      values.map Prod.fst ++ k.columns := by
  rw [Action.columns, k.columns_equalConditions, List.map_map]
  rfl

theorem BatchItem.columns_action (item : BatchItem) : item.action.columns = item.columns := by
  cases item with
  | insert record ttl => rfl
  | update key values => exact columns_assignments values key none

/-- The plan of an operation names the columns that the operation names. -/
theorem Operation.columns_plan (t : TableName) (op : Operation) :
    (op.plan t).columns = op.columns := by
  have hsingle : ∀ a : Action, (Plan.single ⟨t, a⟩).columns = a.columns :=
    fun a => List.flatMap_singleton _ _
  cases op with
  | insert record ttl => exact hsingle _
  | update key values ttl => exact (hsingle _).trans (columns_assignments values key _)
  | delete c => exact (hsingle _).trans c.columns_asked
  | select c p =>
    refine (hsingle _).trans ?_
    rw [Action.columns, c.columns_asked, columns]
  | putEntry key column entry v =>
    exact (hsingle _).trans (congrArg (column :: ·) key.columns_equalConditions)
  | removeEntry key column entry =>
    exact (hsingle _).trans (congrArg (column :: ·) key.columns_equalConditions)
  | batch items =>
    show (items.map fun item => (⟨t, item.action⟩ : Statement)).flatMap _ = _
    rw [List.flatMap_map, columns]
    exact List.flatMap_congr fun item _ => item.columns_action

theorem Operation.areIdentifiers_columns {t : TableName} {op : Operation} {plan : Plan}
    (h : compile t op = .ok plan) : AreIdentifiers op.columns := by
  rw [← op.columns_plan t, ← compile_eq_plan h]
  intro c hc
  obtain ⟨st, hst, hc⟩ := List.mem_flatMap.1 hc
  exact names_of_compile h st hst c (Statement.mem_names_of_mem_columns c hc)

end Polystore
