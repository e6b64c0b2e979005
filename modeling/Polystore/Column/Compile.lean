import Polystore.Column.Operation
import Polystore.Column.Statement

/-!
# From operations to statements

Checks an operation and turns it into a plan.  Nothing is executed here.  Every name that will
stand in the text of a statement is checked to be an identifier; a value is only ever bound.

An entry of a filter becomes one condition if it is a scalar (equality) or a list (membership),
and one condition per bound if it has bounds and the read allows them.
-/

namespace Polystore

/-! ## Conditions -/

namespace Criterion

/-- The conditions of a filter entry. -/
def conditions (allowBounds : Bool) (field : String) : Criterion → Checked (List Condition)
  | scalar v => pure [⟨field, .equals v⟩]
  | list vs => pure [⟨field, .oneOf vs⟩]
  | operators ops =>
    if allowBounds && ops.affixes.isEmpty then
      pure (ops.bounds.map fun p => ⟨field, .bound p.1 p.2⟩)
    else throw (.invalidFilter field .operatorUnsupported)

end Criterion

namespace Filter

/-- The conditions of entries, in order. -/
def entryConditions (allowBounds : Bool) : List (String × Criterion) → Checked (List Condition)
  | [] => pure []
  | (field, c) :: rest => do
    Identifier.check field
    let first ← c.conditions allowBounds field
    let others ← entryConditions allowBounds rest
    pure (first ++ others)

/-- The conditions of a filter, which must not have alternatives. -/
def conditions (allowBounds : Bool) (f : Filter) : Checked (List Condition) :=
  if f.anyOf.isEmpty then entryConditions allowBounds f.entries
  else throw (.invalidFilter groupKey .groupUnsupported)

end Filter

namespace RowKey

/-- The conditions that a row has the key. -/
def conditions (k : RowKey) : Checked (List Condition) := do
  Identifier.checkAll (k.equalities.map Prod.fst)
  pure (k.equalities.map fun p => ⟨p.1, .equals p.2⟩)

end RowKey

/-- Can the value stand in a list of keys?  It has to be a scalar and not a blank text. -/
def isKeyValue : Json → Bool
  | .str s => !Text.isBlank s
  | v => v.isScalar

namespace Criteria

/-- The conditions of a read or a delete. -/
def conditions : Criteria → Checked (List Condition)
  | all => pure []
  | key k => do
    k.check
    k.conditions
  | oneOf column values => do
    Identifier.check column
    if values.isEmpty then throw (.emptyList .keys)
    else if values.all isKeyValue then pure [⟨column, .oneOf values⟩]
    else throw (.blankIdentifier .keyValue)
  | properties f => f.conditions false
  | keyRange f => f.conditions true
  | contains column v f => do
    Identifier.check column
    if v.isScalar then
      let others ← f.conditions false
      pure (⟨column, .contains v⟩ :: others)
    else throw (.invalidFilter column .nonScalarNeedle)

end Criteria

/-! ## Statements -/

/-- The insertion of a record. -/
def compileInsert (t : TableName) (record : Record) (ttl : Int) : Checked Statement :=
  if record.isEmpty then throw (.emptyRecord .insert)
  else do
    Identifier.checkAll (record.map Prod.fst)
    let ttl ← effectiveTtl ttl
    pure ⟨t, .insert record ttl⟩

/-- Refuses values for a column that is no identifier or belongs to the key. -/
def checkValueColumns (key : RowKey) : List String → Checked Unit
  | [] => pure ()
  | column :: rest => do
    Identifier.check column
    if key.binds column then throw (.keyColumnInValues column) else checkValueColumns key rest

/-- The update of the row with a key. -/
def compileUpdate (t : TableName) (key : RowKey) (values : Record) (ttl : Int) :
    Checked Statement := do
  key.check
  if values.isEmpty then throw (.emptyRecord .update)
  else
    checkValueColumns key (values.map Prod.fst)
    let conditions ← key.conditions
    let ttl ← effectiveTtl ttl
    pure ⟨t, .update (values.map fun p => .set p.1 p.2) conditions ttl⟩

/-- The edit of one map entry of the row with a key. -/
def compileEntry (t : TableName) (key : RowKey) (a : Assignment) : Checked Statement := do
  key.check
  checkValueColumns key [a.column]
  let conditions ← key.conditions
  pure ⟨t, .update [a] conditions none⟩

/-- The columns that a projection returns: a read of remaining times without fields returns the
fields whose times are read. -/
def Projection.columns (p : Projection) : Option (List String) :=
  match p.fields with
  | some fields => some fields
  | none => if p.ttl.isEmpty then none else some (p.ttl.map Prod.fst)

/-- The read of the rows that criteria address. -/
def compileSelect (t : TableName) (criteria : Criteria) (p : Projection) : Checked Statement := do
  TtlProjection.check p.ttl
  Identifier.checkAll (p.fields.getD [])
  Identifier.checkAll (p.ttl.flatMap fun q => [q.1, q.2])
  let conditions ← criteria.conditions
  pure ⟨t, .select ⟨p.columns, p.ttl⟩ conditions⟩

/-- The deletion of the rows that criteria address; it must not address every row. -/
def compileDelete (t : TableName) : Criteria → Checked Statement
  | .all => throw (.invalidRequest "criteria" .unrestricted)
  | criteria => do
    let conditions ← criteria.conditions
    pure ⟨t, .delete conditions⟩

/-- One write of a batch. -/
def compileItem (t : TableName) : BatchItem → Checked Statement
  | .insert record ttl => compileInsert t record ttl
  | .update key values => compileUpdate t key values 0

/-- The writes of a batch, in order. -/
def compileItems (t : TableName) : List BatchItem → Checked (List Statement)
  | [] => pure []
  | item :: rest => do
    let s ← compileItem t item
    let ss ← compileItems t rest
    pure (s :: ss)

/-- Refuses a table whose names are blank or no identifiers. -/
def TableName.check (t : TableName) : Checked Unit := do
  requireText .keyspace t.keyspace
  requireText .table t.table
  Identifier.check t.keyspace
  Identifier.check t.table

/-- The plan of an operation on a table. -/
def compile (t : TableName) (op : Operation) : Checked Plan := do
  t.check
  match op with
  | .insert record ttl => return .single (← compileInsert t record ttl)
  | .update key values ttl => return .single (← compileUpdate t key values ttl)
  | .delete criteria => return .single (← compileDelete t criteria)
  | .select criteria p => return .single (← compileSelect t criteria p)
  | .putEntry key column entry v => return .single (← compileEntry t key (.put column entry v))
  | .removeEntry key column entry => return .single (← compileEntry t key (.remove column entry))
  | .batch items =>
    if items.isEmpty then throw .emptyBatch
    else return .batch (← compileItems t items)

end Polystore
