import Polystore.Filter.Basic
import Polystore.Identifier

/-!
# Keys of rows

A row is addressed by its `id`, or by a composite key: columns with the values they have to equal,
in the order in which they are written.
-/

namespace Polystore

/-- The column of the single-column key. -/
def idColumn : String := "id"

/-- Columns and values of a key, in order. -/
structure CompositeKey where
  columns : List (String × Json)

namespace CompositeKey

/-- A key without columns. -/
def empty : CompositeKey := ⟨[]⟩

/-- Adds a column; an earlier value of the column is replaced in its place. -/
def set (k : CompositeKey) (column : String) (v : Json) : CompositeKey :=
  ⟨Assoc.put column v k.columns⟩

/-- The value of a column. -/
def get? (k : CompositeKey) (column : String) : Option Json := Assoc.find? column k.columns

/-- Does the column belong to the key? -/
def contains (k : CompositeKey) (column : String) : Bool := (k.get? column).isSome

/-- Refuses a column without a name or with a value that cannot be bound, for the first such
column. -/
def checkColumns : List (String × Json) → Checked Unit
  | [] => pure ()
  | (column, v) :: rest => do
    requireText .keyColumnName column
    if v.isScalar then checkColumns rest else throw (.invalidKeyValue column)

/-- Refuses an empty key and a key with a faulty column. -/
def check (k : CompositeKey) : Checked Unit :=
  if k.columns.isEmpty then throw .emptyCompositeKey else checkColumns k.columns

/-- The key of all fields of a record. -/
def ofRecord (r : Record) : Checked CompositeKey := do
  check ⟨r⟩
  pure ⟨r⟩

/-- The filter that asks for equality with the key, column by column. -/
def filter (k : CompositeKey) : Filter :=
  k.columns.foldl (fun f p => f.set p.1 (.scalar p.2)) .empty

/-- The written form. -/
def toJson (k : CompositeKey) : Json :=
  .obj [("columns", .arr (k.columns.map fun p => .arr [.str p.1, p.2]))]

end CompositeKey

/-- The key of a row. -/
inductive RowKey where
  | id (value : String)
  | composite (key : CompositeKey)

namespace RowKey

/-- Refuses a blank id and a faulty composite key. -/
def check : RowKey → Checked Unit
  | id value => requireText .recordId value
  | composite key => key.check

/-- The columns with the values they have to equal. -/
def equalities : RowKey → List (String × Json)
  | id value => [(idColumn, .str value)]
  | composite key => key.columns

/-- Does the column belong to the key? -/
def binds : RowKey → String → Bool
  | id _, column => column == idColumn
  | composite key, column => key.contains column

/-- The written form: a text for an id, an object with the columns otherwise. -/
def toJson : RowKey → Json
  | id value => .str value
  | composite key => key.toJson

/-- A pair of a column and a value. -/
def pairOfJson? : Json → Option (String × Json)
  | .arr [.str column, v] => some (column, v)
  | _ => none

/-- Reads the written form. -/
def ofJson? : Json → Option RowKey
  | .str s => some (.id s)
  | .obj fields =>
    match Assoc.find? "columns" fields with
    | some (.arr pairs) => (pairs.mapM pairOfJson?).map fun columns => .composite ⟨columns⟩
    | _ => none
  | _ => none

end RowKey

end Polystore
