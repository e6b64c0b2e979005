import Polystore.Table.Basic

/-!
# The column store

Tables by name.  A table comes into being, without rows, when a statement first names it, even if
the statement is refused.  A batch applies in full or changes nothing.
-/

namespace Polystore

/-- A column store: the declared keys and columns, its clock, and the tables named so far. -/
structure Store where
  registry : Registry
  declared : List (TableName × List String)
  clock : Clock
  tables : List (TableName × Table)

namespace Store

/-- A store without tables. -/
def empty (registry : Registry) (clock : Clock) : Store := ⟨registry, [], clock, []⟩

/-- Declares the columns of a table, in place of an earlier declaration. -/
def declare (s : Store) (name : TableName) (columns : List String) : Store :=
  { s with declared := Assoc.put name columns s.declared }

/-- The table with a name, which is fresh if it was not named before. -/
def table (s : Store) (name : TableName) : Table :=
  (Assoc.find? name s.tables).getD
    (.fresh (s.registry.get name) (Assoc.find? name s.declared) s.clock)

/-- Puts a table in its place. -/
def withTable (s : Store) (name : TableName) (t : Table) : Store :=
  { s with tables := Assoc.put name t s.tables }

/-- Executes one statement. -/
def execute (s : Store) (st : Statement) (now : Nat) : Except StoreFault RowSet × Store :=
  let (result, t) := (s.table st.target).run st.action now
  (result, s.withTable st.target t)

/-- Executes statements in order up to the first one that is refused. -/
def stage (s : Store) (now : Nat) : List Statement → Except StoreFault Unit × Store
  | [] => (.ok (), s)
  | st :: sts =>
    if st.isRead then (.error .readInBatch, s)
    else
      match s.execute st now with
      | (.ok _, s') => stage s' now sts
      | (.error fault, s') => (.error fault, s')

/-- Executes statements as one: the staged store takes the place of the store only if none of them
is refused. -/
def executeBatch (s : Store) (sts : List Statement) (now : Nat) : Except StoreFault Unit × Store :=
  match s.stage now sts with
  | (.ok (), s') => (.ok (), s')
  | (.error fault, _) => (.error fault, s)

/-- The number of visible rows of a table. -/
def rowCount (s : Store) (name : TableName) (now : Nat) : Nat :=
  match Assoc.find? name s.tables with
  | some t => t.visibleCount now
  | none => 0

end Store

end Polystore
