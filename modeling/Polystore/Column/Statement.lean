import Polystore.Filter.Basic
import Polystore.Identifier

/-!
# Statements

What the column store executes: one write or read of one table.  Statements keep their structure;
their text is a matter of `Column/Text`.
-/

namespace Polystore

/-- What an update does to one column. -/
inductive Assignment where
  /-- Sets the column. -/
  | set (column : String) (v : Json)
  /-- Adds an entry to a map. -/
  | put (column key : String) (v : Json)
  /-- Removes an entry from a map. -/
  | remove (column key : String)

/-- The column that the assignment writes. -/
def Assignment.column : Assignment → String
  | set column _ => column
  | put column _ _ => column
  | remove column _ => column

/-- What the value of a column has to satisfy. -/
inductive Relation where
  | equals (v : Json)
  | oneOf (vs : List Json)
  | bound (b : Bound) (v : Json)
  | contains (v : Json)

/-- A condition on one column. -/
structure Condition where
  column : String
  relation : Relation

/-- What a read returns: some columns or all of them, and remaining times to live under
aliases. -/
structure Selection where
  columns : Option (List String)
  ttl : List (String × String)

/-- What a statement does. -/
inductive Action where
  | insert (columns : List (String × Json)) (ttl : Option Int)
  | update (assignments : List Assignment) (conditions : List Condition) (ttl : Option Int)
  | delete (conditions : List Condition)
  | select (selection : Selection) (conditions : List Condition)

/-- A statement against one table. -/
structure Statement where
  target : TableName
  action : Action

/-- Does the statement read? -/
def Statement.isRead (s : Statement) : Bool :=
  match s.action with
  | .select _ _ => true
  | _ => false

/-- A unit of execution: one statement, or several that are applied together. -/
inductive Plan where
  | single (s : Statement)
  | batch (ss : List Statement)

/-- The statements in order. -/
def Plan.statements : Plan → List Statement
  | single s => [s]
  | batch ss => ss

end Polystore
