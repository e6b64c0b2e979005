import Polystore.Column.Statement

/-!
# Text of statements

A statement as text with a marker for each bound value, and the bound values in the order of their
markers.  Both are made in one pass: writing a marker binds its value.  The values never enter the
text.

There are two dialects: the plain one, and one in which values are bound as JSON text and rows are
selected as JSON.  Both bind the same values.
-/

namespace Polystore

/-- How markers and selections are written. -/
inductive Dialect where
  | plain
  | json
  deriving DecidableEq, Repr

namespace Dialect

/-- The marker of a bound value. -/
def marker : Dialect → String
  | plain => "?"
  | json => "fromJson(?)"

/-- The first words of a selection. -/
def select : Dialect → String
  | plain => "SELECT"
  | json => "SELECT JSON"

end Dialect

/-- The name of a table with its keyspace. -/
def TableName.text (t : TableName) : String := t.keyspace ++ "." ++ t.table

/-! ## Rendering -/

/-- A statement as it is sent: its text, and the bound values in the order of their markers. -/
structure Rendered where
  text : String
  values : List Json

/-- Writing text, with the values that were bound so far. -/
abbrev Writing := StateM (List Json)

/-- Binds a value and gives its marker. -/
def Dialect.bind (d : Dialect) (v : Json) : Writing String := fun values =>
  (d.marker, values ++ [v])

/-- Writes an assignment.  An added entry is bound as a map, the key of a removed one as a list. -/
def Assignment.write (d : Dialect) : Assignment → Writing String
  | set column v => return column ++ " = " ++ (← d.bind v)
  | put column key v => return column ++ " = " ++ column ++ " + " ++ (← d.bind (.obj [(key, v)]))
  | remove column key => return column ++ " = " ++ column ++ " - " ++ (← d.bind (.arr [.str key]))

/-- Writes a condition. -/
def Condition.write (d : Dialect) (c : Condition) : Writing String :=
  match c.relation with
  | .equals v => return c.column ++ " = " ++ (← d.bind v)
  | .oneOf vs => return c.column ++ " IN (" ++ Text.join ", " (← vs.mapM d.bind) ++ ")"
  | .bound b v => return c.column ++ " " ++ b.symbol ++ " " ++ (← d.bind v)
  | .contains v => return c.column ++ " CONTAINS " ++ (← d.bind v)

/-- Writes all conditions, nothing if there are none. -/
def writeWhere (d : Dialect) (cs : List Condition) : Writing String :=
  if cs.isEmpty then pure ""
  else return " WHERE " ++ Text.join " AND " (← cs.mapM (Condition.write d))

/-- The text of a time to live. -/
def ttlText : Option Int → String
  | some seconds => " USING TTL " ++ toString seconds
  | none => ""

namespace Selection

/-- What is selected: the columns, or all of them if no remaining time is asked for either, and
then the remaining times. -/
def terms (s : Selection) : List String :=
  (match s.columns with
    | some columns => columns
    | none => if s.ttl.isEmpty then ["*"] else []) ++
  s.ttl.map fun p => "TTL(" ++ p.1 ++ ") AS " ++ p.2

end Selection

namespace Statement

/-- Writes a statement. -/
def write (d : Dialect) (s : Statement) : Writing String :=
  match s.action with
  | .insert columns ttl => do
    let markers ← columns.mapM fun p => d.bind p.2
    return "INSERT INTO " ++ s.target.text ++ " (" ++ Text.join ", " (columns.map Prod.fst) ++
      ") VALUES (" ++ Text.join ", " markers ++ ")" ++ ttlText ttl
  | .update assignments conditions ttl => do
    let sets ← assignments.mapM (Assignment.write d)
    let rest ← writeWhere d conditions
    return "UPDATE " ++ s.target.text ++ ttlText ttl ++ " SET " ++ Text.join ", " sets ++ rest
  | .delete conditions => return "DELETE FROM " ++ s.target.text ++ (← writeWhere d conditions)
  | .select selection conditions =>
    return d.select ++ " " ++ Text.join ", " selection.terms ++ " FROM " ++ s.target.text ++
      (← writeWhere d conditions)

/-- The statement in a dialect. -/
def render (d : Dialect) (s : Statement) : Rendered :=
  let (text, values) := s.write d []
  ⟨text, values⟩

/-- The text of a statement. -/
def text (d : Dialect) (s : Statement) : String := (s.render d).text

/-- The bound values in the order of their markers. -/
def binds (s : Statement) : List Json := (s.render .plain).values

end Statement

namespace Plan

/-- The plain text of a plan; a batch is written with its frame. -/
def text : Plan → String
  | single s => s.text .plain
  | batch ss =>
    "BEGIN BATCH " ++ Text.join "" (ss.map fun s => s.text .plain ++ "; ") ++ "APPLY BATCH"

end Plan

end Polystore
