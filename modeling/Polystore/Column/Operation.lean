import Polystore.Expiry
import Polystore.Key.Composite

/-!
# Operations on tables

What a caller asks of a table, before it is checked and turned into statements.
-/

namespace Polystore

/-- The rows that a read or a delete addresses. -/
inductive Criteria where
  /-- Every row. -/
  | all
  /-- The row with a key. -/
  | key (k : RowKey)
  /-- The rows whose column is one of several values. -/
  | oneOf (column : String) (values : List Json)
  /-- The rows that satisfy a filter without operators. -/
  | properties (f : Filter)
  /-- The rows that satisfy a filter that may have range bounds. -/
  | keyRange (f : Filter)
  /-- The rows whose list or map holds a value, and which satisfy a filter without operators. -/
  | contains (column : String) (v : Json) (f : Filter)

/-- What a read returns: some fields or all of them, and remaining times to live. -/
structure Projection where
  fields : Option (List String)
  ttl : TtlProjection

namespace Projection

/-- Every column. -/
def all : Projection := ⟨none, []⟩

/-- The given fields; no fields mean every column. -/
def ofFields (fields : Option (List String)) (ttl : TtlProjection) : Projection :=
  ⟨fields.filter fun fs => !fs.isEmpty, ttl⟩

end Projection

/-- One write of a batch. -/
inductive BatchItem where
  | insert (record : Record) (ttl : Int)
  | update (key : RowKey) (values : Record)

/-- An operation on one table.  A time to live is in seconds; zero and less mean none. -/
inductive Operation where
  | insert (record : Record) (ttl : Int)
  | update (key : RowKey) (values : Record) (ttl : Int)
  | delete (criteria : Criteria)
  | select (criteria : Criteria) (projection : Projection)
  | putEntry (key : RowKey) (column entry : String) (v : Json)
  | removeEntry (key : RowKey) (column entry : String)
  | batch (items : List BatchItem)

/-- The name under which an operation is reported. -/
def Operation.name : Operation → String
  | insert _ _ => "insert_record"
  | update _ _ _ => "update_record"
  | delete _ => "delete_record"
  | select _ _ => "get_records"
  | putEntry _ _ _ _ => "update_add_map_record"
  | removeEntry _ _ _ => "update_remove_map_record"
  | batch _ => "perform_batch_action"

end Polystore
