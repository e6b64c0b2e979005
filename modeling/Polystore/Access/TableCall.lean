import Polystore.Column.Operation
import Polystore.Filter.Reader
import Polystore.Key.Id
import Polystore.Key.Layout

/-!
# Calls on tables

What a caller can ask of a table by name.  Each call stands for one operation, unless its
arguments are refused: records that lack their key, lists of different lengths, values that no
filter takes.
-/

namespace Polystore

/-- The fields that a read returns; no list, or an empty one, means all of them. -/
abbrev FieldChoice := Option (List String)

/-- A call on a table. -/
inductive TableCall where
  /-- Writes a record, over an earlier one with its key. -/
  | insert (record : Record)
  | upsert (record : Record)
  /-- Writes a record that expires. -/
  | insertFor (record : Record) (seconds : Int)
  /-- Sets all columns of a record but `id` in the row that has its `id`. -/
  | updateRecord (record : Record)
  | updateRow (values : Record) (key : CompositeKey)
  /-- Sets values that expire. -/
  | updateRowFor (values : Record) (key : CompositeKey) (seconds : Int)
  | deleteById (id : String)
  | deleteRow (key : CompositeKey)
  | deleteByIds (ids : List String)
  | readRow (key : RowKey) (fields : FieldChoice)
  | readByIds (ids : List String) (fields : FieldChoice)
  /-- Reads the rows whose column is one of several texts. -/
  | readByColumn (column : String) (values : List String) (fields : FieldChoice)
  /-- Reads a row with remaining times to live. -/
  | readRowTtl (key : RowKey) (ttl : TtlProjection) (fields : FieldChoice)
  | readTtlByIds (ids : List String) (ttl : TtlProjection) (fields : FieldChoice)
  /-- Reads the rows with a value in a column, or with one of the values of a list. -/
  | readByProperty (column : String) (v : Json)
  | readByProperties (f : Filter) (fields : FieldChoice)
  /-- Reads the rows within bounds on clustering columns. -/
  | readRange (f : Filter) (fields : FieldChoice)
  | readByKey (key : CompositeKey) (fields : FieldChoice)
  /-- Reads the rows of a partition, or of several ones. -/
  | readPartition (key : Record)
  /-- Reads some properties, and `id`. -/
  | readProperties (ids properties : List String)
  | readAll (fields : FieldChoice)
  /-- Reads the rows with a list or a map that holds a value. -/
  | readContaining (column : String) (v : Json) (f : Filter)
  | insertMany (records : List Record)
  /-- Writes records, each with its own time to live. -/
  | insertManyFor (records : List Record) (seconds : List Int)
  | updateRows (entries : List (CompositeKey × Record))
  /-- Updates full records, each in the row with its key. -/
  | updateRecords (records : List Record)
  | writeMany (items : List BatchItem)
  | putEntry (key : RowKey) (column entry : String) (v : Json)
  | removeEntry (key : RowKey) (column entry : String)
  /-- A read whose answer is handed over later. -/
  | readLater (f : Filter) (fields : FieldChoice)
  /-- An operation under its own name. -/
  | operation (op : Operation)

namespace TableCall

/-- The name under which a call is reported. -/
def name : TableCall → String
  | insert _ => "insert_record"
  | upsert _ => "upsert_record"
  | insertFor _ _ => "insert_record_with_ttl"
  | updateRecord _ => "update_record"
  | updateRow _ _ => "update_record_by_key"
  | updateRowFor _ _ _ => "update_record_with_ttl"
  | deleteById _ => "delete_record"
  | deleteRow _ => "delete_record_by_key"
  | deleteByIds _ => "delete_records"
  | readRow _ _ => "get_record_by_id"
  | readByIds _ _ => "get_records_by_ids"
  | readByColumn _ _ _ => "get_records_by_primary_keys"
  | readRowTtl _ _ _ => "get_record_with_ttl_by_id"
  | readTtlByIds _ _ _ => "get_records_by_ids_with_ttl"
  | readByProperty _ _ => "get_records_by_property"
  | readByProperties _ _ => "get_records_by_properties"
  | readRange _ _ => "get_records"
  | readByKey _ _ => "get_records_by_composite_key"
  | readPartition _ => "get_records_by_composite_partition_key"
  | readProperties _ _ => "get_properties_value_by_id"
  | readAll _ => "get_all_records"
  | readContaining _ _ _ => "search_value_in_list"
  | insertMany _ => "batch_insert"
  | insertManyFor _ _ => "batch_insert_with_ttl"
  | updateRows _ => "batch_update"
  | updateRecords _ => "batch_update_by_id"
  | writeMany _ => "perform_batch_action"
  | putEntry _ _ _ _ => "update_add_map_record"
  | removeEntry _ _ _ => "update_remove_map_record"
  | readLater _ _ => "apply_operation_on_records_async"
  | operation op => op.name

/-- The rows with one of several ids. -/
def amongIds (ids : List String) : Criteria := .oneOf idColumn (ids.map .str)

/-- A read of some fields. -/
def read (criteria : Criteria) (fields : FieldChoice) : Operation :=
  .select criteria (.ofFields fields [])

/-- The update of a full record in the row with its key. -/
def updateOf (layout : KeyLayout) (record : Record) : Checked BatchItem := do
  let (key, values) ← layout.split record
  pure (.update (.composite key) values)

/-- The updates of full records, unless one of them lacks its key. -/
def updatesOf (layout : KeyLayout) : List Record → Checked (List BatchItem)
  | [] => pure []
  | r :: rs => do
    let item ← updateOf layout r
    let items ← updatesOf layout rs
    pure (item :: items)

/-- The operation that a call on a table with this layout stands for. -/
def toOperation (layout : KeyLayout) : TableCall → Checked Operation
  | insert record | upsert record => pure (.insert record 0)
  | insertFor record seconds => pure (.insert record seconds)
  | updateRecord record => do
    let (key, values) ← splitId record
    pure (.update key values 0)
  | updateRow values key => pure (.update (.composite key) values 0)
  | updateRowFor values key seconds => pure (.update (.composite key) values seconds)
  | deleteById id => pure (.delete (.key (.id id)))
  | deleteRow key => pure (.delete (.key (.composite key)))
  | deleteByIds ids => pure (.delete (amongIds ids))
  | readRow key fields => pure (read (.key key) fields)
  | readByIds ids fields => pure (read (amongIds ids) fields)
  | readByColumn column values fields => pure (read (.oneOf column (values.map .str)) fields)
  | readRowTtl key ttl fields => pure (.select (.key key) (.ofFields fields ttl))
  | readTtlByIds ids ttl fields => pure (.select (amongIds ids) (.ofFields fields ttl))
  | readByProperty column v => do
    let c ← Criterion.ofJson column v
    let f ← Filter.empty.pushed column c
    pure (read (.properties f) none)
  | readByProperties f fields | readLater f fields => pure (read (.properties f) fields)
  | readRange f fields => pure (read (.keyRange f) fields)
  | readByKey key fields => pure (read (.key (.composite key)) fields)
  | readPartition key => do
    if key.isEmpty then throw .emptyCompositeKey
    let f ← Filter.ofRecord key
    pure (read (.properties f) none)
  | readProperties ids properties =>
    if properties.isEmpty then throw (.emptyList .properties)
    else pure (read (amongIds ids) (some (idColumn :: properties.filter fun p => p != idColumn)))
  | readAll fields => pure (read .all fields)
  | readContaining column v f => pure (read (.contains column v f) none)
  | insertMany records => pure (.batch (records.map fun r => .insert r 0))
  | insertManyFor records seconds =>
    if records.isEmpty then throw .emptyBatch
    else if records.length ≠ seconds.length then
      throw (.batchSizeMismatch records.length seconds.length)
    else pure (.batch ((records.zip seconds).map fun p => .insert p.1 p.2))
  | updateRows entries => pure (.batch (entries.map fun p => .update (.composite p.1) p.2))
  | updateRecords records => return .batch (← updatesOf layout records)
  | writeMany items => pure (.batch items)
  | putEntry key column entry v => pure (.putEntry key column entry v)
  | removeEntry key column entry => pure (.removeEntry key column entry)
  | operation op => pure op

end TableCall

end Polystore
