import Polystore.Response.Basic
import Polystore.Table.Basic

/-!
# Responses of tables

Callers use logical names for columns, tables have physical ones.  Rows are renamed on their way
out.  The value of a column moves into the record, so a column that is listed twice has a value
only once and is null the second time.
-/

namespace Polystore

/-- Pairs of a logical and a physical name. -/
abbrev ColumnMapping := List (String × String)

/-- The logical name of a physical column, which is the physical name if there is no other. -/
def ColumnMapping.logical (m : List (String × String)) (physical : String) : String :=
  ((m.find? fun p => p.2 == physical).map Prod.fst).getD physical

/-- The values of columns, taken out of a row one after the other. -/
def takeColumns (row : Record) : List String → List Json
  | [] => []
  | column :: columns =>
    (Assoc.find? column row).getD .null :: takeColumns (Assoc.erase column row) columns

/-- The record of a row, under logical names in the order of the columns. -/
def recordOfRow (m : ColumnMapping) (columns : List String) (row : Record) : Record :=
  Assoc.ofList ((columns.map (ColumnMapping.logical m)).zip (takeColumns row columns))

/-- The response that holds all rows of a result. -/
def Response.ofRows (m : ColumnMapping) (rows : RowSet) : Response :=
  .ofRecords (rows.rows.map (recordOfRow m rows.columns))

end Polystore
