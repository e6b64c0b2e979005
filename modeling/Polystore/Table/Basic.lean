import Polystore.Failure
import Polystore.Table.Row
import Polystore.Work

/-!
# Tables

What the statements of the column store do to one table.  Insertions and updates both create the
row if there is none with their key.  A statement works on the table in place.
-/

namespace Polystore

/-- Why the column store refuses a statement. -/
inductive StoreFault where
  | undefinedColumn (name : String)
  | missingKeyPart (name : String)
  | keyAssigned (name : String)
  | nonKeyCondition (name : String)
  | noCondition
  | readInBatch
  deriving DecidableEq, Repr

/-- The fault as the backend reports it. -/
def StoreFault.failure : StoreFault → NativeFailure
  | undefinedColumn name => .refused ("Undefined column name " ++ name)
  | missingKeyPart name => .refused ("Some primary key parts are missing: " ++ name)
  | keyAssigned name => .refused ("PRIMARY KEY part " ++ name ++ " found in SET part")
  | nonKeyCondition name =>
    .refused ("Non PRIMARY KEY columns found in where clause: " ++ name)
  | noCondition => .refused "DELETE requires a WHERE clause"
  | readInBatch =>
    .refused "Only INSERT, UPDATE and DELETE statements are allowed in a batch"

/-- The rows of a read: column names in order, and the values by column. -/
structure RowSet where
  columns : List String
  rows : List Record

/-- What a write returns. -/
def RowSet.none : RowSet := ⟨[], []⟩

/-- A table: its key, its columns if they are declared, the clock of its deadlines, every column
known so far, and its rows in the order of their first write. -/
structure Table where
  layout : KeyLayout
  declared : Option (List String)
  clock : Clock
  columns : List String
  rows : List Row

namespace Table

/-- A table without rows. -/
def fresh (layout : KeyLayout) (declared : Option (List String)) (clock : Clock) : Table :=
  ⟨layout, declared, clock, declared.getD layout.names, []⟩

/-! ## Checks -/

/-- Refuses a column that is not declared, if columns are declared. -/
def checkColumn (t : Table) (column : String) : Except StoreFault Unit :=
  match t.declared with
  | some declared =>
    if declared.contains column then pure () else throw (.undefinedColumn column)
  | Option.none => pure ()

/-- Checks columns in order. -/
def checkColumns (t : Table) : List String → Except StoreFault Unit
  | [] => pure ()
  | c :: cs => do
    t.checkColumn c
    checkColumns t cs

/-- The values of the key columns, refusing the first one that is missing. -/
def fullKey (lookup : String → Option Json) : List String → Except StoreFault (List Json)
  | [] => pure []
  | name :: names =>
    match lookup name with
    | some v => do
      let vs ← fullKey lookup names
      pure (v :: vs)
    | Option.none => throw (.missingKeyPart name)

/-- Refuses a condition on an undeclared column or on one outside the key. -/
def checkKeyConditions (t : Table) : List Condition → Except StoreFault Unit
  | [] => pure ()
  | c :: cs => do
    t.checkColumn c.column
    if t.layout.isKey c.column then checkKeyConditions t cs
    else throw (.nonKeyCondition c.column)

/-- Refuses an assignment to an undeclared column or to one of the key. -/
def checkAssignments (t : Table) : List Assignment → Except StoreFault Unit
  | [] => pure ()
  | a :: as => do
    t.checkColumn a.column
    if t.layout.isKey a.column then throw (.keyAssigned a.column)
    else checkAssignments t as

/-- The value that the first equality on a column asks for. -/
def equalityOn? (column : String) : List Condition → Option Json
  | [] => Option.none
  | c :: cs =>
    match c.relation with
    | .equals v => if c.column = column then some v else equalityOn? column cs
    | _ => equalityOn? column cs

/-! ## Writes -/

/-- Adds a column at the end unless it is known. -/
def noteColumn (columns : List String) (column : String) : List String :=
  if columns.contains column then columns else columns ++ [column]

/-- Adds columns in order. -/
def noteColumns (columns new : List String) : List String := new.foldl noteColumn columns

/-- Changes the row with a key, which is created at the end if there is none. -/
def changeRow (key : List Json) (f : Row → Row) : List Row → List Row
  | [] => [f (.fresh key)]
  | r :: rs => if Json.sameItems r.key key then f r :: rs else r :: changeRow key f rs

/-- What an insertion writes into its row: key columns never run out, null removes a cell. -/
def insertCells (l : KeyLayout) (d : Deadline) (r : Row) (columns : List (String × Json)) : Row :=
  columns.foldl
    (fun r p =>
      if l.isKey p.1 then r.write p.1 ⟨p.2, .never⟩ else r.store p.1 p.2 d) r

/-- Inserts a record. -/
def insert (columns : List (String × Json)) (ttl : Option Int) (now : Nat) :
    Work StoreFault Table Unit := do
  Work.check fun t => t.checkColumns (columns.map Prod.fst)
  let key ← Work.check fun t => fullKey (fun name => Assoc.find? name columns) t.layout.names
  Work.write fun t => { t with columns := noteColumns t.columns (columns.map Prod.fst) }
  Work.write fun t =>
    let d := Deadline.after t.clock now ttl
    { t with
      rows := changeRow key (fun r => insertCells t.layout d { r with inserted := some d } columns)
        t.rows }

/-- What an update writes into its row: the key columns, then its assignments in order. -/
def updateCells (l : KeyLayout) (key : List Json) (now : Nat) (d : Deadline) (r : Row)
    (assignments : List Assignment) : Row :=
  let keyed := (l.names.zip key).foldl (fun r p => r.write p.1 ⟨p.2, .never⟩) r
  assignments.foldl (Row.assign now d) keyed

/-- Updates the row that equality on every key column addresses. -/
def update (assignments : List Assignment) (conditions : List Condition) (ttl : Option Int)
    (now : Nat) : Work StoreFault Table Unit := do
  Work.check fun t => t.checkAssignments assignments
  Work.check fun t => t.checkKeyConditions conditions
  let key ← Work.check fun t => fullKey (fun name => equalityOn? name conditions) t.layout.names
  Work.write fun t => { t with
    columns := noteColumns t.columns (assignments.map Assignment.column) }
  Work.write fun t => { t with
    rows := changeRow key
      (fun r => updateCells t.layout key now (.after t.clock now ttl) r assignments) t.rows }

/-- Deletes the rows that satisfy all conditions, of which there has to be one. -/
def delete (conditions : List Condition) (now : Nat) : Work StoreFault Table Unit := do
  Work.check fun _ => if conditions.isEmpty then throw .noCondition else pure ()
  Work.check fun t => t.checkKeyConditions conditions
  Work.write fun t => { t with
    rows := t.rows.filter fun r => !conditions.all fun c => c.holds r now }

/-! ## Reads -/

/-- The visible rows that satisfy all conditions, in store order. -/
def matching (t : Table) (conditions : List Condition) (now : Nat) : List Row :=
  t.rows.filter fun r => r.isVisible t.layout now && conditions.all fun c => c.holds r now

/-- The columns that a selection reads: all known ones if it names none and asks for no remaining
time. -/
def selected (t : Table) (s : Selection) : List String :=
  match s.columns with
  | some columns => columns
  | Option.none => if s.ttl.isEmpty then t.columns else []

/-- A row as it is returned: the live values of the columns, then the remaining seconds under
their aliases; what is not live is null. -/
def project (columns : List String) (ttl : List (String × String)) (r : Row) (now : Nat) :
    Record :=
  Assoc.ofList
    (columns.map (fun c => (c, (r.value? c now).getD .null)) ++
      ttl.map fun p =>
        (p.2, match r.cell? p.1 now with
          | some c => c.deadline.remaining now
          | Option.none => .null))

/-- Reads rows. -/
def select (t : Table) (s : Selection) (conditions : List Condition) (now : Nat) :
    Except StoreFault RowSet := do
  t.checkColumns (conditions.map Condition.column)
  let columns := t.selected s
  t.checkColumns columns
  t.checkColumns (s.ttl.map Prod.fst)
  pure ⟨columns ++ s.ttl.map Prod.snd,
    (t.matching conditions now).map fun r => project columns s.ttl r now⟩

/-- Carries out an action. -/
def perform (a : Action) (now : Nat) : Work StoreFault Table RowSet :=
  match a with
  | .insert columns ttl => do
    insert columns ttl now
    pure .none
  | .update assignments conditions ttl => do
    update assignments conditions ttl now
    pure .none
  | .delete conditions => do
    delete conditions now
    pure .none
  | .select s conditions => Work.check fun t => t.select s conditions now

/-- What an action returns, and the table after it. -/
def run (t : Table) (a : Action) (now : Nat) : Except StoreFault RowSet × Table :=
  (perform a now).run t

/-- The number of visible rows. -/
def visibleCount (t : Table) (now : Nat) : Nat :=
  (t.rows.filter fun r => r.isVisible t.layout now).length

end Table

end Polystore
