import Polystore.Column.Statement
import Polystore.Key.Layout

/-!
# Rows

A row holds a cell for each column that was written, each with its own deadline.  A row is visible
while it was inserted and that insertion has not run out, or while a column outside its key has a
live cell.

Instants are nanoseconds of a clock.
-/

namespace Polystore

/-! ## Deadlines -/

/-- A clock, which can show the instants up to a last one. -/
structure Clock where
  latest : Nat
  deriving DecidableEq, Repr

/-- A second in nanoseconds. -/
def Clock.second : Nat := 1000000000

/-- When something ends. -/
inductive Deadline where
  | never
  | moment (t : Nat)
  deriving DecidableEq, Repr

namespace Deadline

/-- The deadline of something written with a time to live.  One that the clock cannot show never
comes; a negative time to live ends at once. -/
def after (clock : Clock) (now : Nat) : Option Int → Deadline
  | none => never
  | some seconds =>
    if now + seconds.toNat * Clock.second ≤ clock.latest then
      moment (now + seconds.toNat * Clock.second)
    else never

/-- Has the deadline not come yet? -/
def isOpen (d : Deadline) (now : Nat) : Bool :=
  match d with
  | never => true
  | moment t => now < t

/-- The seconds that are left; one that has begun counts. -/
def remaining (d : Deadline) (now : Nat) : Json :=
  match d with
  | never => .null
  | moment t =>
    let left := t - now
    .ofNat (left / Clock.second + if 0 < left % Clock.second then 1 else 0)

end Deadline

/-! ## Cells and rows -/

/-- A value with the deadline it was written with. -/
structure Cell where
  value : Json
  deadline : Deadline

/-- Is the cell live? -/
def Cell.isLive (c : Cell) (now : Nat) : Bool := c.deadline.isOpen now

/-- A row: the values of its key, its cells by column, and the deadline of its last insertion, if
it was ever inserted. -/
structure Row where
  key : List Json
  cells : List (String × Cell)
  inserted : Option Deadline

namespace Row

/-- A row without cells. -/
def fresh (key : List Json) : Row := ⟨key, [], none⟩

/-- The live cell of a column. -/
def cell? (r : Row) (column : String) (now : Nat) : Option Cell :=
  (Assoc.find? column r.cells).filter fun c => c.isLive now

/-- The live value of a column. -/
def value? (r : Row) (column : String) (now : Nat) : Option Json :=
  (r.cell? column now).map Cell.value

/-- Is the row visible? -/
def isVisible (l : KeyLayout) (r : Row) (now : Nat) : Bool :=
  (r.inserted.any fun d => d.isOpen now) ||
    r.cells.any fun p => !l.isKey p.1 && p.2.isLive now

/-- Writes a cell. -/
def write (r : Row) (column : String) (c : Cell) : Row :=
  { r with cells := Assoc.put column c r.cells }

/-- Removes a cell. -/
def clear (r : Row) (column : String) : Row := { r with cells := Assoc.erase column r.cells }

/-- Writes a value that may be null; null removes the cell. -/
def store (r : Row) (column : String) (v : Json) (d : Deadline) : Row :=
  if v.isNull then r.clear column else r.write column ⟨v, d⟩

/-- The live map of a column, or an empty one. -/
def map (r : Row) (column : String) (now : Nat) : Record :=
  match r.value? column now with
  | some (.obj fields) => fields
  | _ => []

/-- Carries out an assignment; `d` is the deadline of what it sets or adds.  An entry is added to
the live map of the column, or to an empty one; removing an entry needs a live map and keeps its
deadline. -/
def assign (now : Nat) (d : Deadline) (r : Row) : Assignment → Row
  | .set column v => r.store column v d
  | .put column key v => r.write column ⟨.obj (Assoc.put key v (r.map column now)), d⟩
  | .remove column key =>
    match r.cell? column now with
    | some ⟨.obj fields, deadline⟩ => r.write column ⟨.obj (Assoc.erase key fields), deadline⟩
    | _ => r

end Row

/-! ## Conditions -/

namespace Relation

/-- Does a value satisfy the relation? -/
def holds (v : Json) : Relation → Bool
  | equals w => v.same w
  | oneOf ws => v.isAmong ws
  | bound b w =>
    match v.compare? w with
    | some o => b.admits o
    | none => false
  | contains w =>
    match v with
    | .arr items => w.isAmong items
    | .obj fields => w.isAmong (fields.map Prod.snd)
    | _ => false

end Relation

/-- Does the live value of the condition's column satisfy it?  A column without a live value
satisfies no condition. -/
def Condition.holds (c : Condition) (r : Row) (now : Nat) : Bool :=
  match r.value? c.column now with
  | some v => c.relation.holds v
  | none => false

end Polystore
