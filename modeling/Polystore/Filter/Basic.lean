import Polystore.Json.Basic
import Polystore.Rejection
import Polystore.Text.Basic
import Polystore.Work

/-!
# Filters

A filter is a conjunction of entries, each a field with what its value must satisfy, and one group
of entries of which any has to hold.  A field with a dot addresses a path inside a nested object.

Inside each of the two lists a field occurs at most once: `push` and `pushAny` refuse a blank or
repeated field and change nothing then, and `set` replaces the value of a field that is already
there.
-/

namespace Polystore

/-! ## Operators -/

/-- A bound of a range. -/
inductive Bound where
  | above
  | atLeast
  | below
  | atMost
  deriving DecidableEq, Repr

namespace Bound

/-- The sign of the bound. -/
def symbol : Bound → String
  | above => ">"
  | atLeast => ">="
  | below => "<"
  | atMost => "<="

/-- The bound with a sign. -/
def ofSymbol? : String → Option Bound
  | ">" => some above
  | ">=" => some atLeast
  | "<" => some below
  | "<=" => some atMost
  | _ => none

/-- The key of the bound in a range clause. -/
def key : Bound → String
  | above => "gt"
  | atLeast => "gte"
  | below => "lt"
  | atMost => "lte"

/-- The bound with a key. -/
def ofKey? : String → Option Bound
  | "gt" => some above
  | "gte" => some atLeast
  | "lt" => some below
  | "lte" => some atMost
  | _ => none

/-- Does it bound the range from below? -/
def isLower : Bound → Bool
  | above | atLeast => true
  | below | atMost => false

/-- Lower bounds come first, open ones before closed ones. -/
def rank : Bound → Nat
  | above => 0
  | atLeast => 1
  | below => 2
  | atMost => 3

/-- Does the order of a value against the bound satisfy it? -/
def admits : Bound → Ordering → Bool
  | above, o => o == .gt
  | atLeast, o => o != .lt
  | below, o => o == .lt
  | atMost, o => o != .gt

end Bound

/-- A test on one end of a text. -/
inductive Affix where
  | startsWith
  | endsWith
  deriving DecidableEq, Repr

namespace Affix

/-- The name of the test. -/
def name : Affix → String
  | startsWith => "startsWith"
  | endsWith => "endsWith"

/-- The test with a name. -/
def ofName? : String → Option Affix
  | "startsWith" => some startsWith
  | "endsWith" => some endsWith
  | _ => none

end Affix

/-- The operators on one field: range bounds, lower ones first, and tests on the text. -/
structure Operators where
  bounds : List (Bound × Json)
  affixes : List (Affix × String)

namespace Operators

/-- No operator. -/
def empty : Operators := ⟨[], []⟩

/-- Places a bound after those of no higher rank. -/
def placeBound (b : Bound) (v : Json) : List (Bound × Json) → List (Bound × Json)
  | [] => [(b, v)]
  | (b', v') :: l =>
    if b.rank < b'.rank then (b, v) :: (b', v') :: l else (b', v') :: placeBound b v l

/-- Adds a bound. -/
def bound (ops : Operators) (b : Bound) (v : Json) : Operators :=
  { ops with bounds := placeBound b v ops.bounds }

/-- Adds a test on the text. -/
def affix (ops : Operators) (a : Affix) (text : String) : Operators :=
  { ops with affixes := ops.affixes ++ [(a, text)] }

/-- The first pair of bounds on one side. -/
def boundConflict? : List (Bound × Json) → Option (Bound × Bound)
  | [] => none
  | (b, _) :: l =>
    match l.find? fun p => p.1.isLower == b.isLower with
    | some p => some (b, p.1)
    | none => boundConflict? l

/-- The first test that is repeated. -/
def affixConflict? : List (Affix × String) → Option Affix
  | [] => none
  | (a, _) :: l => if l.any fun p => p.1 == a then some a else affixConflict? l

/-- Refuses an empty set of operators, two bounds on one side, and a repeated test. -/
def check (field : String) (ops : Operators) : Checked Unit :=
  if ops.bounds.isEmpty && ops.affixes.isEmpty then
    throw (.invalidFilter field .emptyOperators)
  else
    match boundConflict? ops.bounds, affixConflict? ops.affixes with
    | some (b, b'), _ => throw (.conflictingOperators field b.symbol b'.symbol)
    | none, some a => throw (.conflictingOperators field a.name a.name)
    | none, none => pure ()

end Operators

/-! ## Entries -/

/-- What the value of a field must satisfy: equal a scalar, be one of several, or satisfy
operators. -/
inductive Criterion where
  | scalar (v : Json)
  | list (vs : List Json)
  | operators (ops : Operators)

/-- The name of the shape. -/
def Criterion.shape : Criterion → String
  | scalar _ => "scalar"
  | list _ => "list"
  | operators _ => "operators"

/-- A filter. -/
structure Filter where
  entries : List (String × Criterion)
  anyOf : List (String × Criterion)

namespace Filter

/-- The filter that holds of everything. -/
def empty : Filter := ⟨[], []⟩

/-- Has the filter neither entries nor a group? -/
def isEmpty (f : Filter) : Bool := f.entries.isEmpty && f.anyOf.isEmpty

/-- The key of the group of alternatives. -/
def groupKey : String := "$or"

/-- Refuses a field that is blank or in the list already. -/
def checkField (l : List (String × Criterion)) (field : String) : Checked Unit :=
  if Text.isBlank field then throw (.blankIdentifier .filterField)
  else if Assoc.has field l then throw (.duplicateField field)
  else pure ()

/-- Adds an entry that has to hold. -/
def push (field : String) (c : Criterion) : Work Rejection Filter Unit := do
  Work.check fun f => checkField f.entries field
  Work.write fun f => { f with entries := f.entries ++ [(field, c)] }

/-- Adds an entry to the group of alternatives. -/
def pushAny (field : String) (c : Criterion) : Work Rejection Filter Unit := do
  Work.check fun f => checkField f.anyOf field
  Work.write fun f => { f with anyOf := f.anyOf ++ [(field, c)] }

/-- The filter with an entry more that has to hold. -/
def pushed (f : Filter) (field : String) (c : Criterion) : Checked Filter := (push field c).result f

/-- The filter with an alternative more. -/
def pushedAny (f : Filter) (field : String) (c : Criterion) : Checked Filter :=
  (pushAny field c).result f

/-- Sets an entry that has to hold; an earlier value of the field is replaced in its place. -/
def set (f : Filter) (field : String) (c : Criterion) : Filter :=
  { f with entries := Assoc.put field c f.entries }

end Filter

/-- The path of the nested object that a dotted field lies in: what stands before its first dot. -/
def nestedPath? (field : String) : Option String := Text.before? '.' field

end Polystore
