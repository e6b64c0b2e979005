import Polystore.Key.Composite
import Polystore.Json.Printer

/-!
# Ids of records

A record carries its id in the column `id`, as a text or as a number, which counts as its decimal
text.
-/

namespace Polystore

/-- The id of a record. -/
def recordId? (r : Record) : Option String :=
  match Assoc.find? idColumn r with
  | some (.str s) => some s
  | some (.num n) => some n.text
  | _ => none

/-- Separates a record into its id and its other columns. -/
def splitId (r : Record) : Checked (RowKey × Record) := do
  match recordId? r with
  | some s =>
    requireText .recordId s
    pure (.id s, Assoc.erase idColumn r)
  | none => throw (.missingKeyColumn idColumn)

/-- The id under which a document is stored: like the id of a record, but a blank text counts as
missing. -/
def documentId (r : Record) : Checked String :=
  match Assoc.find? idColumn r with
  | some (.str s) => if Text.isBlank s then throw (.missingKeyColumn idColumn) else pure s
  | some (.num n) => pure n.text
  | _ => throw (.missingKeyColumn idColumn)

end Polystore
