import Polystore.Identifier

/-!
# Times to live

How long written values last, and which remaining times a read asks for.
-/

namespace Polystore

/-- The largest time to live, twenty years in seconds. -/
def maxTtl : Int := 630720000

/-- The time to live that a write attaches: none for zero and less; one above the maximum is
refused. -/
def effectiveTtl (seconds : Int) : Checked (Option Int) :=
  if maxTtl < seconds then throw (.invalidTtl seconds maxTtl)
  else pure (if 0 < seconds then some seconds else none)

/-- Fields whose remaining time to live is read, each with the name it is returned under. -/
abbrev TtlProjection := List (String × String)

namespace TtlProjection

/-- Refuses a blank field and a blank alias, for the first such pair. -/
def check : List (String × String) → Checked Unit
  | [] => pure ()
  | (field, name) :: rest => do
    requireText .ttlField field
    if Text.isBlank name then throw (.missingTtlAlias field) else check rest

/-- Pairs each field with its alias from a table; a missing alias counts as blank. -/
def ofAliases (fields : List String) (nameOf? : String → Option String) :
    Checked (List (String × String)) := do
  let pairs := fields.map fun f => (f, (nameOf? f).getD "")
  check pairs
  pure pairs

end TtlProjection

end Polystore
