import Polystore.Json.Basic
import Polystore.Text.Basic

/-!
# Values at a path

A path is a text of keys separated by dots.  A step by a key goes into an object, or into every
object of a list.  What is found at the end counts as follows: a list counts as its items, `null`
counts as nothing, and anything else as itself.  So a document may have no, one or many values at
a path.
-/

namespace Polystore.Json

/-- The values one key away. -/
def step (key : String) : Json → List Json
  | .obj fields => (Assoc.find? key fields).toList
  | .arr items => items.filterMap (get? key)
  | _ => []

/-- What a value at the end of a path counts as. -/
def leaves : Json → List Json
  | .arr items => items
  | .null => []
  | v => [v]

/-- The values reached by a list of keys. -/
def valuesAlong : List String → Json → List Json
  | [], v => leaves v
  | k :: ks, v => (step k v).flatMap (valuesAlong ks)

/-- The values at a dotted path, in document order. -/
def valuesAt (path : String) (doc : Json) : List Json := valuesAlong (Text.pieces '.' path) doc

/-- The document that holds one value at the end of a list of keys and nothing else. -/
def wrapAlong : List String → Json → Json
  | [], v => v
  | k :: ks, v => .obj [(k, wrapAlong ks v)]

/-- The document that holds one value at a dotted path and nothing else. -/
def wrapAt (path : String) (v : Json) : Json := wrapAlong (Text.pieces '.' path) v

mutual

/-- Every string inside a value, in document order. -/
def strings : Json → List String
  | .str s => [s]
  | .arr items => stringsOfItems items
  | .obj fields => stringsOfFields fields
  | _ => []

def stringsOfItems : List Json → List String
  | [] => []
  | x :: xs => strings x ++ stringsOfItems xs

def stringsOfFields : List (String × Json) → List String
  | [] => []
  | (_, v) :: fs => strings v ++ stringsOfFields fs

end

end Polystore.Json
