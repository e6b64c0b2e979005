import Polystore.Filter.Basic
import Polystore.Text.Letters

/-!
# Clauses

The written form of queries, clause by clause.  A clause is an object with one key, the kind of
the clause.  A boost is written into the innermost object of a clause that takes one.
-/

namespace Polystore.Clause

/-! ## Parts -/

/-- Parameters with a boost, if there is one. -/
def withBoost (boost : Option Number) (params : Record) : Json :=
  match boost with
  | some w => .obj (Assoc.put "boost" (.num w) params)
  | none => .obj params

/-- A clause of a kind. -/
def ofKind (kind : String) (params : Json) : Json := .obj [(kind, params)]

/-- A clause of a kind on one field. -/
def onField (kind field : String) (params : Json) : Json := ofKind kind (.obj [(field, params)])

/-! ## Clauses on fields -/

/-- The field has a value. -/
def term (field : String) (v : Json) (boost : Option Number) : Json :=
  onField "term" field (withBoost boost [("value", v)])

/-- The field has one of several values. -/
def terms (field : String) (vs : List Json) (boost : Option Number) : Json :=
  ofKind "terms" (withBoost boost [(field, .arr vs)])

/-- The field has a value within bounds. -/
def range (field : String) (bounds : List (Bound × Json)) (boost : Option Number) : Json :=
  onField "range" field (withBoost boost (Assoc.ofList (bounds.map fun p => (p.1.key, p.2))))

/-- The field has a text with a given start. -/
def start (field text : String) (boost : Option Number) : Json :=
  onField "prefix" field (withBoost boost [("value", .str text)])

/-- The field has a text that matches a pattern. -/
def pattern (field source : String) (boost : Option Number) : Json :=
  onField "regexp" field (withBoost boost [("value", .str source)])

/-- The field has any value. -/
def hasValue (field : String) (boost : Option Number) : Json :=
  ofKind "exists" (withBoost boost [("field", .str field)])

/-- The field has a word like one of the text. -/
def words (field text : String) (fuzziness : Option Json) (swaps : Bool) (boost : Option Number) :
    Json :=
  onField "match" field
    (withBoost boost
      (("query", .str text) ::
        (match fuzziness with
          | some f => [("fuzziness", f)]
          | none => []) ++ [("fuzzy_transpositions", .bool swaps)]))

/-- Some field has a word like one of the text. -/
def wordsIn (fields : List String) (text : String) (fuzziness : Option Json)
    (boost : Option Number) : Json :=
  ofKind "multi_match"
    (withBoost boost
      (("query", .str text) :: ("fields", .ofStrings fields) ::
        (match fuzziness with
          | some f => [("fuzziness", f)]
          | none => []) ++ [("lenient", .bool true)]))

/-! ## Clauses on clauses -/

/-- Every document. -/
def all : Json := ofKind "match_all" (.obj [])

/-- A clause on one object at a path alone; `scored` tells whether its score counts. -/
def nested (path : String) (query : Json) (scored : Bool) : Json :=
  ofKind "nested"
    (.obj ([("path", .str path), ("query", query)] ++
      if scored then [] else [("score_mode", .str "none")]))

/-- A section of a combination, if it is not empty. -/
def part (name : String) (clauses : List Json) : Record :=
  if clauses.isEmpty then [] else [(name, .arr clauses)]

/-- A combination of clauses.  Empty sections are left out, but for one that has no clause at
all, which is written with an empty `must`. -/
def combine (must filter mustNot should : List Json) (minimum : Option Nat)
    (boost : Option Number) : Json :=
  let sections := part "must" must ++ part "filter" filter ++
    part "must_not" mustNot ++ part "should" should
  ofKind "bool"
    (withBoost boost
      ((if sections.isEmpty then [("must", .arr [])] else sections) ++
        match minimum with
        | some n => [("minimum_should_match", .ofNat n)]
        | none => []))

/-- Any of some clauses. -/
def anyOf (clauses : List Json) : Json :=
  ofKind "bool" (.obj [("should", .arr clauses), ("minimum_should_match", .ofNat 1)])

/-- All of some clauses; a single one stands for itself. -/
def allOf : List Json → Json
  | [c] => c
  | clauses => ofKind "bool" (.obj [("must", .arr clauses)])

end Polystore.Clause

namespace Polystore

/-! ## Texts in clauses -/

/-- A scalar as it is compared: a text in lower case, anything else as it is. -/
def Json.fold : Json → Json
  | .str s => .str (Text.lower s)
  | v => v

namespace Pattern

/-- The characters with a meaning of their own in the pattern notation of clauses. -/
def reserved : List Char :=
  ['.', '?', '+', '*', '|', '\x7b', '\x7d', '[', ']', '(', ')', '"', '\\', '#', '@', '&', '<', '>',
   '~']

/-- The text with a backslash before each reserved character. -/
def escape (s : String) : String :=
  String.ofList (s.toList.flatMap fun c => if reserved.contains c then ['\\', c] else [c])

end Pattern

end Polystore
