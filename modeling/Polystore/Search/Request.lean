import Polystore.Filter.Basic
import Polystore.Text.Letters

/-!
# Search requests

What a caller asks of an index.  Every part is optional: an empty request matches every document
and returns the first page.  Parts that are looked up by field are kept in order of the field.
-/

namespace Polystore

/-- The direction of a sort. -/
inductive Direction where
  | ascending
  | descending
  deriving DecidableEq, Repr

namespace Direction

/-- `asc` in any case is ascending, everything else is descending. -/
def ofText (s : Option String) : Direction :=
  match s with
  | some s => if Text.sameIgnoringAsciiCase s "asc" then ascending else descending
  | none => descending

/-- The name of the direction. -/
def text : Direction → String
  | ascending => "asc"
  | descending => "desc"

end Direction

/-- A key to sort by. -/
structure SortKey where
  field : String
  direction : Direction
  deriving DecidableEq, Repr

/-- How the values of a facet are counted. -/
inductive FacetKind where
  | terms
  | dateHistogram
  deriving DecidableEq, Repr

namespace FacetKind

/-- `date_histogram` or `date-histogram` in any case counts by day, everything else by value. -/
def ofText (s : Option String) : FacetKind :=
  match s with
  | some s =>
    if Text.sameIgnoringAsciiCase s "date_histogram" ||
        Text.sameIgnoringAsciiCase s "date-histogram" then dateHistogram
    else terms
  | none => terms

/-- The name of the kind. -/
def text : FacetKind → String
  | terms => "terms"
  | dateHistogram => "date_histogram"

end FacetKind

/-- A facet that is asked for; its field is also its name in the response. -/
structure FacetRequest where
  field : String
  kind : FacetKind
  deriving DecidableEq, Repr

/-- A request to an index. -/
structure SearchRequest where
  /-- Free text. -/
  query : Option String
  /-- The fields that the free text is looked for in; none means everywhere. -/
  queryFields : List String
  filters : Option Filter
  /-- Fields that must have a value. -/
  present : List String
  /-- Fields that must not have one. -/
  absent : List String
  /-- Fields that must have a value inside an object at a path. -/
  nestedPresent : List (String × String)
  /-- Fields that must not have one there. -/
  nestedAbsent : List (String × String)
  facets : List FacetRequest
  sort : List SortKey
  /-- Weights of fields; they change scores but not what matches. -/
  boosts : List (String × Int)
  /-- Texts that a field must resemble. -/
  fuzzy : List (String × String)
  /-- The fields that are returned; none means whole documents. -/
  fields : List String
  offset : Option Int
  limit : Option Int

namespace SearchRequest

/-- The request that asks for nothing in particular. -/
def empty : SearchRequest where
  query := none
  queryFields := []
  filters := none
  present := []
  absent := []
  nestedPresent := []
  nestedAbsent := []
  facets := []
  sort := []
  boosts := []
  fuzzy := []
  fields := []
  offset := none
  limit := none

/-- The order of fields in the parts that are looked up by field. -/
def fieldLt (a b : String) : Bool := decide (a < b)

/-- A list of facets with one more; a field that is already there keeps its place and takes the new
kind. -/
def addFacet : List FacetRequest → FacetRequest → List FacetRequest
  | [], f => [f]
  | g :: gs, f => if g.field = f.field then f :: gs else g :: addFacet gs f

/-- Adds a facet. -/
def withFacet (r : SearchRequest) (f : FacetRequest) : SearchRequest :=
  { r with facets := addFacet r.facets f }

/-- Adds a key to sort by. -/
def withSort (r : SearchRequest) (k : SortKey) : SearchRequest := { r with sort := r.sort ++ [k] }

/-- Sets the weight of a field. -/
def withBoost (r : SearchRequest) (field : String) (weight : Int) : SearchRequest :=
  { r with boosts := Assoc.putSorted fieldLt field weight r.boosts }

/-- The weight of a field. -/
def boost? (r : SearchRequest) (field : String) : Option Int := Assoc.find? field r.boosts

/-- The first field with more than one facet. -/
def repeatedFacet? : List FacetRequest → List String → Option String
  | [], _ => none
  | f :: fs, seen =>
    if seen.contains f.field then some f.field else repeatedFacet? fs (f.field :: seen)

/-- Refuses a part that is there and bad. -/
def refuse {α : Type} (part : Option α) (bad : α → Bool) (why : α → Rejection) : Checked Unit :=
  match part with
  | some a => if bad a then throw (why a) else pure ()
  | none => pure ()

/-- Refuses a page outside the bounds, an empty filter, a repeated facet and a blank text. -/
def check (r : SearchRequest) (maxLimit : Nat) : Checked Unit := do
  refuse r.limit (fun limit => limit ≤ 0 ∨ (maxLimit : Int) < limit)
    fun limit => .invalidLimit limit maxLimit
  refuse r.offset (fun offset => offset < 0) .invalidOffset
  refuse r.filters Filter.isEmpty fun _ => .emptyFilter
  refuse (repeatedFacet? r.facets []) (fun _ => true) .duplicateField
  refuse r.query Text.isBlank fun _ => .invalidRequest "query" .blank

end SearchRequest

end Polystore
