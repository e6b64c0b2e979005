import Polystore.Filter.Reader
import Polystore.Search.Request

/-!
# Reading search requests

A request is written as an object.  Keys that it does not know are ignored, and the keys that it
knows are read in a fixed order, so that of several faults always the same one is reported.
-/

namespace Polystore.SearchRequest

/-- A value under a key, where `null` counts as absent. -/
def part? (fields : Record) (key : String) : Option Json :=
  match Assoc.find? key fields with
  | some .null => none
  | v => v

/-- The texts of a list. -/
def texts? (items : List Json) : Option (List String) := items.mapM Json.str?

/-- The fields of an object with texts as values, in order of the key. -/
def textFields? (fields : Record) : Option (List (String × String)) := do
  let pairs ← fields.mapM fun p => p.2.str?.map fun s => (p.1, s)
  pure (pairs.foldl (fun l p => Assoc.putSorted fieldLt p.1 p.2 l) [])

/-- A list of texts under a key, empty if absent. -/
def readTexts (fields : Record) (key : String) : Checked (List String) :=
  match part? fields key with
  | none => pure []
  | some v =>
    match v.arr?.bind texts? with
    | some l => pure l
    | none => throw (.invalidRequest key .notStringList)

/-- An object of texts under a key, empty if absent. -/
def readTextFields (fields : Record) (key : String) : Checked (List (String × String)) :=
  match part? fields key with
  | none => pure []
  | some v =>
    match v.obj?.bind textFields? with
    | some l => pure l
    | none => throw (.invalidRequest key .notStringMap)

/-- A whole number under a key. -/
def readInteger (fields : Record) (key : String) : Checked (Option Int) :=
  match part? fields key with
  | none => pure none
  | some v =>
    match v.i64? with
    | some i => pure (some i)
    | none => throw (.invalidRequest key .notInteger)

/-- The free text; `null` does not count as absent here. -/
def readQuery (fields : Record) : Checked (Option String) :=
  match Assoc.find? "query" fields with
  | none => pure none
  | some v =>
    match v.str? with
    | some s => pure (some s)
    | none => throw (.invalidRequest "query" .notString)

/-- The filter; `null` does not count as absent here. -/
def readFilters (fields : Record) : Checked (Option Filter) :=
  match Assoc.find? "filters" fields with
  | none => pure none
  | some v => return some (← Filter.ofJson v)

/-- Adds the facets of an object from fields to kinds. -/
def readFacetFields (fs : List FacetRequest) : Record → Checked (List FacetRequest)
  | [] => pure fs
  | (field, .null) :: rest => readFacetFields (addFacet fs ⟨field, .ofText none⟩) rest
  | (field, .str kind) :: rest => readFacetFields (addFacet fs ⟨field, .ofText (some kind)⟩) rest
  | _ :: _ => throw (.invalidRequest "facets" .kindNotString)

/-- Adds the facets of a list of objects. -/
def readFacetItems (fs : List FacetRequest) : List Json → Checked (List FacetRequest)
  | [] => pure fs
  | .obj fields :: rest => do
    let fs ← readFacetFields fs fields
    readFacetItems fs rest
  | _ :: _ => throw (.invalidRequest "facets" .notMapInList)

/-- The facets: an object from fields to kinds, or a list of such objects. -/
def readFacets (fields : Record) : Checked (List FacetRequest) :=
  match part? fields "facets" with
  | none => pure []
  | some (.obj entries) => readFacetFields [] entries
  | some (.arr items) => readFacetItems [] items
  | some _ => throw (.invalidRequest "facets" .notMapOrList)

/-- The keys to sort by. -/
def readSort (fields : Record) : Checked (List SortKey) :=
  match part? fields "sort_by" with
  | none => pure []
  | some (.obj entries) => pure (entries.map fun p => ⟨p.1, .ofText p.2.str?⟩)
  | some _ => throw (.invalidRequest "sort_by" .notDirectionMap)

/-- Adds the weights of an object from fields to whole numbers. -/
def readWeights (weights : List (String × Int)) : Record → Checked (List (String × Int))
  | [] => pure weights
  | (field, v) :: rest =>
    match v.i64? with
    | some w => readWeights (Assoc.putSorted fieldLt field w weights) rest
    | none => throw (.invalidRequest "softConstraints" .weightNotInteger)

/-- The weights of fields; `null` does not count as absent here. -/
def readBoosts (fields : Record) : Checked (List (String × Int)) :=
  match Assoc.find? "softConstraints" fields with
  | none => pure []
  | some (.obj entries) => readWeights [] entries
  | some _ => throw (.invalidRequest "softConstraints" .notMap)

/-- The request of a value, which has to be an object. -/
def ofJson : Json → Checked SearchRequest
  | .obj fields => do
    let query ← readQuery fields
    let queryFields ← readTexts fields "queryFields"
    let filters ← readFilters fields
    let present ← readTexts fields "exists"
    let absent ← readTexts fields "not_exists"
    let nestedPresent ← readTextFields fields "nestedExists"
    let nestedAbsent ← readTextFields fields "nestedNotExists"
    let facets ← readFacets fields
    let sort ← readSort fields
    let boosts ← readBoosts fields
    let fuzzy ← readTextFields fields "fuzzy"
    let returned ← readTexts fields "fields"
    let offset ← readInteger fields "offset"
    let limit ← readInteger fields "limit"
    pure
      { query, queryFields, filters, present, absent, nestedPresent, nestedAbsent, facets, sort,
        boosts, fuzzy, fields := returned, offset, limit }
  | _ => throw (.invalidRequest "request" .notMap)

end Polystore.SearchRequest
