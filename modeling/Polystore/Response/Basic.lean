import Polystore.Json.Basic

/-!
# Responses

What every call on tables and every search returns: records, a total number and, if they were
asked for, facets.  Reading takes back what writing produces:

    ofJson? (toJson r) = some r        while the numbers of r fit 64 bits
-/

namespace Polystore

/-- A value of a facet with the number of records that have it. -/
structure FacetValue where
  name : Json
  count : Nat

/-- The values of a facet, in the order of the backend. -/
structure Facet where
  name : String
  values : List FacetValue

/-- Records, and how many there are in total; a search returns one page of them. -/
structure Response where
  records : List Record
  count : Nat
  facets : Option (List Facet)

/-- The written form of a value of a facet. -/
def FacetValue.toJson (v : FacetValue) : Json := .obj [("name", v.name), ("count", .ofNat v.count)]

/-- The written form of a facet. -/
def Facet.toJson (f : Facet) : Json :=
  .obj [("name", .str f.name), ("values", .arr (f.values.map FacetValue.toJson))]

/-- Reads a value of a facet. -/
def FacetValue.ofJson? (v : Json) : Option FacetValue := do
  let name ← v.get? "name"
  let count ← (v.get? "count").bind Json.u64?
  pure ⟨name, count⟩

/-- Reads a facet. -/
def Facet.ofJson? (v : Json) : Option Facet := do
  let name ← (v.get? "name").bind Json.str?
  let items ← (v.get? "values").bind Json.arr?
  let values ← items.mapM FacetValue.ofJson?
  pure ⟨name, values⟩

namespace Response

/-- The response of a write. -/
def empty : Response := ⟨[], 0, none⟩

/-- The response that holds all the records there are. -/
def ofRecords (records : List Record) : Response := ⟨records, records.length, none⟩

/-- The first record. -/
def first? (r : Response) : Option Record := r.records.head?

/-- Does the response hold no record? -/
def isEmpty (r : Response) : Bool := r.records.isEmpty

/-- The facet with a name. -/
def facet? (r : Response) (name : String) : Option Facet :=
  r.facets.bind fun fs => fs.find? fun f => f.name == name

/-- The written form; facets are left out if there are none. -/
def toJson (r : Response) : Json :=
  .obj
    ([("records", .arr (r.records.map .obj)), ("count", .ofNat r.count)] ++
      match r.facets with
      | some fs => [("facets", .arr (fs.map Facet.toJson))]
      | none => [])

/-- Reads facets, which may be left out or `null`. -/
def facetsOfJson? : Option Json → Option (Option (List Facet))
  | none | some .null => some none
  | some v => do
    let items ← v.arr?
    let fs ← items.mapM Facet.ofJson?
    pure (some fs)

/-- Reads a response; keys that it does not know are ignored. -/
def ofJson? (v : Json) : Option Response := do
  let items ← (v.get? "records").bind Json.arr?
  let records ← items.mapM Json.obj?
  let count ← (v.get? "count").bind Json.u64?
  let facets ← facetsOfJson? (v.get? "facets")
  pure ⟨records, count, facets⟩

end Response

end Polystore
