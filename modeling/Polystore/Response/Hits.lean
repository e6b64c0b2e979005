import Polystore.Response.Basic
import Polystore.Search.Request

/-!
# Responses of the index

A search answers a body with hits, their total number and aggregations; what is missing in the
body counts as empty.  The response holds the facets in the order in which they were asked for.
-/

namespace Polystore

/-- The value at the end of a path of keys. -/
def Json.at? (v : Json) : List String → Option Json
  | [] => some v
  | key :: keys => (v.get? key).bind fun w => w.at? keys

/-- The list at the end of a path of keys, empty if there is none. -/
def Json.listAt (v : Json) (path : List String) : List Json :=
  ((v.at? path).bind Json.arr?).getD []

/-- The document of a hit. -/
def documentOfHit (hit : Json) : Record := ((hit.get? "_source").bind Json.obj?).getD []

/-- The total number of hits: a number, or an object that holds it. -/
def totalHits (body : Json) : Nat :=
  let total := body.at? ["hits", "total"]
  ((total.bind fun t => if t.isObject then (t.get? "value").bind Json.u64? else t.u64?)).getD 0

/-- The name of a bucket: its key, for days the key in words if there is one. -/
def bucketName (kind : FacetKind) (bucket : Json) : Json :=
  let key := bucket.get? "key"
  (match kind with
    | .terms => key
    | .dateHistogram => (bucket.get? "key_as_string").or key).getD .null

/-- The value of a facet that a bucket stands for. -/
def FacetValue.ofBucket (kind : FacetKind) (bucket : Json) : FacetValue :=
  ⟨bucketName kind bucket, ((bucket.get? "doc_count").bind Json.u64?).getD 0⟩

/-- The facet that was asked for. -/
def Facet.ofBody (body : Json) (f : FacetRequest) : Facet :=
  ⟨f.field, (body.listAt ["aggregations", f.field, "buckets"]).map (.ofBucket f.kind)⟩

/-- The response to a search. -/
def Response.ofHits (body : Json) (facets : List FacetRequest) : Response where
  records := (body.listAt ["hits", "hits"]).map documentOfHit
  count := totalHits body
  facets := if facets.isEmpty then none else some (facets.map (Facet.ofBody body))

/-- The id and the document of an entry that was found. -/
def foundDocument? (entry : Json) : Option (String × Json) :=
  if (entry.get? "found").bind Json.bool? == some true then
    ((entry.get? "_id").bind Json.str?).map fun id => (id, (entry.get? "_source").getD .null)
  else none

/-- The documents found by id; an id that comes twice keeps its place and takes the last
document. -/
def foundDocuments (body : Json) : Record :=
  Assoc.ofList ((body.listAt ["docs"]).filterMap foundDocument?)

end Polystore
