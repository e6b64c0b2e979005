import Polystore.Search.Query
import Polystore.Search.Request

/-!
# Search bodies

The query that a request stands for, and the body that is sent to the index.

Filters look at the untokenized sub-field of a field, whose name is the field followed by a
suffix.  A dotted field is looked at inside a nested scope, one for each clause.  Every clause on
a field carries the weight that the request gives the field.
-/

namespace Polystore

/-- The weight of a field as a boost. -/
def SearchRequest.boostOf (r : SearchRequest) (field : String) : Option Number :=
  (r.boost? field).map .int

namespace Affix

/-- The clause of a test on the text; both look at the text in lower case. -/
def query (field text : String) (boost : Option Number) : Affix → Query
  | startsWith => .start field (Text.lower text) boost
  | endsWith => .pattern field (".*" ++ Pattern.escape (Text.lower text)) boost

end Affix

namespace Operators

/-- The bounds with each side's key once; a repeated one takes its last value. -/
def rangeBounds (ops : Operators) : List (Bound × Json) := Assoc.ofList ops.bounds

/-- One range clause with all bounds, if there are any, and then one clause for each test. -/
def queries (field : String) (boost : Option Number) (ops : Operators) : List Query :=
  (if ops.bounds.isEmpty then [] else [.range field ops.rangeBounds boost]) ++
    ops.affixes.map fun p => p.1.query field p.2 boost

end Operators

namespace Criterion

/-- The clauses of a criterion on a field, without any scope. -/
def queries (field : String) (boost : Option Number) : Criterion → List Query
  | scalar v => [.term field v.fold boost]
  | list vs => [.terms field (vs.map Json.fold) boost]
  | operators ops => ops.queries field boost

end Criterion

namespace Filter

/-- The clauses of one entry. -/
def entryQueries (suffix : String) (boost : Option Number) (field : String) (c : Criterion) :
    List Query :=
  let clauses := c.queries (field ++ suffix) boost
  match nestedPath? field with
  | some path => clauses.map fun q => .nested path q false
  | none => clauses

end Filter

namespace Query

/-- All of some queries; a single one stands for itself. -/
def allOf : List Query → Query
  | [q] => q
  | qs => .bool qs [] [] [] none none

/-- Any of some queries. -/
def anyOf (qs : List Query) : Query := .bool [] [] [] qs (some 1) none

/-- A word match that allows typing errors. -/
def fuzzy (field text : String) (boost : Option Number) : Query :=
  .words field text .auto true boost

end Query

namespace SearchRequest

/-- The clauses of one entry of the filter. -/
def entryQueries (r : SearchRequest) (suffix : String) (p : String × Criterion) : List Query :=
  Filter.entryQueries suffix (r.boostOf p.1) p.1 p.2

/-- The clause of the free text. -/
def textQuery (r : SearchRequest) (text : String) : Query :=
  if r.queryFields.isEmpty then .wordsIn ["*"] text .auto none
  else .anyOf (r.queryFields.map fun f => .fuzzy f text (r.boostOf f))

/-- The clauses of the filter: those of its entries, and one for the group of alternatives. -/
def filterQueries (r : SearchRequest) (suffix : String) (f : Filter) : List Query :=
  f.entries.flatMap (r.entryQueries suffix) ++
    if f.anyOf.isEmpty then []
    else [.anyOf (f.anyOf.map fun p => .allOf (r.entryQueries suffix p))]

/-- A field has a value. -/
def presence (r : SearchRequest) (field : String) : Query := .hasValue field (r.boostOf field)

/-- A field has a value inside an object at a path. -/
def nestedPresence (r : SearchRequest) (p : String × String) : Query :=
  .nested p.2 (r.presence p.1) false

/-- The clauses that have to match. -/
def mustQueries (r : SearchRequest) (suffix : String) : List Query :=
  (r.query.map r.textQuery).toList ++
    r.fuzzy.map (fun p => .fuzzy p.1 p.2 (r.boostOf p.1)) ++
    (match r.filters with
      | some f => r.filterQueries suffix f
      | none => []) ++
    r.present.map r.presence ++ r.nestedPresent.map r.nestedPresence

/-- The clauses that must not match. -/
def mustNotQueries (r : SearchRequest) : List Query :=
  r.absent.map r.presence ++ r.nestedAbsent.map r.nestedPresence

/-- The query that a request stands for. -/
def toQuery (r : SearchRequest) (suffix : String) : Query :=
  let must := r.mustQueries suffix
  let mustNot := r.mustNotQueries
  if must.isEmpty && mustNot.isEmpty then .all else .bool must [] mustNot [] none none

end SearchRequest

/-! ## Other parts of the body -/

/-- How one facet is aggregated. -/
def FacetRequest.aggregation (suffix : String) (f : FacetRequest) : Json :=
  match f.kind with
  | .terms => .obj [("terms", .obj [("field", .str (f.field ++ suffix))])]
  | .dateHistogram =>
    .obj [("date_histogram",
      .obj [("field", .str (f.field ++ suffix)), ("calendar_interval", .str "1d")])]

/-- The aggregations of all facets by field, if there are any. -/
def aggregations? (facets : List FacetRequest) (suffix : String) : Option Json :=
  if facets.isEmpty then none
  else some (.obj (Assoc.ofList (facets.map fun f => (f.field, f.aggregation suffix))))

/-- The sort section, if there is one. -/
def sortSection? (sort : List SortKey) (suffix : String) : Option Json :=
  if sort.isEmpty then none
  else
    some (.arr (sort.map fun k =>
      .obj [(k.field ++ suffix, .obj [("order", .str k.direction.text)])]))

/-- An unsigned 64-bit number from a signed one. -/
def wrapU64 (i : Int) : Nat := (i % Decimal.twoTo 64).toNat

/-- The body of a request. -/
def SearchRequest.body (r : SearchRequest) (suffix : String) (defaultLimit : Nat) : Json :=
  .obj
    ([("query", (r.toQuery suffix).toJson),
      ("from", .ofInt (r.offset.getD 0)),
      ("size", .ofNat ((r.limit.map wrapU64).getD defaultLimit)),
      ("track_total_hits", .bool true)] ++
    ((sortSection? r.sort suffix).map fun s => ("sort", s)).toList ++
    ((aggregations? r.facets suffix).map fun a => ("aggs", a)).toList ++
    if r.fields.isEmpty then [] else [("_source", .ofStrings r.fields)])

end Polystore
