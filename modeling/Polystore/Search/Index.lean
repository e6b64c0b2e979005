import Polystore.Failure
import Polystore.Json.Basic
import Polystore.Search.Facet

/-!
# The document index

Documents by id, index by index, each index in the order in which its documents came.  A search
takes a body and answers hits, their total number, and aggregations; it is broken off if hits or
values cannot be put in order, or if a day does not fit 64 bits.
-/

namespace Polystore

/-- Why the index refuses a request. -/
inductive IndexFault where
  | noIndex (name : String)
  | query (fault : QueryFault)
  | malformedSort
  | aggregationsNotObject
  | unknownAggregation (name : String)
  | aggregationWithoutField
  deriving DecidableEq, Repr

/-- The fault as the backend reports it. -/
def IndexFault.failure : IndexFault → NativeFailure
  | noIndex name => .refused ("index_not_found_exception: no such index [" ++ name ++ "]")
  | query fault => .refused ("parsing_exception: " ++ fault.text)
  | malformedSort => .refused "parsing_exception: malformed sort"
  | aggregationsNotObject => .refused "parsing_exception: aggs must be an object"
  | unknownAggregation name =>
    .refused ("parsing_exception: unsupported aggregation [" ++ name ++ "]")
  | aggregationWithoutField => .refused "parsing_exception: aggregation requires a field"

/-- Why a search has no answer. -/
inductive SearchFault where
  | refused (fault : IndexFault)
  | panicked (panic : Panic)
  deriving DecidableEq, Repr

/-- The fault as the caller of the index sees it. -/
def SearchFault.breakdown : SearchFault → Breakdown
  | refused fault => .failure fault.failure
  | panicked panic => .panic panic

/-- The documents of an index by id. -/
abbrev Documents := List (String × Record)

/-- A document that a search found. -/
structure Hit where
  score : Float
  id : String
  doc : Record

/-! ## Searching -/

namespace Search

/-- The documents that match, in index order. -/
def hits (suffix : String) (q : Query) : Documents → Except QueryFault (List Hit)
  | [] => pure []
  | (id, doc) :: docs => do
    let score ← q.score suffix (.obj doc)
    let rest ← hits suffix q docs
    pure (match score with
      | some s => ⟨s, id, doc⟩ :: rest
      | none => rest)

/-- The keys of a sort section: the first field of each item, and whether it descends. -/
def sortKeys : List Json → Except IndexFault (List (String × Bool))
  | [] => pure []
  | .obj ((field, spec) :: _) :: rest => do
    let keys ← sortKeys rest
    pure ((field, (spec.get? "order").bind Json.str? == some "desc") :: keys)
  | _ :: _ => throw .malformedSort

/-- The value that a document is sorted by. -/
def sortValue? (suffix field : String) (doc : Record) : Option Json :=
  (fieldValues suffix field (.obj doc)).head?

/-- Documents without a value come last in both directions; values without an order are
undecided. -/
def compareValues (descending : Bool) : Option Json → Option Json → Ordering
  | some a, some b =>
    let o := (a.compare? b).getD .eq
    if descending then o.swap else o
  | some _, none => .lt
  | none, some _ => .gt
  | none, none => .eq

/-- Compares by the first key that decides. -/
def compareByKeys (suffix : String) : List (String × Bool) → Record → Record → Ordering
  | [], _, _ => .eq
  | (field, descending) :: keys, a, b =>
    (compareValues descending (sortValue? suffix field a) (sortValue? suffix field b)).then
      (compareByKeys suffix keys a b)

/-- Greater scores come first.  The boosts of a request are whole numbers of 64 bits, so its scores
are numbers. -/
def compareScores (a b : Hit) : Ordering :=
  if b.score < a.score then .lt else if a.score < b.score then .gt else .eq

/-- A result, or the search is broken off. -/
def orPanic {α : Type} (p : Panic) : Option α → Except SearchFault α
  | some a => pure a
  | none => throw (.panicked p)

/-- The hits in the order that the body asks for: by its sort keys if it has a list of them, by
score otherwise. -/
def ranked (suffix : String) (body : Json) (found : List Hit) : Except SearchFault (List Hit) :=
  match (body.get? "sort").bind Json.arr? with
  | some sort => do
    let keys ← (sortKeys sort).mapError .refused
    orPanic .noOrder (sortBy? (fun a b => compareByKeys suffix keys a.doc b.doc) found)
  | none => pure (sortBy compareScores found)

/-! ### Aggregations -/

/-- The field of an aggregation. -/
def aggregationField (spec : Json) : Except IndexFault String :=
  match (spec.get? "field").bind Json.str? with
  | some field => pure field
  | none => throw .aggregationWithoutField

/-- The number of values listed if an aggregation does not say. -/
def defaultTermsSize : Nat := 10

/-- The answer of an aggregation. -/
def buckets (items : List Json) : Json := .obj [("buckets", .arr items)]

/-- One bucket of a value. -/
def valueBucket (p : Json × Nat) : Json := .obj [("key", p.1), ("doc_count", .ofNat p.2)]

/-- One bucket of a day. -/
def dayBucket (p : Int × Nat) : Json :=
  .obj
    [("key_as_string", .str (Time.instantText p.1)), ("key", .ofInt p.1),
      ("doc_count", .ofNat p.2)]

/-- One aggregation over the documents found. -/
def aggregate (suffix name : String) (spec : Json) (docs : List Json) : Except SearchFault Json :=
  match spec.get? "terms", spec.get? "date_histogram" with
  | some terms, _ => do
    let field ← (aggregationField terms).mapError .refused
    let size := ((terms.get? "size").bind Json.u64?).getD defaultTermsSize
    let counts ← orPanic .noOrder (topValues? suffix field size docs)
    pure (buckets (counts.map valueBucket))
  | none, some histogram => do
    let field ← (aggregationField histogram).mapError .refused
    let counts ← orPanic .overflow ((dayStarts? suffix field docs).bind dayCounts?)
    pure (buckets (counts.map dayBucket))
  | none, none => throw (.refused (.unknownAggregation name))

/-- All aggregations of a body, by name. -/
def aggregateAll (suffix : String) (docs : List Json) : Record → Except SearchFault Record
  | [] => pure []
  | (name, spec) :: rest => do
    let result ← aggregate suffix name spec docs
    let others ← aggregateAll suffix docs rest
    pure ((name, result) :: others)

/-- The aggregations that a body asks for. -/
def aggregations (suffix : String) (body : Json) (docs : List Json) :
    Except SearchFault (Option Json) :=
  let asked := match body.get? "aggs" with
    | some aggs => some aggs
    | none => body.get? "aggregations"
  match asked with
  | none => pure none
  | some (.obj specs) => do
    let results ← aggregateAll suffix docs specs
    pure (some (.obj results))
  | some _ => throw (.refused .aggregationsNotObject)

/-! ### Pages -/

/-- The document restricted to some of its fields. -/
def restrict (fields : List String) (doc : Record) : Record :=
  doc.filter fun p => fields.contains p.1

/-- The document as the body wants it returned. -/
def source (body : Json) (doc : Record) : Record :=
  match (body.get? "_source").bind Json.arr? with
  | some items => restrict (items.filterMap Json.str?) doc
  | none => doc

/-- One hit of an answer. -/
def hitJson (index : String) (body : Json) (h : Hit) : Json :=
  .obj
    [("_index", .str index), ("_id", .str h.id), ("_score", .ofFloat h.score),
      ("_source", .obj (source body h.doc))]

/-- The answer that tells the number of hits and shows a page of them, and the aggregations. -/
def answerJson (index : String) (body : Json) (found : List Hit) (aggregated : Option Json) :
    Json :=
  let start := ((body.get? "from").bind Json.u64?).getD 0
  let size := ((body.get? "size").bind Json.u64?).getD 10
  let page := (found.drop start).take size
  .obj
    ([("took", .ofNat 0), ("timed_out", .bool false),
      ("hits", .obj
        [("total", .obj [("value", .ofNat found.length), ("relation", .str "eq")]),
          ("hits", .arr (page.map (hitJson index body)))])] ++
    (aggregated.map fun a => ("aggregations", a)).toList)

/-- The answer to a body over the documents of an index. -/
def answer (suffix index : String) (body : Json) (docs : Documents) : Except SearchFault Json := do
  let q := (body.get? "query").elim Query.all Query.ofJson
  let found ← (hits suffix q docs).mapError fun fault => .refused (.query fault)
  let found ← ranked suffix body found
  let aggregated ← aggregations suffix body (found.map fun h => .obj h.doc)
  pure (answerJson index body found aggregated)

end Search

/-! ## Indices -/

/-- A set of indices; `suffix` marks untokenized sub-fields. -/
structure SearchIndex where
  suffix : String
  indices : List (String × Documents)

namespace SearchIndex

/-- No index. -/
def empty (suffix : String) : SearchIndex := ⟨suffix, []⟩

/-- The documents of an index. -/
def documents? (s : SearchIndex) (index : String) : Option Documents :=
  Assoc.find? index s.indices

/-- Changes the documents of an index, which is created if it does not exist. -/
def change (s : SearchIndex) (index : String) (f : Documents → Documents) : SearchIndex :=
  { s with indices := Assoc.modify index [] f s.indices }

/-- Creates an index unless it exists. -/
def create (s : SearchIndex) (index : String) : SearchIndex := s.change index id

/-- The number of documents of an index. -/
def count (s : SearchIndex) (index : String) : Nat := ((s.documents? index).getD []).length

/-- Stores a document in place of an earlier one with its id. -/
def put (s : SearchIndex) (index id : String) (doc : Record) : SearchIndex :=
  s.change index (Assoc.put id doc)

/-- Stores several documents in order. -/
def putAll (s : SearchIndex) (index : String) (docs : Documents) : SearchIndex :=
  s.change index fun old => Assoc.putAll old docs

/-- The document with an id. -/
def get? (s : SearchIndex) (index id : String) : Option Record :=
  (s.documents? index).bind (Assoc.find? id)

/-- Merges a patch into a document.  A missing document is created from the patch if `upsert` is
set.  The answer tells whether there is such a document now; the index exists afterwards in any
case. -/
def update (s : SearchIndex) (index id : String) (patch : Record) (upsert : Bool) :
    Bool × SearchIndex :=
  match s.get? index id with
  | some doc => (true, s.put index id (Json.mergeFields doc patch))
  | none => if upsert then (true, s.put index id patch) else (false, s.create index)

/-- Deletes a document and tells whether it was there. -/
def delete (s : SearchIndex) (index id : String) : Bool × SearchIndex :=
  match s.get? index id with
  | some _ => (true, s.change index (Assoc.erase id))
  | none => (false, s)

/-- One entry of the answer to a read of several documents. -/
def entry (index : String) (fields : List String) (id : String) : Option Record → Json
  | some doc =>
    .obj
      [("_index", .str index), ("_id", .str id), ("found", .bool true),
        ("_source", .obj (if fields.isEmpty then doc else Search.restrict fields doc))]
  | none => .obj [("_index", .str index), ("_id", .str id), ("found", .bool false)]

/-- Reads several documents, restricted to some fields if any are given. -/
def getMany (s : SearchIndex) (index : String) (ids fields : List String) : Json :=
  .obj [("docs", .arr (ids.map fun id => entry index fields id (s.get? index id)))]

/-- Runs a search. -/
def search (s : SearchIndex) (index : String) (body : Json) : Except SearchFault Json :=
  match s.documents? index with
  | some docs => Search.answer s.suffix index body docs
  | none => throw (.refused (.noIndex index))

end SearchIndex

end Polystore
