import Polystore.Proofs.Search.Answer
import Polystore.Proofs.Search.Checking
import Polystore.Proofs.Sorting.Stable

/-!
# The response to a search request

What a caller gets for a request, from its query to the response, in one equation.  The index finds
the documents that match the query as it is read back, puts them in the order of the request, shows
a page of them, and counts the facets over all of them.  A request may look for a text in a field
that its written form cannot name; then its query is read back as another one, and it is that one
that finds the documents.

    s.respond index r defaultLimit = .ok response ↔
      ∃ docs matched, s.documents? index = some docs ∧
        Search.hits s.suffix (r.matcher s.suffix) docs = .ok matched ∧
        r.responseTo s.suffix defaultLimit matched = .ok response             (respond_eq_ok)

Only a query that cannot be evaluated is refused.  After that a search can just be broken off, over
hits or values that cannot be put in order, or over days that do not fit 64 bits.
-/

namespace Polystore

/-! ## What a request makes of the documents -/

/-- A facet with its buckets over documents. -/
def FacetRequest.counted (f : FacetRequest) (suffix : String) (docs : List Json) :
    Except SearchFault (FacetRequest × List Json) :=
  (f.buckets suffix (f.field ++ suffix) docs).map fun b => (f, b)

/-- A facet with these buckets. -/
def FacetRequest.facet (f : FacetRequest) (buckets : List Json) : Facet :=
  ⟨f.field, buckets.map (.ofBucket f.kind)⟩

namespace SearchRequest

/-- The query of a request as the index reads it. -/
def matcher (r : SearchRequest) (suffix : String) : Query := (r.toQuery suffix).readBack

/-- The fields of the sort keys, and which of them descend. -/
def sortFields (r : SearchRequest) (suffix : String) : List (String × Bool) :=
  r.sort.map fun k => (k.field ++ suffix, k.direction == .descending)

/-- Hits in the order of a request: by its sort keys if it has any, by score otherwise. -/
def arrange (r : SearchRequest) (suffix : String) (matched : List Hit) :
    Except SearchFault (List Hit) :=
  if r.sort.isEmpty then pure (sortBy Search.compareScores matched)
  else Search.orPanic .noOrder
    (sortBy? (fun a b => Search.compareByKeys suffix (r.sortFields suffix) a.doc b.doc) matched)

theorem perm_of_arrange {r : SearchRequest} {suffix : String} {matched found : List Hit}
    (h : r.arrange suffix matched = .ok found) : found.Perm matched := by
  unfold arrange at h
  split at h
  · rw [← Outcome.pure_eq_ok.1 h]
    exact sortBy_perm _ _
  · exact perm_of_sortBy? (Search.orPanic_eq_ok.1 h)

/-- The facets of a request, each with its buckets over some documents. -/
def counted (r : SearchRequest) (suffix : String) (docs : List Json) :
    Except SearchFault (List (FacetRequest × List Json)) :=
  r.facets.mapM fun f => f.counted suffix docs

theorem facets_of_counted {r : SearchRequest} {suffix : String} {docs : List Json}
    {counts : List (FacetRequest × List Json)} (h : r.counted suffix docs = .ok counts) :
    counts.map Prod.fst = r.facets ∧
      ∀ p ∈ counts, p.1.buckets suffix (p.1.field ++ suffix) docs = .ok p.2 := by
  unfold counted at h
  generalize r.facets = facets at h
  induction facets generalizing counts with
  | nil =>
    rw [← Outcome.pure_eq_ok.1 h]
    exact ⟨rfl, by simp⟩
  | cons f facets ih =>
    rw [List.mapM_cons] at h
    obtain ⟨p, hp, h⟩ := Outcome.bind_eq_ok.1 h
    obtain ⟨rest, hrest, h⟩ := Outcome.bind_eq_ok.1 h
    obtain ⟨b, hb, rfl⟩ := Outcome.map_eq_ok.1 hp
    rw [← Outcome.pure_eq_ok.1 h]
    obtain ⟨hfacets, hbuckets⟩ := ih hrest
    exact ⟨by rw [List.map_cons, hfacets], List.forall_mem_cons.2 ⟨hb, hbuckets⟩⟩

/-- A document as a request wants it returned. -/
def project (r : SearchRequest) (doc : Record) : Record :=
  if r.fields.isEmpty then doc else Search.restrict r.fields doc

/-- The number of hits before the page. -/
def start (r : SearchRequest) : Nat := ((Json.ofInt (r.offset.getD 0)).u64?).getD 0

/-- The greatest number of hits on the page. -/
def size (r : SearchRequest) (defaultLimit : Nat) : Nat :=
  ((Json.ofNat ((r.limit.map wrapU64).getD defaultLimit)).u64?).getD 10

/-- The number of hits, if it fits 64 bits. -/
def countOf (found : List Hit) : Nat := ((Json.ofNat found.length).u64?).getD 0

/-- The response that shows a page of hits, and facets with their buckets. -/
def shown (r : SearchRequest) (defaultLimit : Nat) (found : List Hit)
    (counts : List (FacetRequest × List Json)) : Response where
  records := ((found.drop r.start).take (r.size defaultLimit)).map fun h => r.project h.doc
  count := countOf found
  facets := if r.facets.isEmpty then none else some (counts.map fun p => p.1.facet p.2)

theorem count_shown {r : SearchRequest} {defaultLimit : Nat} {found : List Hit}
    {counts : List (FacetRequest × List Json)} :
    (r.shown defaultLimit found counts).count = countOf found := by rw [shown]

/-- The response to a request by the documents that match. -/
def responseTo (r : SearchRequest) (suffix : String) (defaultLimit : Nat) (matched : List Hit) :
    Except SearchFault Response := do
  let found ← r.arrange suffix matched
  let counts ← r.counted suffix (found.map fun h => .obj h.doc)
  pure (r.shown defaultLimit found counts)

theorem responseTo_eq_ok {r : SearchRequest} {suffix : String} {defaultLimit : Nat}
    {matched : List Hit} {response : Response} :
    r.responseTo suffix defaultLimit matched = .ok response ↔
      ∃ found counts, r.arrange suffix matched = .ok found ∧
        r.counted suffix (found.map fun h => .obj h.doc) = .ok counts ∧
        r.shown defaultLimit found counts = response := by
  unfold responseTo
  simp only [Outcome.bind_eq_ok, Outcome.pure_eq_ok, exists_and_left]

end SearchRequest

/-- The response to a request: its body is searched for, and the answer is read. -/
def SearchIndex.respond (s : SearchIndex) (index : String) (r : SearchRequest)
    (defaultLimit : Nat) : Except SearchFault Response := do
  let answer ← s.search index (r.body s.suffix defaultLimit)
  pure (.ofHits answer r.facets)

/-! ## Order -/

namespace Search

/-- The sort section of a request is read back as its sort keys. -/
theorem sortKeys_sortSection (sort : List SortKey) (suffix : String) :
    sortKeys (sort.map fun k =>
        .obj [(k.field ++ suffix, .obj [("order", .str k.direction.text)])]) =
      .ok (sort.map fun k => (k.field ++ suffix, k.direction == .descending)) := by
  induction sort with
  | nil => rfl
  | cons k sort ih =>
    obtain ⟨field, direction⟩ := k
    rw [List.map_cons, sortKeys, ih]
    cases direction with
    | ascending => rfl
    | descending => rfl

theorem ranked_body (r : SearchRequest) (suffix : String) (defaultLimit : Nat)
    (matched : List Hit) :
    ranked suffix (r.body suffix defaultLimit) matched = r.arrange suffix matched := by
  unfold ranked SearchRequest.arrange
  rw [r.get?_body_sort, sortSection?]
  by_cases he : r.sort.isEmpty = true
  · rw [if_pos he, if_pos he]
    rfl
  · rw [if_neg he, if_neg he]
    simp only [Option.bind_some, Json.arr?, sortKeys_sortSection]
    rfl

/-! ## Aggregations -/

/-- The aggregations of facets are answered one by one under their names. -/
theorem aggregateAll_facets (suffix : String) (docs : List Json) (facets : List FacetRequest) :
    aggregateAll suffix docs (facets.map fun f => (f.field, f.aggregation suffix)) =
      (facets.mapM fun f : FacetRequest => f.counted suffix docs).map
        (List.map fun p => (p.1.field, buckets p.2)) := by
  induction facets with
  | nil => rfl
  | cons f facets ih =>
    rw [List.map_cons, aggregateAll, aggregate_eq, ih, List.mapM_cons, FacetRequest.counted]
    cases f.buckets suffix (f.field ++ suffix) docs with
    | error e => rfl
    | ok b =>
      cases facets.mapM fun f : FacetRequest => f.counted suffix docs with
      | error e => rfl
      | ok counts => rfl

/-- The aggregations in the answer to a request. -/
def aggregated (r : SearchRequest) (counts : List (FacetRequest × List Json)) : Option Json :=
  if r.facets.isEmpty then none
  else some (.obj (counts.map fun p => (p.1.field, buckets p.2)))

/-- The aggregations of a request without a repeated facet. -/
theorem aggregations_body {r : SearchRequest} (hn : (r.facets.map FacetRequest.field).Nodup)
    (suffix : String) (defaultLimit : Nat) (docs : List Json) :
    aggregations suffix (r.body suffix defaultLimit) docs =
      (r.counted suffix docs).map (aggregated r) := by
  have hkeys : (Assoc.keys (r.facets.map fun f => (f.field, f.aggregation suffix))).Nodup := by
    rwa [Assoc.keys, List.map_map]
  unfold aggregations aggregated SearchRequest.counted
  rw [r.get?_body_aggs, r.get?_body_aggregations, aggregations?]
  by_cases he : r.facets.isEmpty = true
  · rw [if_pos he, List.isEmpty_iff.1 he]
    rfl
  · rw [if_neg he, Assoc.ofList_of_nodup hkeys]
    simp only [aggregateAll_facets, if_neg he]
    cases r.facets.mapM fun f => f.counted suffix docs with
    | error e => rfl
    | ok counts => rfl

/-- A hit shows its document as the request wants it. -/
theorem documentOfHit_hitJson (r : SearchRequest) (index suffix : String) (defaultLimit : Nat)
    (h : Hit) :
    documentOfHit (hitJson index (r.body suffix defaultLimit) h) = r.project h.doc := by
  have hs : documentOfHit (hitJson index (r.body suffix defaultLimit) h) =
      source (r.body suffix defaultLimit) h.doc := rfl
  rw [hs, source, r.get?_body_source, SearchRequest.project]
  by_cases he : r.fields.isEmpty = true
  · rw [if_pos he, if_pos he]
    rfl
  · rw [if_neg he, if_neg he]
    simp only [Option.bind_some, Json.ofStrings, Json.arr?, Query.filterMap_str?]

/-- A total that is an object is told by its value. -/
theorem totalHits_of_at? {body value : Json}
    (h : body.at? ["hits", "total", "value"] = some value) :
    totalHits body = value.u64?.getD 0 := by
  have he : ((body.at? ["hits", "total"]).bind fun t => t.get? "value") = some value := by
    rw [← h]
    simp only [Json.at?, Option.bind_assoc, Option.bind_some]
    simp
  obtain ⟨total, ht, hv⟩ := Option.bind_eq_some_iff.1 he
  rw [totalHits, ht]
  cases total with
  | obj fields =>
    show (((Json.obj fields).get? "value").bind Json.u64?).getD 0 = _
    rw [hv, Option.bind_some]
  | _ => exact absurd hv (by simp [Json.get?])

/-- A facet is read from the answer to its aggregation. -/
theorem facet_ofBody {counts : List (FacetRequest × List Json)}
    (hn : (counts.map fun p => p.1.field).Nodup) {answer : Json}
    (ha : answer.get? "aggregations" =
      some (.obj (counts.map fun p => (p.1.field, buckets p.2))))
    {p : FacetRequest × List Json} (hp : p ∈ counts) :
    Facet.ofBody answer p.1 = p.1.facet p.2 := by
  have hfind : Assoc.find? p.1.field (counts.map fun p => (p.1.field, buckets p.2)) =
      some (buckets p.2) := by
    refine Assoc.find?_eq_some_of_mem ?_ (List.mem_map.2 ⟨p, hp, rfl⟩)
    rwa [Assoc.keys, List.map_map]
  have hb : answer.at? ["aggregations", p.1.field, "buckets"] = some (.arr p.2) := by
    rw [Json.at?, ha, Option.bind_some, Json.at?, Json.get?, hfind]
    rfl
  rw [Facet.ofBody, FacetRequest.facet, Json.listAt, hb]
  rfl

/-! ## Answers -/

/-- The answer to a request by the documents that match. -/
def answerTo (r : SearchRequest) (suffix index : String) (defaultLimit : Nat)
    (matched : List Hit) : Except SearchFault Json := do
  let found ← r.arrange suffix matched
  let counts ← r.counted suffix (found.map fun h => .obj h.doc)
  pure (answerJson index (r.body suffix defaultLimit) found (aggregated r counts))

/-- The answer to the body of a request, step by step. -/
theorem answer_body {r : SearchRequest} (hn : (r.facets.map FacetRequest.field).Nodup)
    (suffix index : String) (docs : Documents) (defaultLimit : Nat) :
    answer suffix index (r.body suffix defaultLimit) docs =
      (hits suffix (r.matcher suffix) docs).mapError (fun e => .refused (.query e)) >>=
        answerTo r suffix index defaultLimit := by
  unfold answer
  have hq : ((r.body suffix defaultLimit).get? "query").elim .all .ofJson = r.matcher suffix := by
    rw [r.get?_body_query]
    rfl
  rw [hq]
  simp only [ranked_body, aggregations_body hn]
  refine bind_congr fun matched => bind_congr fun found => ?_
  cases r.counted suffix (found.map fun h => .obj h.doc) with
  | error e => rfl
  | ok counts => rfl

theorem answerTo_eq_ok {r : SearchRequest} {suffix index : String} {defaultLimit : Nat}
    {matched : List Hit} {answer : Json} :
    answerTo r suffix index defaultLimit matched = .ok answer ↔
      ∃ found counts, r.arrange suffix matched = .ok found ∧
        r.counted suffix (found.map fun h => .obj h.doc) = .ok counts ∧
        answerJson index (r.body suffix defaultLimit) found (aggregated r counts) = answer := by
  unfold answerTo
  simp only [Outcome.bind_eq_ok, Outcome.pure_eq_ok, exists_and_left]

theorem shows_body (r : SearchRequest) (suffix index : String) (defaultLimit : Nat)
    (found : List Hit) (a : Option Json) :
    Shows index (r.body suffix defaultLimit) found r.start (r.size defaultLimit)
      (answerJson index (r.body suffix defaultLimit) found a) := by
  have hshows := shows_answerJson index (r.body suffix defaultLimit) found a
  rw [r.get?_body_from, r.get?_body_size, Option.bind_some, Option.bind_some] at hshows
  exact hshows

/-- The answer to the body of a request is read as what it shows. -/
theorem ofHits_answerJson {r : SearchRequest} (hn : (r.facets.map FacetRequest.field).Nodup)
    {counts : List (FacetRequest × List Json)} (hcounts : counts.map Prod.fst = r.facets)
    (suffix index : String) (defaultLimit : Nat) (found : List Hit) :
    Response.ofHits
        (answerJson index (r.body suffix defaultLimit) found (aggregated r counts)) r.facets =
      r.shown defaultLimit found counts := by
  have hshows := shows_body r suffix index defaultLimit found (aggregated r counts)
  have hagg := get?_answerJson_aggregations index (r.body suffix defaultLimit) found
    (aggregated r counts)
  rw [SearchRequest.shown, Response.ofHits, Response.mk.injEq]
  refine ⟨?_, totalHits_of_at? hshows.total, ?_⟩
  · rw [hshows.page, List.map_map]
    exact List.map_congr_left fun h _ => documentOfHit_hitJson r index suffix defaultLimit h
  · by_cases he : r.facets.isEmpty = true
    · rw [if_pos he, if_pos he]
    · have hagg' := hagg.trans (if_neg he)
      rw [if_neg he, if_neg he]
      rw [← hcounts, List.map_map] at hn
      rw [← hcounts, List.map_map]
      exact congrArg some (List.map_congr_left fun p hp => facet_ofBody hn hagg' hp)

end Search

namespace SearchIndex

variable {s : SearchIndex} {index : String} {r : SearchRequest} {defaultLimit : Nat}

/-- The body of a request is searched for among the documents of an index. -/
theorem search_body (hn : (r.facets.map FacetRequest.field).Nodup) {docs : Documents}
    (hd : s.documents? index = some docs) :
    s.search index (r.body s.suffix defaultLimit) =
      (Search.hits s.suffix (r.matcher s.suffix) docs).mapError (fun e => .refused (.query e)) >>=
        Search.answerTo r s.suffix index defaultLimit := by
  unfold search
  rw [hd]
  exact Search.answer_body hn s.suffix index docs defaultLimit

/-- The response to a request tells of the documents that match. -/
theorem respond_eq (hn : (r.facets.map FacetRequest.field).Nodup) {docs : Documents}
    (hd : s.documents? index = some docs) :
    s.respond index r defaultLimit =
      (Search.hits s.suffix (r.matcher s.suffix) docs).mapError (fun e => .refused (.query e)) >>=
        r.responseTo s.suffix defaultLimit := by
  rw [respond, search_body hn hd, bind_assoc]
  refine bind_congr fun matched => ?_
  rw [Search.answerTo, bind_assoc, SearchRequest.responseTo]
  refine bind_congr fun found => ?_
  rw [bind_assoc]
  cases hc : r.counted s.suffix (found.map fun h => .obj h.doc) with
  | error e => dsimp only [bind, Except.bind]
  | ok counts =>
    dsimp only [bind, Except.bind, pure, Except.pure]
    rw [Search.ofHits_answerJson hn (SearchRequest.facets_of_counted hc).1]

/-- A request is answered if its query can be evaluated on every document, and the documents that
match can be put in order and counted. -/
theorem respond_eq_ok (hn : (r.facets.map FacetRequest.field).Nodup) {response : Response} :
    s.respond index r defaultLimit = .ok response ↔
      ∃ docs matched, s.documents? index = some docs ∧
        Search.hits s.suffix (r.matcher s.suffix) docs = .ok matched ∧
        r.responseTo s.suffix defaultLimit matched = .ok response := by
  cases hd : s.documents? index with
  | none =>
    rw [respond, search, hd]
    simp only [Outcome.bind_eq_ok, Outcome.throw_ne_ok, false_and, exists_false, reduceCtorEq]
  | some docs =>
    rw [respond_eq hn hd, Outcome.bind_eq_ok]
    simp only [Outcome.mapError_eq_ok, Option.some.injEq, exists_and_left, exists_eq_left']

end SearchIndex

/-! ## Plain requests -/

theorem SearchRequest.matcher_of_plain {r : SearchRequest} {suffix : String}
    (hs : Text.startsWith suffix "." = true) (h : r.Plain) :
    r.matcher suffix = r.toQuery suffix :=
  (wellFormed_toQuery hs h.readable).readBack_eq

/-- The query of a plain request can be evaluated on every document. -/
theorem Search.exists_hits_of_plain {r : SearchRequest} {suffix : String}
    (hs : Text.startsWith suffix "." = true) (h : r.Plain) (docs : Documents) :
    ∃ matched, hits suffix (r.matcher suffix) docs = .ok matched ∧
      (matched.map fun h => (h.id, h.doc)) =
        docs.filter fun p => (r.toQuery suffix).holds suffix (.obj p.2) := by
  rw [SearchRequest.matcher_of_plain hs h]
  exact hits_eq fun p _ => (SearchRequest.wellFormed_toQuery hs h.readable).runs suffix (.obj p.2)

end Polystore
