import Polystore.Filter.Reader
import Polystore.Proofs.Search.Orderly

/-!
# Requests are answered by their meaning

A request that passes its check is answered with the documents that meet it, whatever the index
holds.  The total counts all of them, and the page is a part of them in the order of the answer.
Only where these documents cannot be put in order or counted, the search may be broken off.

Each test of a criterion may be passed by a value of its own: a field with several values can meet
a bound with one of them and a start with another, although none of them meets both.

    r.check maxLimit = .ok () → … → s.AnswersBy byEachTest index docs r defaultLimit ∨
      ∃ p, s.search index (r.body s.suffix defaultLimit) = .error (.panicked p)
                                                                      (answers_byEachTest)
-/

namespace Polystore

/-! ## Plain requests -/

namespace SearchRequest

/-- A filter that was read, and fields that are not named like the boost. -/
theorem plain_of_read {r : SearchRequest}
    (hf : ∀ f ∈ r.filters, (∃ v, Filter.ofJson v = .ok f) ∧ f.NoEnd)
    (hq : "boost" ∉ r.queryFields) (hz : "boost" ∉ Assoc.keys r.fuzzy) : r.Plain := by
  refine ⟨fun f hm => ?_, fun field hm he => hq (he ▸ hm), fun p hm he => hz ?_⟩
  · obtain ⟨⟨v, hv⟩, hn⟩ := hf f hm
    exact ⟨Filter.sound_of_ofJson hv, hn⟩
  · rw [← he]
    exact Assoc.mem_keys_of_mem hm

end SearchRequest

/-! ## Answers -/

namespace SearchIndex

/-- The index answers the body of a request with the documents that meet the request: it finds
them all, in some order, and shows those from the offset on, up to the limit. -/
def AnswersBy (reading : Reading) (s : SearchIndex) (index : String) (docs : Documents)
    (r : SearchRequest) (defaultLimit : Nat) : Prop :=
  ∃ (found : List Hit) (start size : Nat) (answer : Json),
    (found.map fun h => (h.id, h.doc)).Perm
      (docs.filter fun p => r.IsMetBy reading s.suffix (.obj p.2)) ∧
    s.search index (r.body s.suffix defaultLimit) = .ok answer ∧
    Search.Shows index (r.body s.suffix defaultLimit) found start size answer ∧
    (r.offset.getD 0 < Decimal.twoTo 64 → (start : Int) = r.offset.getD 0) ∧
    (r.limit.getD defaultLimit < Decimal.twoTo 64 → (size : Int) = r.limit.getD defaultLimit)

section Answers

variable {s : SearchIndex} {index : String} {docs : Documents} {r : SearchRequest}
  {defaultLimit : Nat}

/-- The documents that the query of a plain request matches are those that meet the request. -/
theorem filter_matcher_of_plain (hs : Text.startsWith s.suffix "." = true) (h : r.Plain) :
    (docs.filter fun p => (r.toQuery s.suffix).holds s.suffix (.obj p.2)) =
      docs.filter fun p => r.IsMetBy byEachTest s.suffix (.obj p.2) := by
  refine List.filter_congr fun p _ => ?_
  rw [Bool.eq_iff_iff, SearchRequest.holds_toQuery hs h, decide_eq_true_iff]

theorem answersBy_of_plain {maxLimit : Nat} {answer : Json}
    (hs : Text.startsWith s.suffix "." = true) (hd : s.documents? index = some docs)
    (hc : r.check maxLimit = .ok ()) (h : r.Plain)
    (ha : s.search index (r.body s.suffix defaultLimit) = .ok answer) :
    s.AnswersBy byEachTest index docs r defaultLimit := by
  have hn := SearchRequest.nodup_facets hc
  obtain ⟨matched, hm, hfilter⟩ := Search.exists_hits_of_plain hs h docs
  have hanswer := ha
  rw [search_of_hits hn hd hm] at hanswer
  obtain ⟨found, counts, hfound, -, rfl⟩ := Search.answerTo_eq_ok.1 hanswer
  have hshows := Search.shows_body r s.suffix index defaultLimit found (Search.aggregated r counts)
  obtain ⟨hlimit, hoffset⟩ := SearchRequest.bounds_of_check hc
  refine ⟨found, _, _, _, ?_, ha, hshows, fun ho => ?_, fun hl => ?_⟩
  · rw [← filter_matcher_of_plain hs h, ← hfilter]
    exact (SearchRequest.perm_of_arrange hfound).map _
  · rw [SearchRequest.start, Json.u64?_ofInt hoffset ho, Option.getD_some,
      Int.toNat_of_nonneg hoffset]
  · rw [SearchRequest.size]
    cases hm : r.limit with
    | none =>
      rw [hm] at hl
      have hfits : defaultLimit < Decimal.twoTo 64 := Int.ofNat_lt.1 hl
      rw [Option.map_none, Option.getD_none, Json.u64?_ofNat hfits]
      rfl
    | some limit =>
      have hpos : 0 ≤ limit := Int.le_of_lt (hlimit limit hm)
      rw [hm] at hl
      have hlt : limit < Decimal.twoTo 64 := hl
      have hfits : limit.toNat < Decimal.twoTo 64 := by omega
      rw [Option.map_some, Option.getD_some, wrapU64_of_lt hpos hlt, Json.u64?_ofNat hfits,
        Option.getD_some, Int.toNat_of_nonneg hpos, Option.getD_some]

/-- An answer counts its hits, so two readings that both give it select equally many documents. -/
theorem AnswersBy.length_eq {reading reading' : Reading}
    (h : s.AnswersBy reading index docs r defaultLimit)
    (h' : s.AnswersBy reading' index docs r defaultLimit) :
    (docs.filter fun p => r.IsMetBy reading s.suffix (.obj p.2)).length =
      (docs.filter fun p => r.IsMetBy reading' s.suffix (.obj p.2)).length := by
  obtain ⟨found, _, _, answer, hp, ha, hshows, -⟩ := h
  obtain ⟨found', _, _, answer', hp', ha', hshows', -⟩ := h'
  obtain rfl : answer = answer' := Except.ok.inj (ha.symm.trans ha')
  have htotal : Json.ofNat found.length = Json.ofNat found'.length :=
    Option.some.inj (hshows.total.symm.trans hshows'.total)
  have hlength : (found.length : Int) = found'.length := by
    simpa only [Json.ofNat, Json.num.injEq, Number.int.injEq] using htotal
  rw [← hp.length_eq, ← hp'.length_eq, List.length_map, List.length_map, Int.ofNat_inj.1 hlength]

/-- A request whose filter was read and asks for no end of a text, and whose texts are looked for
in no field named like the boost, is answered by its meaning if it passes its check, or the search
is broken off.  It is answered if the documents that meet it can be put in order and counted. -/
theorem answers_byEachTest {maxLimit : Nat} (hs : Text.startsWith s.suffix "." = true)
    (hd : s.documents? index = some docs) (hc : r.check maxLimit = .ok ())
    (hf : ∀ f ∈ r.filters, (∃ v, Filter.ofJson v = .ok f) ∧ f.NoEnd)
    (hq : "boost" ∉ r.queryFields) (hz : "boost" ∉ Assoc.keys r.fuzzy) :
    (s.AnswersBy byEachTest index docs r defaultLimit ∨
      ∃ p, s.search index (r.body s.suffix defaultLimit) = .error (.panicked p)) ∧
    (r.Orderly s.suffix
        ((docs.filter fun p => r.IsMetBy byEachTest s.suffix (.obj p.2)).map Prod.snd) →
      s.AnswersBy byEachTest index docs r defaultLimit) := by
  have hplain := SearchRequest.plain_of_read hf hq hz
  have hn := SearchRequest.nodup_facets hc
  obtain ⟨matched, hm, -⟩ := Search.exists_hits_of_plain hs hplain docs
  constructor
  · have hpanics := Search.onlyPanics_answerTo r s.suffix index defaultLimit matched
    rw [← search_of_hits hn hd hm] at hpanics
    exact hpanics.cases.imp_left fun ⟨_, ha⟩ => answersBy_of_plain hs hd hc hplain ha
  · intro horderly
    rw [← filter_matcher_of_plain hs hplain] at horderly
    have hanswerable : s.Answerable index r := by
      rwa [Answerable, matching_eq hd, SearchRequest.matcher_of_plain hs hplain]
    obtain ⟨answer, ha⟩ := hanswerable.exists_search hn hd hm defaultLimit
    exact answersBy_of_plain hs hd hc hplain ha

end Answers

/-! ### A field with two values -/

/-- A document with two values in one field. -/
def twoValues : Record := [("f", .arr [.str "a1", .str "z1"])]

/-- An index with one document. -/
def oneDocument : SearchIndex := ⟨".raw", [("docs", [("1", twoValues)])]⟩

/-- A request for a value above one text and for a start. -/
def boundAndStart : SearchRequest :=
  { SearchRequest.empty with
    filters := some ⟨[("f", .operators ⟨[(.above, .str "m")], [(.startsWith, "a")]⟩)], []⟩ }

theorem boundAndStart_filters :
    ∀ f ∈ boundAndStart.filters, (∃ v, Filter.ofJson v = .ok f) ∧ f.NoEnd := by
  intro f hf
  obtain rfl := Option.some.inj hf
  refine ⟨⟨.obj [("f", .obj [(">", .str "m"), ("startsWith", .str "a")])], rfl⟩, ?_⟩
  intro p hp q hq
  rw [List.mem_singleton.1 hp] at hq
  rw [List.mem_singleton.1 hq]
  decide

theorem answers_boundAndStart :
    oneDocument.AnswersBy byEachTest "docs" [("1", twoValues)] boundAndStart 10 :=
  (answers_byEachTest (by decide) rfl (show boundAndStart.check 100 = .ok () from rfl)
    boundAndStart_filters (by decide) (by decide)).2 (SearchRequest.orderly_of_nil rfl rfl _ _)

/-- One value is above the bound and another one has the start, so the document is found, although
no value of it meets both. -/
theorem not_answers_byOneValue :
    Text.startsWith oneDocument.suffix "." = true ∧
      oneDocument.documents? "docs" = some [("1", twoValues)] ∧
      boundAndStart.check 100 = .ok () ∧
      (∀ f ∈ boundAndStart.filters, (∃ v, Filter.ofJson v = .ok f) ∧ f.NoEnd) ∧
      "boost" ∉ boundAndStart.queryFields ∧ "boost" ∉ Assoc.keys boundAndStart.fuzzy ∧
      ¬ oneDocument.AnswersBy byOneValue "docs" [("1", twoValues)] boundAndStart 10 := by
  refine ⟨by decide, rfl, rfl, boundAndStart_filters, by decide, by decide, fun h => ?_⟩
  have hplain : boundAndStart.Plain :=
    SearchRequest.plain_of_read boundAndStart_filters (by decide) (by decide)
  obtain ⟨answer, ha⟩ : ∃ answer, oneDocument.search "docs"
      (boundAndStart.body oneDocument.suffix 10) = .ok answer := ⟨_, rfl⟩
  have heach : oneDocument.AnswersBy byEachTest "docs" [("1", twoValues)] boundAndStart 10 :=
    answersBy_of_plain (by decide) rfl (show boundAndStart.check 100 = .ok () from rfl) hplain ha
  have hne : ¬ ([("1", twoValues)].filter fun p =>
        boundAndStart.IsMetBy byOneValue oneDocument.suffix (.obj p.2)).length =
      ([("1", twoValues)].filter fun p =>
        boundAndStart.IsMetBy byEachTest oneDocument.suffix (.obj p.2)).length := by
    decide +kernel
  exact hne (h.length_eq heach)

end SearchIndex

end Polystore
