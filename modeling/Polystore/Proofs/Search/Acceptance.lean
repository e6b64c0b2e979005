import Polystore.Proofs.Search.Narrowing
import Polystore.Proofs.Search.Orderly
import Polystore.Proofs.Search.Unweighted

/-!
# Which requests the index accepts

A request that passes its check is accepted, whatever its fields, operands and boosts are and
whatever the documents of the index hold, with one exception.  A text that is looked for in a field
stands in its clause under the name of the field.  If that name is the word for the boost, the
clause is read back as one without a field, and a document that the evaluation takes to this clause
stops the search.  No other fault can show:

    (∃ fault, s.search index (r.body s.suffix defaultLimit) = .error (.refused fault)) ↔
      ∃ p ∈ docs, r.ReachesBoost s.suffix (.obj p.2)                    (search_body_of_check)

A request that is accepted is answered if the documents that match can be put in order and counted.

The clauses of a combination are evaluated in order, and the first one that decides against the
document ends it, so a clause is reached by the documents that match all clauses before it.
-/

namespace Polystore

/-! ## Faults of clauses -/

namespace Query

variable {suffix : String} {doc : Json} {q : Query} {qs : List Query} {e : QueryFault}

theorem decides_eq_error : q.decides suffix doc = .error e ↔ q.score suffix doc = .error e :=
  Outcome.map_eq_error

theorem WellFormed.decides_eq (h : q.WellFormed) (suffix : String) (doc : Json) :
    q.decides suffix doc = .ok (q.holds suffix doc) :=
  decides_eq_ok.2 ⟨h.runs suffix doc, rfl⟩

/-- A list of clauses behind another one is evaluated if the first one matches. -/
theorem allMatch_append (qs qs' : List Query) :
    allMatch suffix (qs ++ qs') doc =
      allMatch suffix qs doc >>= fun b => if b then allMatch suffix qs' doc else .ok false := by
  induction qs with
  | nil => rfl
  | cons q qs ih =>
    rw [List.cons_append, allMatch_cons, allMatch_cons, ih]
    rcases q.decides suffix doc with e | _ | _
    · rfl
    · rfl
    · rfl

/-- Optional clauses are all evaluated, so a fault of one of them shows. -/
theorem shouldScore_eq_error (h : ∀ q ∈ qs, q.Runs suffix doc ∨ q.score suffix doc = .error e)
    (he : ∃ q ∈ qs, q.score suffix doc = .error e) (count : Nat) (total : Float) :
    shouldScore suffix qs doc count total = .error e := by
  induction qs generalizing count total with
  | nil =>
    obtain ⟨q, hq, -⟩ := he
    exact absurd hq List.not_mem_nil
  | cons q qs ih =>
    obtain ⟨hq, hqs⟩ := List.forall_mem_cons.1 h
    rw [shouldScore]
    rcases hq with ⟨o, ho⟩ | hq
    · have hrest : ∃ p ∈ qs, p.score suffix doc = .error e :=
        (List.exists_mem_cons_iff _ _ _).1 he |>.resolve_left (by simp [ho])
      rw [ho]
      cases o with
      | none => exact ih hqs hrest count total
      | some s => exact ih hqs hrest (count + 1) (total + s)
    · rw [hq]
      rfl

/-- A fault of an alternative is a fault of the group. -/
theorem decides_anyOf_error (h : ∀ q ∈ qs, q.Runs suffix doc ∨ q.score suffix doc = .error e)
    (he : ∃ q ∈ qs, q.score suffix doc = .error e) :
    (anyOf qs).decides suffix doc = .error e := by
  rw [anyOf, decides_bool, countMatch, shouldScore_eq_error h he]
  rfl

/-! ### Words in a field -/

/-- A text looked for in a field named like the boost is read back without a field. -/
theorem readBack_fuzzy_boost (text : String) (boost : Option Number) :
    (fuzzy "boost" text boost).readBack = malformed .noField :=
  ofJson_onField_boost (by decide) _

theorem score_readBack_fuzzy (field text : String) (boost : Option Number) :
    (fuzzy field text boost).readBack.Runs suffix doc ∨
      (fuzzy field text boost).readBack.score suffix doc = .error .noField := by
  by_cases hf : field = "boost"
  · subst hf
    rw [readBack_fuzzy_boost]
    exact .inr rfl
  · have hw : (fuzzy field text boost).WellFormed := wellFormed_fuzzy hf text boost
    rw [hw.readBack_eq]
    exact .inl (hw.runs suffix doc)

end Query

/-! ## Faults of searches -/

/-- A search looks at every document, so a fault of its query on one of them shows. -/
theorem Search.hits_eq_error {q : Query} {suffix : String} {docs : Documents} {e : QueryFault}
    (h : ∀ p ∈ docs, q.Runs suffix (.obj p.2) ∨ q.score suffix (.obj p.2) = .error e)
    (he : ∃ p ∈ docs, q.score suffix (.obj p.2) = .error e) :
    hits suffix q docs = .error e := by
  induction docs with
  | nil =>
    obtain ⟨p, hp, -⟩ := he
    exact absurd hp List.not_mem_nil
  | cons p docs ih =>
    obtain ⟨hp, hps⟩ := List.forall_mem_cons.1 h
    rw [hits]
    rcases hp with ⟨o, ho⟩ | hp
    · have hrest : ∃ p ∈ docs, q.score suffix (.obj p.2) = .error e :=
        (List.exists_mem_cons_iff _ _ _).1 he |>.resolve_left (by simp [ho])
      rw [ho, ih hps hrest]
      rfl
    · rw [hp]
      rfl

/-! ## Requests -/

/-- The evaluation of entries of words on a document comes to one on a field named like the boost:
the document has words like those of all entries before it. -/
inductive BoostReached (suffix : String) (doc : Json) : List (String × String) → Prop where
  | here (text : String) (entries : List (String × String)) :
      BoostReached suffix doc (("boost", text) :: entries)
  | later {field text : String} {entries : List (String × String)} :
      SharesWord text (fieldTexts suffix field doc) → BoostReached suffix doc entries →
      BoostReached suffix doc ((field, text) :: entries)

namespace SearchRequest

/-- The request with nothing but its free text. -/
def freeText (r : SearchRequest) : SearchRequest :=
  { empty with query := r.query, queryFields := r.queryFields }

/-- The evaluation of the request on a document comes to a clause that looks for a text in a field
named like the boost.  The free text comes first, and all its fields are looked at. -/
inductive ReachesBoost (r : SearchRequest) (suffix : String) (doc : Json) : Prop where
  | inQuery : r.query ≠ none → "boost" ∈ r.queryFields → ReachesBoost r suffix doc
  | inFuzzy : r.freeText.IsMetBy byEachTest suffix doc → BoostReached suffix doc r.fuzzy →
      ReachesBoost r suffix doc

variable {r : SearchRequest} {suffix : String} {doc : Json}

/-! ### The free text -/

theorem isMetBy_freeText {reading : Reading} :
    r.freeText.IsMetBy reading suffix doc ↔
      ∀ text ∈ r.query, (r.queryFields = [] → SharesWord text doc.strings) ∧
        (r.queryFields ≠ [] →
          ∃ field ∈ r.queryFields, SharesWord text (fieldTexts suffix field doc)) := by
  rw [isMetBy_iff]
  simp only [freeText, empty, Option.mem_def, reduceCtorEq, List.not_mem_nil, false_implies,
    implies_true, true_and]
  exact ⟨fun h text ht => ⟨h.1 text ht, h.2 text ht⟩,
    fun h => ⟨fun text ht => (h text ht).1, fun text ht => (h text ht).2⟩⟩

/-- The clause of the free text, if there is one. -/
def textClauses (r : SearchRequest) : List Query := (r.query.map r.textQuery).toList

theorem allMatch_textClauses_error (hq : r.query ≠ none) (hb : "boost" ∈ r.queryFields) :
    Query.allMatch suffix (r.textClauses.map Query.readBack) doc = .error .noField := by
  obtain ⟨text, ht⟩ := Option.ne_none_iff_exists'.1 hq
  have hne : ¬ r.queryFields.isEmpty = true :=
    mt List.isEmpty_iff.1 (List.ne_nil_of_mem hb)
  have hback : (r.textQuery text).readBack =
      .anyOf ((r.queryFields.map fun f => Query.fuzzy f text (r.boostOf f)).map
        Query.readBack) := by
    rw [textQuery, if_neg hne, Query.anyOf, Query.readBack_bool (by simp; decide)]
    rfl
  have hdecides : (r.textQuery text).readBack.decides suffix doc = .error .noField := by
    rw [hback]
    refine Query.decides_anyOf_error ?_ ?_
    · rw [List.map_map, List.forall_mem_map]
      exact fun field _ => Query.score_readBack_fuzzy field text (r.boostOf field)
    · refine ⟨_, List.mem_map_of_mem (List.mem_map_of_mem hb), ?_⟩
      rw [Query.readBack_fuzzy_boost]
      rfl
  rw [textClauses, ht]
  show Query.allMatch suffix [(r.textQuery text).readBack] doc = _
  rw [Query.allMatch_cons, hdecides]
  rfl

theorem allMatch_textClauses (h : r.query ≠ none → "boost" ∉ r.queryFields) (suffix : String)
    (doc : Json) :
    ∃ b, Query.allMatch suffix (r.textClauses.map Query.readBack) doc = .ok b ∧
      (b = true ↔ r.freeText.IsMetBy byEachTest suffix doc) := by
  rw [isMetBy_freeText, textClauses]
  cases ht : r.query with
  | none => exact ⟨true, rfl, by simp⟩
  | some text =>
    have hf : ∀ field ∈ r.queryFields, field ≠ "boost" := by
      rintro field hm rfl
      exact h (by simp [ht]) hm
    have hw : (r.textQuery text).WellFormed := wellFormed_textQuery hf text
    refine ⟨(r.textQuery text).holds suffix doc, ?_, ?_⟩
    · show Query.allMatch suffix [(r.textQuery text).readBack] doc = _
      rw [Query.allMatch_cons, hw.readBack_eq, hw.decides_eq]
      cases (r.textQuery text).holds suffix doc with
      | false => rfl
      | true => rfl
    · rw [holds_textQuery hf]
      simp

/-! ### Fields that resemble a text -/

/-- The clauses of entries of words, with boosts for their fields. -/
def fuzzyClauses (boostOf : String → Option Number) (entries : List (String × String)) :
    List Query := entries.map fun p => .fuzzy p.1 p.2 (boostOf p.1)

variable {boostOf : String → Option Number} {entries : List (String × String)}

theorem allMatch_fuzzyClauses_error (h : BoostReached suffix doc entries) :
    Query.allMatch suffix ((fuzzyClauses boostOf entries).map Query.readBack) doc =
      .error .noField := by
  induction h with
  | here text entries =>
    show Query.allMatch suffix ((Query.fuzzy "boost" text _).readBack :: _) doc = _
    rw [Query.allMatch_cons, Query.readBack_fuzzy_boost]
    rfl
  | @later field text entries hm _ ih =>
    show Query.allMatch suffix ((Query.fuzzy field text _).readBack :: _) doc = _
    rw [Query.allMatch_cons]
    by_cases hf : field = "boost"
    · subst hf
      rw [Query.readBack_fuzzy_boost]
      rfl
    · have hw := Query.wellFormed_fuzzy hf text (boostOf field)
      rw [hw.readBack_eq, hw.decides_eq, (Query.holds_fuzzy _).2 hm]
      exact ih

theorem allMatch_fuzzyClauses (boostOf : String → Option Number)
    (h : ¬ BoostReached suffix doc entries) :
    ∃ b, Query.allMatch suffix ((fuzzyClauses boostOf entries).map Query.readBack) doc =
      .ok b := by
  induction entries with
  | nil => exact ⟨true, rfl⟩
  | cons p entries ih =>
    obtain ⟨field, text⟩ := p
    have hf : field ≠ "boost" := by
      rintro rfl
      exact h (.here text entries)
    have hw := Query.wellFormed_fuzzy hf text (boostOf field)
    show ∃ b, Query.allMatch suffix ((Query.fuzzy field text _).readBack :: _) doc = .ok b
    rw [Query.allMatch_cons, hw.readBack_eq, hw.decides_eq]
    cases hm : (Query.fuzzy field text (boostOf field)).holds suffix doc with
    | false => exact ⟨false, rfl⟩
    | true => exact ih fun hr => h (.later ((Query.holds_fuzzy _).1 hm) hr)

/-! ### The whole query -/

/-- The clauses that have to match: the free text, the entries of words, and what looks for no
words. -/
theorem allMatch_mustQueries (r : SearchRequest) (suffix : String) (doc : Json) :
    Query.allMatch suffix ((r.mustQueries suffix).map Query.readBack) doc =
      Query.allMatch suffix (r.textClauses.map Query.readBack) doc >>= fun b =>
        if b then
          Query.allMatch suffix ((fuzzyClauses r.boostOf r.fuzzy).map Query.readBack) doc >>=
            fun b' =>
              if b' then
                Query.allMatch suffix ((r.wordlessQueries suffix).map Query.readBack) doc
              else .ok false
        else .ok false := by
  rw [mustQueries_eq, List.append_assoc, List.map_append, List.map_append, Query.allMatch_append,
    Query.allMatch_append]
  rfl

theorem decides_matcher_of_reachesBoost (h : r.ReachesBoost suffix doc) :
    (r.matcher suffix).decides suffix doc = .error .noField := by
  have hmust : Query.allMatch suffix ((r.mustQueries suffix).map Query.readBack) doc =
      .error .noField := by
    rw [allMatch_mustQueries]
    by_cases hq : r.query ≠ none ∧ "boost" ∈ r.queryFields
    · rw [allMatch_textClauses_error hq.1 hq.2]
      rfl
    · cases h with
      | inQuery hn hb => exact absurd ⟨hn, hb⟩ hq
      | inFuzzy hm hr =>
        obtain ⟨b, hb, hmet⟩ := allMatch_textClauses (fun hn hb => hq ⟨hn, hb⟩) suffix doc
        obtain rfl := hmet.2 hm
        rw [hb, allMatch_fuzzyClauses_error hr]
        rfl
  rw [decides_matcher, Query.decides_conditions, hmust]
  rfl

theorem runs_matcher (hs : Text.startsWith suffix "." = true) (hf : ∀ f ∈ r.filters, f.EndsFit)
    (h : ¬ r.ReachesBoost suffix doc) : (r.matcher suffix).Runs suffix doc := by
  have hwordless : ∃ b,
      Query.allMatch suffix ((r.wordlessQueries suffix).map Query.readBack) doc = .ok b := by
    have hw := wellFormed_wordlessQueries hs hf
    rw [Query.map_readBack fun q hq => (hw q hq).readBack_eq]
    exact ⟨_, Query.allMatch_eq fun q hq => (hw q hq).runs suffix doc⟩
  have hmust : ∃ b,
      Query.allMatch suffix ((r.mustQueries suffix).map Query.readBack) doc = .ok b := by
    obtain ⟨b, hb, hmet⟩ := allMatch_textClauses (fun hn hb => h (.inQuery hn hb)) suffix doc
    rw [allMatch_mustQueries, hb]
    cases b with
    | false => exact ⟨false, rfl⟩
    | true =>
      obtain ⟨b', hb'⟩ := allMatch_fuzzyClauses r.boostOf
        fun hr => h (.inFuzzy (hmet.1 rfl) hr)
      show ∃ b, (Query.allMatch suffix _ doc >>= fun b' => _) = .ok b
      rw [hb']
      cases b' with
      | false => exact ⟨false, rfl⟩
      | true => exact hwordless
  have hnot : ∃ b,
      Query.noneMatch suffix (r.mustNotQueries.map Query.readBack) doc = .ok b := by
    have hw := wellFormed_mustNotQueries (r := r)
    rw [Query.map_readBack fun q hq => (hw q hq).readBack_eq]
    exact ⟨_, Query.noneMatch_eq fun q hq => (hw q hq).runs suffix doc⟩
  obtain ⟨b, hb⟩ := hmust
  obtain ⟨b', hb'⟩ := hnot
  have hdecides : ∃ b, (r.matcher suffix).decides suffix doc = .ok b := by
    rw [decides_matcher, Query.decides_conditions, hb]
    cases b with
    | false => exact ⟨false, rfl⟩
    | true => exact ⟨b', hb'⟩
  obtain ⟨b, hb⟩ := hdecides
  exact (Query.decides_eq_ok.1 hb).1

end SearchRequest

/-! ## Searches -/

namespace SearchIndex

variable {s : SearchIndex} {index : String} {docs : Documents} {r : SearchRequest}
  {defaultLimit : Nat}

/-- A document that takes the evaluation to a field named like the boost stops the search. -/
theorem search_body_of_reachesBoost (hs : Text.startsWith s.suffix "." = true)
    (hd : s.documents? index = some docs) (hn : (r.facets.map FacetRequest.field).Nodup)
    (hf : ∀ f ∈ r.filters, f.EndsFit) (h : ∃ p ∈ docs, r.ReachesBoost s.suffix (.obj p.2))
    (defaultLimit : Nat) :
    s.search index (r.body s.suffix defaultLimit) = .error (.refused (.query .noField)) := by
  have hhits : Search.hits s.suffix (r.matcher s.suffix) docs = .error .noField := by
    refine Search.hits_eq_error (fun p _ => ?_) ?_
    · by_cases hr : r.ReachesBoost s.suffix (.obj p.2)
      · exact .inr (Query.decides_eq_error.1 (SearchRequest.decides_matcher_of_reachesBoost hr))
      · exact .inl (SearchRequest.runs_matcher hs hf hr)
    · obtain ⟨p, hp, hr⟩ := h
      exact ⟨p, hp,
        Query.decides_eq_error.1 (SearchRequest.decides_matcher_of_reachesBoost hr)⟩
  rw [search_body hn hd, hhits]
  rfl

/-- A request that passes its check is accepted unless some document takes the evaluation to a field
named like the boost; then the search fails since that clause is read back without a field.  A
request that is accepted is answered if the documents that match can be put in order and counted. -/
theorem search_body_of_check {maxLimit : Nat} (hs : Text.startsWith s.suffix "." = true)
    (hd : s.documents? index = some docs) (hc : r.check maxLimit = .ok ())
    (hf : ∀ f ∈ r.filters, f.EndsFit) (defaultLimit : Nat) :
    ((∃ fault, s.search index (r.body s.suffix defaultLimit) = .error (.refused fault)) ↔
      ∃ p ∈ docs, r.ReachesBoost s.suffix (.obj p.2)) ∧
    (∀ fault, s.search index (r.body s.suffix defaultLimit) = .error (.refused fault) →
      fault = .query .noField) ∧
    (s.Answerable index r →
      ((∃ answer, s.search index (r.body s.suffix defaultLimit) = .ok answer) ↔
        ∀ p ∈ docs, ¬ r.ReachesBoost s.suffix (.obj p.2))) := by
  have hn := SearchRequest.nodup_facets hc
  by_cases h : ∃ p ∈ docs, r.ReachesBoost s.suffix (.obj p.2)
  · have he := search_body_of_reachesBoost hs hd hn hf h defaultLimit
    rw [he]
    refine ⟨iff_of_true ⟨_, rfl⟩ h, fun fault hfault => ?_, fun _ => ?_⟩
    · exact (SearchFault.refused.inj (Except.error.inj hfault)).symm
    · exact iff_of_false (fun ⟨_, ha⟩ => nomatch ha) fun hnone =>
        h.elim fun p ⟨hp, hr⟩ => hnone p hp hr
  · have hnone : ∀ p ∈ docs, ¬ r.ReachesBoost s.suffix (.obj p.2) :=
      fun p hp hr => h ⟨p, hp, hr⟩
    obtain ⟨matched, hm, -⟩ :=
      Search.hits_eq fun p hp => SearchRequest.runs_matcher hs hf (hnone p hp)
    have hpanics := Search.onlyPanics_answerTo r s.suffix index defaultLimit matched
    rw [← search_of_hits hn hd hm] at hpanics
    have hnot : ∀ fault,
        s.search index (r.body s.suffix defaultLimit) ≠ .error (.refused fault) := by
      intro fault hfault
      obtain ⟨p, hp⟩ := hpanics _ hfault
      cases hp
    refine ⟨iff_of_false (fun ⟨fault, hfault⟩ => hnot fault hfault) h,
      fun fault hfault => absurd hfault (hnot fault), fun ha => ?_⟩
    exact iff_of_true (ha.exists_search hn hd hm defaultLimit) hnone

/-! ### A field named like the boost -/

/-- A document with a field named like the boost. -/
def boostDocument : Record := [("id", .str "1"), ("boost", .str "x")]

/-- An index with this document. -/
def boostIndex : SearchIndex := ⟨".raw", [("docs", [("1", boostDocument)])]⟩

/-- A request that names the field in its filter and among those that must have a value, and looks
for its text in another one. -/
def filterOnBoost : SearchRequest :=
  { SearchRequest.empty with
    query := some "x"
    queryFields := ["name"]
    filters := some ⟨[("boost", .operators ⟨[], [(.endsWith, "X")]⟩)], []⟩
    present := ["boost"] }

/-- A request for a text in the field. -/
def textInBoost : SearchRequest :=
  { SearchRequest.empty with query := some "x", queryFields := ["boost"] }

/-- The name is no obstacle in a filter. -/
theorem exists_search_filterOnBoost :
    ∃ answer, boostIndex.search "docs" (filterOnBoost.body boostIndex.suffix 10) = .ok answer := by
  have hends : ∀ f ∈ filterOnBoost.filters, f.EndsFit := by
    rintro _ ⟨⟩ p hp q hq -
    obtain rfl := List.mem_singleton.1 hp
    obtain rfl := List.mem_singleton.1 hq
    decide +kernel
  have hnot : ∀ p ∈ [("1", boostDocument)],
      ¬ filterOnBoost.ReachesBoost boostIndex.suffix (.obj p.2) := by
    rintro p - (⟨-, hb⟩ | ⟨-, hr⟩)
    · exact absurd hb (by decide)
    · exact nomatch hr
  have hd : boostIndex.documents? "docs" = some [("1", boostDocument)] := rfl
  obtain ⟨-, -, hanswered⟩ := search_body_of_check (by decide) hd
    (show filterOnBoost.check 100 = .ok () from rfl) hends 10
  exact (hanswered (SearchRequest.orderly_of_nil rfl rfl _ _)).2 hnot

/-- The document has the text in the field, but the search fails. -/
theorem search_textInBoost :
    Text.startsWith boostIndex.suffix "." = true ∧
      boostIndex.documents? "docs" = some [("1", boostDocument)] ∧
      textInBoost.check 100 = .ok () ∧ textInBoost.filters = none ∧
      SharesWord "x" (fieldTexts boostIndex.suffix "boost" (.obj boostDocument)) ∧
      boostIndex.search "docs" (textInBoost.body boostIndex.suffix 10) =
        .error (.refused (.query .noField)) := by
  refine ⟨by decide, rfl, rfl, rfl, by decide +kernel, ?_⟩
  have hn : (textInBoost.facets.map FacetRequest.field).Nodup := List.nodup_nil
  refine search_body_of_reachesBoost (by decide) rfl hn (by rintro _ ⟨⟩) ?_ 10
  exact ⟨("1", boostDocument), List.mem_cons_self, .inQuery (by decide) (by decide)⟩

end SearchIndex

end Polystore
