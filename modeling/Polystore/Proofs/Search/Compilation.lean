import Mathlib.Data.List.Forall2
import Polystore.Proofs.Search.Clauses
import Polystore.Proofs.Search.Meaning

/-!
# Queries of search requests

The query that a request stands for is well-formed, and it matches the documents that the request
asks for, each test of a criterion passed by some value.

    (r.toQuery suffix).holds suffix doc = true ↔ r.IsMetBy byEachTest suffix doc   (holds_toQuery)
-/

namespace Polystore

/-! ## Clauses on fields -/

namespace Query

/-- A query that looks for a value of a field that passes a test. -/
structure Tests (suffix field : String) (q : Query) (t : Json → Bool) : Prop where
  wellFormed : q.WellFormed
  holds_eq : ∀ doc, q.holds suffix doc = (fieldValues suffix field doc).any t

/-- A query inside a nested scope still looks for a value of its field, if the scope is that of
the field. -/
theorem Tests.nested {suffix field path : String} {q : Query} {t : Json → Bool}
    (hp : nestedPath? field = some path) (h : q.Tests suffix (field ++ suffix) t) :
    (Query.nested path q false).Tests suffix (field ++ suffix) t := by
  obtain ⟨rest, rfl⟩ := exists_of_nestedPath? hp
  refine ⟨.nested h.wellFormed, fun doc => ?_⟩
  rw [holds_nested h.wellFormed]
  simp only [h.holds_eq]
  exact any_objectsAt suffix path rest t doc

theorem all_of_tests {suffix field : String} {qs : List Query} {ts : List (Json → Bool)}
    (h : List.Forall₂ (Tests suffix field) qs ts) (doc : Json) :
    qs.all (holds suffix doc) = ts.all fun t => (fieldValues suffix field doc).any t := by
  induction h with
  | nil => rfl
  | cons hq _ ih => rw [List.all_cons, List.all_cons, ih, hq.holds_eq]

end Query

/-! ## Criteria -/

namespace Operators

/-- Without two bounds on one side no bound stands twice. -/
theorem nodup_of_boundConflict? {bounds : List (Bound × Json)}
    (h : boundConflict? bounds = none) : (Assoc.keys bounds).Nodup := by
  induction bounds with
  | nil => exact List.nodup_nil
  | cons p bounds ih =>
    obtain ⟨b, v⟩ := p
    unfold boundConflict? at h
    split at h
    · exact absurd h (by simp)
    · next hf =>
      refine List.nodup_cons.2 ⟨fun hm => ?_, ih h⟩
      obtain ⟨q, hq, he⟩ := List.mem_map.1 hm
      exact List.find?_eq_none.1 hf q hq (by rw [he]; exact beq_self_eq_true _)

theorem Sound.rangeBounds_eq {ops : Operators} (h : ops.Sound) : ops.rangeBounds = ops.bounds :=
  Assoc.ofList_of_nodup (nodup_of_boundConflict? h.no_boundConflict)

end Operators

namespace Criterion

variable {suffix field : String}

/-- The criterion asks for no end of a text. -/
def NoEnd (c : Criterion) : Prop := ∀ p ∈ c.affixes, p.1 ≠ Affix.endsWith

theorem NoEnd.endsFit {c : Criterion} (h : c.NoEnd) : c.EndsFit :=
  fun p hp he => absurd he (h p hp)

theorem tests_affixes (hf : field ≠ "boost") (boost : Option Number)
    {affixes : List (Affix × String)} (h : ∀ p ∈ affixes, p.1 ≠ Affix.endsWith) :
    List.Forall₂ (Query.Tests suffix field) (affixes.map fun p => p.1.query field p.2 boost)
      (affixes.map fun p v => p.1.isMetBy p.2 v) := by
  induction affixes with
  | nil => exact .nil
  | cons p affixes ih =>
    obtain ⟨hp, hps⟩ := List.forall_mem_cons.1 h
    obtain ⟨a, text⟩ := p
    refine .cons ?_ (ih hps)
    cases a with
    | startsWith =>
      refine ⟨.start hf, fun doc => ?_⟩
      exact Query.holds_start field (Text.lower text) boost
    | endsWith => exact absurd rfl hp

/-- A criterion has one clause for each test. -/
theorem tests_queries {c : Criterion} (hc : c.Sound) (he : c.NoEnd) (hf : field ≠ "boost")
    (boost : Option Number) :
    List.Forall₂ (Query.Tests suffix field) (c.queries field boost) c.tests := by
  cases c with
  | scalar w => exact .cons ⟨.term hf, fun doc => Query.holds_term _ _ _⟩ .nil
  | list ws => exact .cons ⟨.terms hf, fun doc => Query.holds_terms _ _ _⟩ .nil
  | operators ops =>
    have hn : (Assoc.keys ops.bounds).Nodup :=
      Operators.nodup_of_boundConflict? hc.no_boundConflict
    show List.Forall₂ _ (ops.queries field boost) _
    unfold Operators.queries
    rw [hc.rangeBounds_eq]
    unfold tests
    dsimp only
    split
    · exact tests_affixes hf boost he
    · refine .cons ⟨.range hf hn, fun doc => ?_⟩ (tests_affixes hf boost he)
      rw [Query.holds_range]
      rfl

end Criterion

/-! ## Entries -/

namespace Filter

variable {suffix : String}

/-- The clauses of an entry look for values in the untokenized sub-field. -/
theorem tests_entryQueries (hs : Text.startsWith suffix "." = true) {c : Criterion} (hc : c.Sound)
    (he : c.NoEnd) (boost : Option Number) (field : String) :
    List.Forall₂ (Query.Tests suffix (field ++ suffix)) (entryQueries suffix boost field c)
      c.tests := by
  have h : List.Forall₂ (Query.Tests suffix (field ++ suffix))
      (c.queries (field ++ suffix) boost) c.tests :=
    Criterion.tests_queries hc he (append_ne_boost hs field) boost
  unfold entryQueries
  cases hp : nestedPath? field with
  | none => exact h
  | some path =>
    dsimp only
    rw [List.forall₂_map_left_iff]
    exact h.imp fun q t hq => hq.nested hp

/-- The clauses of an entry match if each test is passed by some value of the field. -/
theorem all_entryQueries (hs : Text.startsWith suffix "." = true) {c : Criterion} (hc : c.Sound)
    (he : c.NoEnd) (boost : Option Number) (field : String) (doc : Json) :
    (entryQueries suffix boost field c).all (Query.holds suffix doc) =
      byEachTest (doc.valuesAt field) c := by
  rw [Query.all_of_tests (tests_entryQueries hs hc he boost field) doc, byEachTest,
    fieldValues_append (ne_empty_of_startsWith hs)]
  simp only [List.any_map, Function.comp_def]

end Filter

/-! ## Groups of clauses -/

namespace Query

variable {suffix : String} {doc : Json} {qs : List Query}

theorem holds_allOf (h : ∀ q ∈ qs, q.WellFormed) :
    (allOf qs).holds suffix doc = qs.all (holds suffix doc) := by
  have hw := wellFormed_allOf h
  unfold allOf at hw ⊢
  split at hw
  · rw [List.all_cons, List.all_nil, Bool.and_true]
  · rw [holds_bool hw]
    simp [defaultMinimum]

theorem holds_anyOf (h : ∀ q ∈ qs, q.WellFormed) :
    (anyOf qs).holds suffix doc = qs.any (holds suffix doc) := by
  have hw := wellFormed_anyOf h
  unfold anyOf at hw ⊢
  rw [holds_bool hw, Bool.eq_iff_iff]
  simp [Nat.succ_le_iff, List.countP_pos_iff]

/-- Clauses that have to match and clauses that must not, without any optional one. -/
theorem holds_conditions {must mustNot : List Query}
    (hw : (bool must [] mustNot [] none none).WellFormed) :
    (bool must [] mustNot [] none none).holds suffix doc =
      (must.all (holds suffix doc) && !mustNot.any (holds suffix doc)) := by
  rw [holds_bool hw]
  simp [defaultMinimum]

end Query

/-! ## Words -/

/-- Some word matches if the text shares one with the values. -/
theorem matchedWords_pos {values : List String} {text : String} :
    0 < matchedWords values text .auto true ↔ SharesWord text values := by
  unfold matchedWords SharesWord
  simp only [List.countP_pos_iff, List.any_eq_true, List.mem_map, decide_eq_true_eq,
    Text.editDistance_eq_edits]
  constructor
  · rintro ⟨_, ⟨w, hw, rfl⟩, _, ⟨v, hv, rfl⟩, he⟩
    exact ⟨w, hw, v, hv, he⟩
  · rintro ⟨w, hw, v, hv, he⟩
    exact ⟨w.toList, ⟨w, hw, rfl⟩, v.toList, ⟨v, hv, rfl⟩, he⟩

theorem textsOf_everywhere (suffix : String) (doc : Json) :
    textsOf suffix ["*"] doc = doc.strings := by
  unfold textsOf
  rw [List.flatMap_cons, if_pos rfl, List.flatMap_nil, List.append_nil]

namespace Query

variable {suffix : String} {doc : Json} {field text : String}

theorem holds_fuzzy (boost : Option Number) :
    (fuzzy field text boost).holds suffix doc = true ↔
      SharesWord text (fieldTexts suffix field doc) := by
  rw [fuzzy, holds_words, decide_eq_true_iff, matchedWords_pos]
  rfl

end Query

/-! ## Requests -/

/-- The filter asks for no end of a text. -/
def Filter.NoEnd (f : Filter) : Prop := ∀ p ∈ f.entries ++ f.anyOf, p.2.NoEnd

theorem Filter.NoEnd.endsFit {f : Filter} (h : f.NoEnd) : f.EndsFit := fun p hp => (h p hp).endsFit

namespace SearchRequest

/-- A request whose query says what the request says: its filter was read and asks for no end of a
text, and its texts are looked for in no field named like the boost. -/
structure Plain (r : SearchRequest) : Prop where
  filters : ∀ f ∈ r.filters, f.Sound ∧ f.NoEnd
  queryFields : ∀ field ∈ r.queryFields, field ≠ "boost"
  fuzzy : ∀ p ∈ r.fuzzy, p.1 ≠ "boost"

variable {suffix : String} {doc : Json} {r : SearchRequest}

theorem Plain.readable (h : r.Plain) : r.Readable :=
  ⟨fun f hf => (h.filters f hf).2.endsFit, fun _ => h.queryFields, h.fuzzy⟩

/-! ### Single clauses -/

theorem holds_textQuery (h : ∀ field ∈ r.queryFields, field ≠ "boost") (text : String) :
    (r.textQuery text).holds suffix doc = true ↔
      (r.queryFields = [] → SharesWord text doc.strings) ∧
        (r.queryFields ≠ [] →
          ∃ field ∈ r.queryFields, SharesWord text (fieldTexts suffix field doc)) := by
  have hw := wellFormed_textQuery h text
  unfold textQuery at hw ⊢
  by_cases he : r.queryFields = []
  · rw [if_pos (List.isEmpty_iff.2 he), Query.holds_wordsIn, decide_eq_true_iff,
      matchedWords_pos, textsOf_everywhere]
    exact ⟨fun hs => ⟨fun _ => hs, fun hn => absurd he hn⟩, fun hs => hs.1 he⟩
  · rw [if_neg (mt List.isEmpty_iff.1 he), Query.holds_anyOf, List.any_map, List.any_eq_true]
    · simp only [Function.comp_apply, Query.holds_fuzzy]
      exact ⟨fun hs => ⟨fun hn => absurd hn he, fun _ => hs⟩, fun hs => hs.2 he⟩
    · intro q hq
      obtain ⟨field, hf, rfl⟩ := List.mem_map.1 hq
      exact Query.wellFormed_fuzzy (h field hf) _ _

theorem holds_presence (field : String) :
    (r.presence field).holds suffix doc = true ↔ fieldValues suffix field doc ≠ [] := by
  rw [presence, Query.holds_hasValue, Bool.not_eq_true', Bool.eq_false_iff, ne_eq,
    List.isEmpty_iff]

theorem holds_nestedPresence (p : String × String) :
    (r.nestedPresence p).holds suffix doc = true ↔ HasNested suffix p.1 p.2 doc := by
  rw [nestedPresence, Query.holds_nested (wellFormed_presence p.1), List.any_eq_true]
  simp only [holds_presence]
  rfl

/-! ### The filter -/

/-- The clauses of a filter match the documents that meet it. -/
theorem all_filterQueries (hs : Text.startsWith suffix "." = true) {f : Filter}
    (hf : f.Sound) (he : f.NoEnd) :
    (r.filterQueries suffix f).all (Query.holds suffix doc) = true ↔
      f.IsMetBy byEachTest doc := by
  have hentries : ∀ p ∈ f.entries, (r.entryQueries suffix p).all (Query.holds suffix doc) =
      byEachTest (doc.valuesAt p.1) p.2 := fun p hp =>
    Filter.all_entryQueries hs (hf.entries.sound p hp) (he p (List.mem_append_left _ hp)) _ _ _
  have hgroup : ∀ p ∈ f.anyOf, (Query.allOf (r.entryQueries suffix p)).holds suffix doc =
      byEachTest (doc.valuesAt p.1) p.2 := by
    intro p hp
    have hn := he p (List.mem_append_right _ hp)
    rw [Query.holds_allOf (wellFormed_entryQueries hs hn.endsFit)]
    exact Filter.all_entryQueries hs (hf.anyOf.sound p hp) hn _ _ _
  unfold filterQueries
  rw [List.all_append, Bool.and_eq_true, Filter.isMetBy_iff, List.all_flatMap, List.all_eq_true]
  refine and_congr (forall₂_congr fun p hp => by rw [hentries p hp]) ?_
  by_cases hg : f.anyOf = []
  · rw [if_pos (List.isEmpty_iff.2 hg)]
    exact ⟨fun _ hn => absurd hg hn, fun _ => rfl⟩
  · rw [if_neg (mt List.isEmpty_iff.1 hg), List.all_cons, List.all_nil, Bool.and_true,
      Query.holds_anyOf, List.any_map, List.any_eq_true]
    · constructor
      · rintro ⟨p, hp, hh⟩ -
        exact ⟨p, hp, (hgroup p hp).symm.trans hh⟩
      · intro hh
        obtain ⟨p, hp, hb⟩ := hh hg
        exact ⟨p, hp, (hgroup p hp).trans hb⟩
    · intro q hq
      obtain ⟨p, hp, rfl⟩ := List.mem_map.1 hq
      exact Query.wellFormed_allOf (wellFormed_entryQueries hs
        (he p (List.mem_append_right _ hp)).endsFit)

theorem forall_filterClauses (hs : Text.startsWith suffix "." = true) (h : r.Plain) :
    (∀ q ∈ r.filterClauses suffix, q.holds suffix doc = true) ↔
      ∀ f ∈ r.filters, f.IsMetBy byEachTest doc := by
  unfold filterClauses
  cases hf : r.filters with
  | none => simp
  | some f =>
    obtain ⟨hc, he⟩ := h.filters f hf
    have hall : (r.filterQueries suffix f).all (Query.holds suffix doc) = true ↔
        f.IsMetBy byEachTest doc := all_filterQueries hs hc he
    rw [List.all_eq_true] at hall
    rw [hall]
    simp

/-! ### The whole query -/

/-- What the clauses that have to match ask for. -/
theorem forall_mustQueries (hs : Text.startsWith suffix "." = true) (h : r.Plain) :
    (∀ q ∈ r.mustQueries suffix, q.holds suffix doc = true) ↔
      (∀ text ∈ r.query, (r.queryFields = [] → SharesWord text doc.strings) ∧
        (r.queryFields ≠ [] →
          ∃ field ∈ r.queryFields, SharesWord text (fieldTexts suffix field doc))) ∧
      (∀ p ∈ r.fuzzy, SharesWord p.2 (fieldTexts suffix p.1 doc)) ∧
      (∀ f ∈ r.filters, f.IsMetBy byEachTest doc) ∧
      (∀ field ∈ r.present, fieldValues suffix field doc ≠ []) ∧
      (∀ p ∈ r.nestedPresent, HasNested suffix p.1 p.2 doc) := by
  have hquery : (∀ q ∈ (r.query.map r.textQuery).toList, q.holds suffix doc = true) ↔
      ∀ text ∈ r.query, (r.textQuery text).holds suffix doc = true := by
    cases r.query with
    | none => simp
    | some text => simp
  simp only [mustQueries_eq, wordlessQueries, List.forall_mem_append, List.forall_mem_map, hquery,
    holds_textQuery h.queryFields, Query.holds_fuzzy, forall_filterClauses hs h, holds_presence,
    holds_nestedPresence, and_assoc]

/-- What the clauses that must not match ask for. -/
theorem forall_mustNotQueries :
    (∀ q ∈ r.mustNotQueries, ¬ q.holds suffix doc = true) ↔
      (∀ field ∈ r.absent, fieldValues suffix field doc = []) ∧
      (∀ p ∈ r.nestedAbsent, ¬ HasNested suffix p.1 p.2 doc) := by
  unfold mustNotQueries
  simp only [List.forall_mem_append, List.forall_mem_map, holds_presence, holds_nestedPresence,
    ne_eq, not_not]

/-- The query of a plain request matches the documents that the request asks for. -/
theorem holds_toQuery (hs : Text.startsWith suffix "." = true) (h : r.Plain) :
    (r.toQuery suffix).holds suffix doc = true ↔ r.IsMetBy byEachTest suffix doc := by
  have hq : (r.toQuery suffix).holds suffix doc =
      ((r.mustQueries suffix).all (Query.holds suffix doc) &&
        !r.mustNotQueries.any (Query.holds suffix doc)) := by
    have hw := wellFormed_toQuery hs h.readable
    unfold toQuery at hw ⊢
    dsimp only at hw ⊢
    split at hw
    · next he =>
      obtain ⟨hm, hn⟩ := Bool.and_eq_true_iff.1 he
      rw [if_pos he, Query.holds_all, List.isEmpty_iff.1 hm, List.isEmpty_iff.1 hn]
      rfl
    · next he =>
      rw [if_neg he, Query.holds_conditions hw]
  rw [hq, Bool.and_eq_true, Bool.not_eq_true', List.any_eq_false, List.all_eq_true,
    forall_mustQueries hs h, forall_mustNotQueries]
  constructor
  · rintro ⟨⟨htext, hfuzzy, hfilters, hpresent, hnested⟩, habsent, hnestedAbsent⟩
    exact ⟨hfilters, hpresent, habsent, hnested, hnestedAbsent, hfuzzy,
      fun text ht => (htext text ht).1, fun text ht => (htext text ht).2⟩
  · intro hm
    refine ⟨⟨fun text ht => ⟨hm.everywhere text ht, hm.somewhere text ht⟩, hm.fuzzy, hm.filters,
      hm.present, hm.nestedPresent⟩, hm.absent, hm.nestedAbsent⟩

end SearchRequest

end Polystore
