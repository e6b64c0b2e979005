import Polystore.Proofs.Filter.Reading
import Polystore.Proofs.Pattern.Ending
import Polystore.Proofs.Search.Writing
import Polystore.Search.Body

/-!
# Clauses of search requests

The clauses that a request stands for are well-formed, whatever its fields, operands and boosts
are.  Two things are asked of the request: a text whose end is tested must fit into a pattern, and
no text is looked for in a field with the name of the boost.  A field of the filter may have that
name, since its clauses are on the sub-field behind the suffix, and so may a field that must have a
value, since it stands in its clause as a value and not as a key.

A property of the clauses that a request asks for goes through to its query if it goes through
scopes and combinations (`Query.Closed`); being well-formed is one such property.

    Closed P → r.AsksFor suffix P → P (r.toQuery suffix)                (Closed.toQuery)
    r.Readable → (r.toQuery suffix).WellFormed                          (wellFormed_toQuery)
-/

namespace Polystore

/-! ## Names of sub-fields -/

/-- A text that begins with a dot and so is no part of the word for the boost. -/
theorem append_ne_boost {suffix : String} (hs : Text.startsWith suffix "." = true)
    (field : String) : field ++ suffix ≠ "boost" := by
  intro h
  have hd : '.' ∈ (field ++ suffix).toList := by
    obtain ⟨l, hl⟩ := List.isPrefixOf_iff_prefix.1 hs
    rw [String.toList_append, ← hl]
    exact List.mem_append_right _ List.mem_cons_self
  rw [h] at hd
  exact absurd hd (by decide)

theorem ne_empty_of_startsWith {suffix : String} (hs : Text.startsWith suffix "." = true) :
    suffix ≠ "" := by
  rintro rfl
  exact absurd hs (by decide)

/-! ## Criteria -/

namespace Criterion

/-- The texts whose end is tested fit into a pattern. -/
def EndsFit (c : Criterion) : Prop :=
  ∀ p ∈ c.affixes, p.1 = .endsWith → (Text.lower p.2).utf8ByteSize ≤ Pattern.maxEnding

variable {field : String} {boost : Option Number}

/-- The clause of a test on the text is well-formed if its text fits. -/
theorem wellFormed_affix (hf : field ≠ "boost") {a : Affix} {text : String}
    (h : a = .endsWith → (Text.lower text).utf8ByteSize ≤ Pattern.maxEnding) :
    (a.query field text boost).WellFormed := by
  cases a with
  | startsWith => exact .start hf
  | endsWith => exact .pattern hf ((Pattern.isSome_ofNotation?_ending _).2 (h rfl))

theorem wellFormed_queries (hf : field ≠ "boost") {c : Criterion} (h : c.EndsFit) :
    ∀ q ∈ c.queries field boost, q.WellFormed := by
  cases c with
  | scalar w => exact List.forall_mem_singleton.2 (.term hf)
  | list ws => exact List.forall_mem_singleton.2 (.terms hf)
  | operators ops =>
    show ∀ q ∈ ops.queries field boost, q.WellFormed
    unfold Operators.queries
    refine List.forall_mem_append.2 ⟨?_, List.forall_mem_map.2 fun p hp => ?_⟩
    · split
      · simp
      · exact List.forall_mem_singleton.2 (.range hf (Assoc.nodup_keys_ofList _))
    · exact wellFormed_affix hf (h p hp)

end Criterion

/-! ## Properties of all clauses -/

namespace SearchRequest

/-- The clauses of the filter, if there is one. -/
def filterClauses (r : SearchRequest) (suffix : String) : List Query :=
  match r.filters with
  | some f => r.filterQueries suffix f
  | none => []

/-- The clauses that have to match and look for no words. -/
def wordlessQueries (r : SearchRequest) (suffix : String) : List Query :=
  r.filterClauses suffix ++ r.present.map r.presence ++ r.nestedPresent.map r.nestedPresence

theorem mustQueries_eq (r : SearchRequest) (suffix : String) :
    r.mustQueries suffix =
      (r.query.map r.textQuery).toList ++
        r.fuzzy.map (fun p => .fuzzy p.1 p.2 (r.boostOf p.1)) ++ r.wordlessQueries suffix := by
  simp only [wordlessQueries, ← List.append_assoc]
  rfl

/-- A property of all clauses of a filter, before they are put into scopes. -/
def FilterAsksFor (r : SearchRequest) (suffix : String) (P : Query → Prop) (f : Filter) : Prop :=
  ∀ p ∈ f.entries ++ f.anyOf, ∀ q ∈ p.2.queries (p.1 ++ suffix) (r.boostOf p.1), P q

/-- A property of all clauses that a request asks for, before they are put together. -/
structure AsksFor (r : SearchRequest) (suffix : String) (P : Query → Prop) : Prop where
  filters : ∀ f ∈ r.filters, r.FilterAsksFor suffix P f
  anywhere : ∀ text, P (.wordsIn ["*"] text .auto none)
  query : ∀ text ∈ r.query, ∀ field ∈ r.queryFields, P (.fuzzy field text (r.boostOf field))
  fuzzy : ∀ p ∈ r.fuzzy, P (.fuzzy p.1 p.2 (r.boostOf p.1))
  presence : ∀ field, P (r.presence field)

end SearchRequest

namespace Query

variable {P : Query → Prop} {qs : List Query}

/-- A property of clauses that goes through everything that a request puts clauses into. -/
structure Closed (P : Query → Prop) : Prop where
  all : P .all
  nested {q : Query} (path : String) : P q → P (.nested path q false)
  bool {must mustNot should : List Query} {minimum : Option Nat} : (∀ q ∈ must, P q) →
    (∀ q ∈ mustNot, P q) → (∀ q ∈ should, P q) → (∀ n, minimum = some n → n = 1) →
    P (.bool must [] mustNot should minimum none)

namespace Closed

theorem allOf (hP : Closed P) (h : ∀ q ∈ qs, P q) : P (allOf qs) := by
  unfold Query.allOf
  split
  · next q => exact h q List.mem_cons_self
  · exact hP.bool h (by simp) (by simp) (by simp)

theorem anyOf (hP : Closed P) (h : ∀ q ∈ qs, P q) : P (anyOf qs) :=
  hP.bool (by simp) (by simp) h fun _ hn => (Option.some.inj hn).symm

variable {r : SearchRequest} {suffix : String}

theorem textQuery (hP : Closed P) {text : String}
    (hany : P (.wordsIn ["*"] text .auto none))
    (h : ∀ field ∈ r.queryFields, P (fuzzy field text (r.boostOf field))) :
    P (r.textQuery text) := by
  unfold SearchRequest.textQuery
  split
  · exact hany
  · exact hP.anyOf (List.forall_mem_map.2 h)

theorem entryQueries (hP : Closed P) {p : String × Criterion}
    (h : ∀ q ∈ p.2.queries (p.1 ++ suffix) (r.boostOf p.1), P q) :
    ∀ q ∈ r.entryQueries suffix p, P q := by
  unfold SearchRequest.entryQueries Filter.entryQueries
  dsimp only
  split
  · next path _ => exact List.forall_mem_map.2 fun q hq => hP.nested path (h q hq)
  · exact h

theorem filterQueries (hP : Closed P) {f : Filter} (h : r.FilterAsksFor suffix P f) :
    ∀ q ∈ r.filterQueries suffix f, P q := by
  unfold SearchRequest.filterQueries
  refine List.forall_mem_append.2 ⟨fun q hq => ?_, ?_⟩
  · obtain ⟨p, hp, hq⟩ := List.mem_flatMap.1 hq
    exact hP.entryQueries (h p (List.mem_append_left _ hp)) q hq
  · split
    · simp
    · refine List.forall_mem_singleton.2 (hP.anyOf (List.forall_mem_map.2 fun p hp => ?_))
      exact hP.allOf (hP.entryQueries (h p (List.mem_append_right _ hp)))

theorem filterClauses (hP : Closed P) (h : ∀ f ∈ r.filters, r.FilterAsksFor suffix P f) :
    ∀ q ∈ r.filterClauses suffix, P q := by
  unfold SearchRequest.filterClauses
  cases hf : r.filters with
  | none => simp
  | some f => exact hP.filterQueries (h f hf)

theorem wordlessQueries (hP : Closed P) (h : ∀ f ∈ r.filters, r.FilterAsksFor suffix P f)
    (hpresence : ∀ field, P (r.presence field)) : ∀ q ∈ r.wordlessQueries suffix, P q := by
  unfold SearchRequest.wordlessQueries
  simp only [List.forall_mem_append, List.forall_mem_map]
  exact ⟨⟨hP.filterClauses h, fun field _ => hpresence field⟩,
    fun p _ => hP.nested p.2 (hpresence p.1)⟩

theorem mustNotQueries (hP : Closed P) (hpresence : ∀ field, P (r.presence field)) :
    ∀ q ∈ r.mustNotQueries, P q := by
  unfold SearchRequest.mustNotQueries
  simp only [List.forall_mem_append, List.forall_mem_map]
  exact ⟨fun field _ => hpresence field, fun p _ => hP.nested p.2 (hpresence p.1)⟩

theorem mustQueries (hP : Closed P) (h : r.AsksFor suffix P) :
    ∀ q ∈ r.mustQueries suffix, P q := by
  rw [SearchRequest.mustQueries_eq]
  simp only [List.forall_mem_append, List.forall_mem_map]
  refine ⟨⟨fun q hq => ?_, h.fuzzy⟩, hP.wordlessQueries h.filters h.presence⟩
  obtain ⟨text, ht, rfl⟩ := Option.map_eq_some_iff.1 (Option.mem_toList.1 hq)
  exact hP.textQuery (h.anywhere text) (h.query text ht)

/-- What holds of all clauses that a request asks for holds of its query. -/
theorem toQuery (hP : Closed P) (h : r.AsksFor suffix P) : P (r.toQuery suffix) := by
  unfold SearchRequest.toQuery
  dsimp only
  split
  · exact hP.all
  · exact hP.bool (hP.mustQueries h) (hP.mustNotQueries h.presence) (by simp) (by simp)

end Closed

/-! ## Well-formed groups -/

theorem closed_wellFormed : Closed WellFormed where
  all := .all
  nested _ h := .nested h
  bool hm hn hs hone := by
    refine .bool hm (by simp) hn hs fun n h => ?_
    rw [hone n h]
    decide

theorem wellFormed_allOf (h : ∀ q ∈ qs, q.WellFormed) : (allOf qs).WellFormed :=
  closed_wellFormed.allOf h

theorem wellFormed_anyOf (h : ∀ q ∈ qs, q.WellFormed) : (anyOf qs).WellFormed :=
  closed_wellFormed.anyOf h

theorem wellFormed_fuzzy {field : String} (hf : field ≠ "boost") (text : String)
    (boost : Option Number) : (fuzzy field text boost).WellFormed := .words hf trivial

end Query

/-! ## Well-formed requests -/

/-- The texts whose end the filter tests fit into patterns. -/
def Filter.EndsFit (f : Filter) : Prop := ∀ p ∈ f.entries ++ f.anyOf, p.2.EndsFit

namespace SearchRequest

/-- A request whose clauses the index can read and evaluate: the texts whose end is tested fit, and
no text is looked for in a field named like the boost. -/
structure Readable (r : SearchRequest) : Prop where
  filters : ∀ f ∈ r.filters, f.EndsFit
  queryFields : r.query ≠ none → ∀ field ∈ r.queryFields, field ≠ "boost"
  fuzzy : ∀ p ∈ r.fuzzy, p.1 ≠ "boost"

variable {suffix : String} {r : SearchRequest}

theorem wellFormed_textQuery (h : ∀ field ∈ r.queryFields, field ≠ "boost") (text : String) :
    (r.textQuery text).WellFormed :=
  Query.closed_wellFormed.textQuery (.wordsIn trivial)
    fun field hf => Query.wellFormed_fuzzy (h field hf) text _

theorem wellFormed_presence (field : String) : (r.presence field).WellFormed := .hasValue

/-- The clauses of an entry are on the untokenized sub-field, which is not named like the boost. -/
theorem wellFormed_entryQueries (hs : Text.startsWith suffix "." = true)
    {p : String × Criterion} (h : p.2.EndsFit) :
    ∀ q ∈ r.entryQueries suffix p, q.WellFormed :=
  Query.closed_wellFormed.entryQueries
    (Criterion.wellFormed_queries (append_ne_boost hs p.1) h)

theorem filterAsksFor_wellFormed (hs : Text.startsWith suffix "." = true)
    (h : ∀ f ∈ r.filters, f.EndsFit) :
    ∀ f ∈ r.filters, r.FilterAsksFor suffix Query.WellFormed f := fun f hf p hp =>
  Criterion.wellFormed_queries (append_ne_boost hs p.1) (h f hf p hp)

theorem wellFormed_wordlessQueries (hs : Text.startsWith suffix "." = true)
    (h : ∀ f ∈ r.filters, f.EndsFit) : ∀ q ∈ r.wordlessQueries suffix, q.WellFormed :=
  Query.closed_wellFormed.wordlessQueries (filterAsksFor_wellFormed hs h) wellFormed_presence

theorem wellFormed_mustNotQueries : ∀ q ∈ r.mustNotQueries, q.WellFormed :=
  Query.closed_wellFormed.mustNotQueries wellFormed_presence

/-- The query of a readable request is well-formed. -/
theorem wellFormed_toQuery (hs : Text.startsWith suffix "." = true) (h : r.Readable) :
    (r.toQuery suffix).WellFormed := by
  refine Query.closed_wellFormed.toQuery
    ⟨filterAsksFor_wellFormed hs h.filters, fun _ => .wordsIn trivial, fun text ht field hf => ?_,
      fun p hp => Query.wellFormed_fuzzy (h.fuzzy p hp) p.2 _, wellFormed_presence⟩
  have hquery : r.query ≠ none := by
    rw [Option.mem_def.1 ht]
    exact Option.some_ne_none text
  exact Query.wellFormed_fuzzy (h.queryFields hquery field hf) text _

end SearchRequest

end Polystore
