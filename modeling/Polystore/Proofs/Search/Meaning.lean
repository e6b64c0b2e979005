import Mathlib.Tactic.MkIffOfInductiveProp
import Polystore.Proofs.Filter.Reading
import Polystore.Proofs.Search.Matching
import Polystore.Search.Body

/-!
# What a search request asks of a document

The meaning of a request, stated without its query: the conditions of the filter, fields that have
a value or have none, and words that a field shares with a text.

A criterion makes one test of all its bounds and one of each start of a text.  A field may have
several values, so there are two readings of a criterion: one value passes all tests
(`byOneValue`), or each test is passed by some value (`byEachTest`).  A query knows the second.

    byOneValue vs c = true → byEachTest vs c = true          (byEachTest_of_byOneValue)
    c.tests = [t] → byEachTest vs c = byOneValue vs c        (byEachTest_eq_byOneValue)
-/

namespace Polystore

/-! ## Criteria -/

/-- The order of the value against the bound satisfies it. -/
def Bound.isMetBy (b : Bound) (limit v : Json) : Bool :=
  match v.compare? limit with
  | some o => b.admits o
  | none => false

/-- A value in lower case is a text with this start or this end in lower case. -/
def Affix.isMetBy (a : Affix) (text : String) : Json → Bool
  | .str s =>
    match a with
    | startsWith => Text.startsWith s (Text.lower text)
    | endsWith => (Text.lower text).toList.isSuffixOf s.toList
  | _ => false

namespace Criterion

/-- The tests that a criterion makes of values in lower case. -/
def tests : Criterion → List (Json → Bool)
  | scalar w => [fun v => v.same w.fold]
  | list ws => [fun v => v.isAmong (ws.map Json.fold)]
  | operators ops =>
    (if ops.bounds.isEmpty then [] else [fun v => ops.bounds.all fun p => p.1.isMetBy p.2 v]) ++
      ops.affixes.map fun p v => p.1.isMetBy p.2 v

end Criterion

/-- How a criterion is read of the values of a field. -/
abbrev Reading := List Json → Criterion → Bool

/-- One value passes all tests. -/
def byOneValue : Reading := fun vs c => vs.any fun v => c.tests.all fun t => t v.fold

/-- Each test is passed by some value. -/
def byEachTest : Reading := fun vs c => c.tests.all fun t => vs.any fun v => t v.fold

/-- One value that passes all tests passes each of them. -/
theorem byEachTest_of_byOneValue {vs : List Json} {c : Criterion} (h : byOneValue vs c = true) :
    byEachTest vs c = true := by
  obtain ⟨v, hv, ht⟩ := List.any_eq_true.1 h
  refine List.all_eq_true.2 fun t hm => ?_
  exact List.any_eq_true.2 ⟨v, hv, List.all_eq_true.1 ht t hm⟩

/-- The readings agree on a criterion with a single test. -/
theorem byEachTest_eq_byOneValue {vs : List Json} {c : Criterion} {t : Json → Bool}
    (h : c.tests = [t]) : byEachTest vs c = byOneValue vs c := by
  unfold byEachTest byOneValue
  simp only [h, List.all_cons, List.all_nil, Bool.and_true]

/-! ## Words -/

/-- Some word of the text is within the edits allowed for it of some word of the values. -/
def SharesWord (text : String) (values : List String) : Prop :=
  ∃ w ∈ Text.words text, ∃ v ∈ values.flatMap Text.words,
    Text.edits true w.toList v.toList ≤ Fuzziness.auto.allowed w.toList

instance (text : String) (values : List String) : Decidable (SharesWord text values) :=
  inferInstanceAs (Decidable (∃ w ∈ Text.words text, ∃ v ∈ values.flatMap Text.words, _))

/-! ## Requests -/

/-- The texts that a field has. -/
def fieldTexts (suffix field : String) (doc : Json) : List String :=
  (fieldValues suffix field doc).filterMap Json.str?

/-- Some object at the path, taken alone, gives the field a value. -/
def HasNested (suffix field path : String) (doc : Json) : Prop :=
  ∃ c ∈ objectsAt path doc, fieldValues suffix field (Json.wrapAt path c) ≠ []

instance (suffix field path : String) (doc : Json) :
    Decidable (HasNested suffix field path doc) :=
  inferInstanceAs (Decidable (∃ c ∈ objectsAt path doc, _))

/-- What a filter asks of a document. -/
@[mk_iff] structure Filter.IsMetBy (reading : Reading) (f : Filter) (doc : Json) : Prop where
  entries : ∀ p ∈ f.entries, reading (doc.valuesAt p.1) p.2 = true
  anyOf : f.anyOf ≠ [] → ∃ p ∈ f.anyOf, reading (doc.valuesAt p.1) p.2 = true

instance (reading : Reading) (f : Filter) (doc : Json) : Decidable (f.IsMetBy reading doc) :=
  decidable_of_iff _ (Filter.isMetBy_iff reading f doc).symm

/-- What a request asks of a document. -/
@[mk_iff] structure SearchRequest.IsMetBy (reading : Reading) (suffix : String) (r : SearchRequest)
    (doc : Json) : Prop where
  filters : ∀ f ∈ r.filters, f.IsMetBy reading doc
  present : ∀ field ∈ r.present, fieldValues suffix field doc ≠ []
  absent : ∀ field ∈ r.absent, fieldValues suffix field doc = []
  nestedPresent : ∀ p ∈ r.nestedPresent, HasNested suffix p.1 p.2 doc
  nestedAbsent : ∀ p ∈ r.nestedAbsent, ¬ HasNested suffix p.1 p.2 doc
  fuzzy : ∀ p ∈ r.fuzzy, SharesWord p.2 (fieldTexts suffix p.1 doc)
  everywhere : ∀ text ∈ r.query, r.queryFields = [] → SharesWord text doc.strings
  somewhere : ∀ text ∈ r.query, r.queryFields ≠ [] →
    ∃ field ∈ r.queryFields, SharesWord text (fieldTexts suffix field doc)

instance (reading : Reading) (suffix : String) (r : SearchRequest) (doc : Json) :
    Decidable (r.IsMetBy reading suffix doc) :=
  decidable_of_iff _ (SearchRequest.isMetBy_iff reading suffix r doc).symm

end Polystore
