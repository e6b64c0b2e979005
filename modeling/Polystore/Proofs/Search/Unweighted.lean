import Polystore.Proofs.Search.Decisions

/-!
# Queries without weights

A weight is written into the innermost object of a clause, next to the field and the values that
the clause asks for, and it is multiplied into a score.  `Query.unweighted` forgets the weights of a
query.  Neither the evaluation of a query nor what it is read back as sees a difference:

    q.unweighted.decides suffix doc = q.decides suffix doc                (decides_unweighted)
    q.unweighted.readBack = q.readBack.unweighted                         (readBack_unweighted)

This holds of every query, also of one whose field has the name of the boost: it is read back as a
malformed clause, whatever its weight.
-/

namespace Polystore

namespace Query

mutual

/-- The query with no weight on any clause. -/
def unweighted : Query → Query
  | all => all
  | term field v _ => term field v none
  | terms field vs _ => terms field vs none
  | range field bounds _ => range field bounds none
  | start field text _ => start field text none
  | pattern field source _ => pattern field source none
  | hasValue field _ => hasValue field none
  | words field text fuzziness swaps _ => words field text fuzziness swaps none
  | wordsIn fields text fuzziness _ => wordsIn fields text fuzziness none
  | nested path q scored => nested path (unweighted q) scored
  | bool must filter mustNot should minimum _ =>
    bool (unweightedAll must) (unweightedAll filter) (unweightedAll mustNot)
      (unweightedAll should) minimum none
  | malformed fault => malformed fault

/-- Several queries with no weight on any clause. -/
def unweightedAll : List Query → List Query
  | [] => []
  | q :: qs => unweighted q :: unweightedAll qs

end

theorem unweightedAll_eq_map (qs : List Query) : unweightedAll qs = qs.map unweighted := by
  induction qs with
  | nil => rfl
  | cons q qs ih => rw [unweightedAll, ih, List.map_cons]

/-! ## Evaluation -/

mutual

/-- Weights play no part in which documents match, nor in which fault shows. -/
theorem decides_unweighted (suffix : String) : (q : Query) → (doc : Json) →
    q.unweighted.decides suffix doc = q.decides suffix doc
  | all, _ => rfl
  | term field v boost, doc => by
    simp only [unweighted, decides, score, map_hit]
  | terms field vs boost, doc => by
    simp only [unweighted, decides, score, map_hit]
  | range field bounds boost, doc => by
    simp only [unweighted, decides, score, map_hit]
  | start field text boost, doc => by
    simp only [unweighted, decides, score, map_hit]
  | pattern field source boost, doc => by
    simp only [unweighted, decides, score]
    cases Pattern.ofNotation? source with
    | none => rfl
    | some p => simp only [map_hit]
  | hasValue field boost, doc => by
    simp only [unweighted, decides, score, map_hit]
  | words field text fuzziness swaps boost, doc => by
    simp only [unweighted, decides, score, map_hits]
  | wordsIn fields text fuzziness boost, doc => by
    simp only [unweighted, decides, score, map_hits]
  | nested path q scored, doc => by
    rw [unweighted, decides_nested, decides_nested]
    exact best_congr (fun child => decides_unweighted suffix q _) _ rfl
  | bool must filter mustNot should minimum boost, doc => by
    rw [unweighted]
    exact decides_bool_congr (alike_unweightedAll suffix must doc)
      (alike_unweightedAll suffix filter doc) (alike_unweightedAll suffix mustNot doc)
      (alike_unweightedAll suffix should doc) minimum none boost
  | malformed fault, _ => rfl

theorem alike_unweightedAll (suffix : String) : (qs : List Query) → (doc : Json) →
    AlikeOn suffix doc (unweightedAll qs) qs
  | [], _ => .nil
  | q :: qs, doc => .cons (decides_unweighted suffix q doc) (alike_unweightedAll suffix qs doc)

end

/-! ## Reading back -/

/-- A clause on a field with the name of the boost is read as one without a field. -/
theorem ofJson_onField_boost {kind : String}
    (hk : kind ∈ ["term", "range", "prefix", "regexp", "match"]) (params : Json) :
    ofJson (Clause.onField kind "boost" params) = malformed .noField := by
  simp only [List.mem_cons, List.not_mem_nil, or_false] at hk
  obtain rfl | rfl | rfl | rfl | rfl := hk
  all_goals exact ofJson_ofKind (by decide) (by decide) _

/-- The weight of such a clause is lost with it. -/
theorem unweighted_onField_boost {kind : String}
    (hk : kind ∈ ["term", "range", "prefix", "regexp", "match"]) (params params' : Json) :
    ofJson (Clause.onField kind "boost" params) =
      unweighted (ofJson (Clause.onField kind "boost" params')) := by
  rw [ofJson_onField_boost hk, ofJson_onField_boost hk, unweighted]

theorem readBack_terms_boost (vs : List Json) (boost : Option Number) :
    (terms "boost" vs boost).readBack = malformed .termsWithoutField := by
  refine (ofJson_ofKind (by decide) (by decide) _).trans ?_
  cases boost <;> rfl

mutual

/-- Weights play no part in how a query is read back. -/
theorem readBack_unweighted : (q : Query) → q.unweighted.readBack = q.readBack.unweighted
  | all => rfl
  | term field v boost => by
    by_cases hf : field = "boost"
    · subst hf
      exact unweighted_onField_boost (by decide) _ _
    · rw [unweighted, readBack, readBack, ofJson_term hf, ofJson_term hf, unweighted]
  | terms field vs boost => by
    by_cases hf : field = "boost"
    · subst hf
      rw [unweighted, readBack_terms_boost, readBack_terms_boost, unweighted]
    · rw [unweighted, readBack, readBack, ofJson_terms hf, ofJson_terms hf, unweighted]
  | range field bounds boost => by
    by_cases hf : field = "boost"
    · subst hf
      exact unweighted_onField_boost (by decide) _ _
    · rw [unweighted, readBack, readBack, ofJson_range hf, ofJson_range hf, unweighted]
  | start field text boost => by
    by_cases hf : field = "boost"
    · subst hf
      exact unweighted_onField_boost (by decide) _ _
    · rw [unweighted, readBack, readBack, ofJson_start hf, ofJson_start hf, unweighted]
  | pattern field source boost => by
    by_cases hf : field = "boost"
    · subst hf
      exact unweighted_onField_boost (by decide) _ _
    · rw [unweighted, readBack, readBack, ofJson_pattern hf, ofJson_pattern hf, unweighted]
  | hasValue field boost => by
    rw [unweighted, readBack, readBack, ofJson_hasValue, ofJson_hasValue, unweighted]
  | words field text fuzziness swaps boost => by
    by_cases hf : field = "boost"
    · subst hf
      exact unweighted_onField_boost (by decide) _ _
    · rw [unweighted, readBack, readBack, ofJson_words hf, ofJson_words hf, unweighted]
  | wordsIn fields text fuzziness boost => by
    rw [unweighted, readBack, readBack, ofJson_wordsIn, ofJson_wordsIn, unweighted]
  | nested path q scored => by
    rw [unweighted, readBack, readBack, ofJson_nested, ofJson_nested, unweighted]
    exact congrArg (nested path · scored) (readBack_unweighted q)
  | bool must filter mustNot should minimum boost => by
    rw [unweighted, readBack_combination, readBack_combination, unweighted,
      map_readBack_unweightedAll must, map_readBack_unweightedAll filter,
      map_readBack_unweightedAll mustNot, map_readBack_unweightedAll should]
  | malformed fault => by
    simp only [readBack, unweighted, toJson, ofJson]

theorem map_readBack_unweightedAll : (qs : List Query) →
    (unweightedAll qs).map readBack = unweightedAll (qs.map readBack)
  | [] => rfl
  | q :: qs => by
    rw [unweightedAll, List.map_cons, List.map_cons, unweightedAll, readBack_unweighted q,
      map_readBack_unweightedAll qs]

end

/-- Two queries that differ in weights only decide alike, as they are read back. -/
theorem decides_readBack_congr {q q' : Query} (h : q.unweighted = q'.unweighted) (suffix : String)
    (doc : Json) : q.readBack.decides suffix doc = q'.readBack.decides suffix doc := by
  rw [← decides_unweighted suffix q.readBack, ← decides_unweighted suffix q'.readBack,
    ← readBack_unweighted, ← readBack_unweighted, h]

end Query

end Polystore
