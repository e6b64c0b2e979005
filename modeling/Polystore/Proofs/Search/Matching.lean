import Polystore.Proofs.Outcome
import Polystore.Proofs.Search.Paths
import Polystore.Proofs.Search.Writing

/-!
# Which documents a query matches

The evaluation of a query gives a score or a fault.  A well-formed query never shows a fault, and
whether it matches follows from whether its parts match; the scores play no part in it.

    q.WellFormed → ∃ o, q.score suffix doc = .ok o                          (WellFormed.runs)
    (bool must filter mustNot should minimum boost).holds suffix doc =
      (must.all … && filter.all … && !mustNot.any … && minimum ≤ should.countP …)      (holds_bool)
-/

namespace Polystore.Query

variable {suffix : String} {doc : Json} {q : Query} {qs : List Query}

/-- The evaluation shows no fault. -/
def Runs (suffix : String) (doc : Json) (q : Query) : Prop := ∃ o, q.score suffix doc = .ok o

/-- The document matches the query. -/
def holds (suffix : String) (doc : Json) (q : Query) : Bool :=
  match q.score suffix doc with
  | .ok o => o.isSome
  | .error _ => false

theorem holds_of_score {o : Option Float} (h : q.score suffix doc = .ok o) :
    q.holds suffix doc = o.isSome := by
  rw [holds, h]

theorem Runs.exists_score (h : q.Runs suffix doc) :
    ∃ o, q.score suffix doc = .ok o ∧ o.isSome = q.holds suffix doc := by
  obtain ⟨o, ho⟩ := h
  exact ⟨o, ho, (holds_of_score ho).symm⟩

/-! ## Sections of a combination -/

/-- Adding up scores decides like the bare test; the scores play no part in it. -/
theorem isSome_mustScore (qs : List Query) (total : Float) :
    (mustScore suffix qs doc total).map Option.isSome = allMatch suffix qs doc := by
  induction qs generalizing total with
  | nil => rfl
  | cons q qs ih =>
    rw [mustScore, allMatch]
    cases q.score suffix doc with
    | error e => rfl
    | ok o =>
      cases o with
      | none => rfl
      | some s => exact ih (total + s)

theorem allMatch_eq (h : ∀ q ∈ qs, q.Runs suffix doc) :
    allMatch suffix qs doc = .ok (qs.all (holds suffix doc)) := by
  induction qs with
  | nil => rfl
  | cons q qs ih =>
    obtain ⟨hq, hqs⟩ := List.forall_mem_cons.1 h
    obtain ⟨o, ho, hh⟩ := hq.exists_score
    rw [List.all_cons, ← hh]
    cases o with
    | none => simp only [allMatch, ho, bind, Except.bind, pure, Except.pure, Option.isSome_none,
        Bool.false_and]
    | some s => simp only [allMatch, ho, bind, Except.bind, ih hqs, Option.isSome_some,
        Bool.true_and]

theorem mustScore_eq (h : ∀ q ∈ qs, q.Runs suffix doc) (total : Float) :
    ∃ o, mustScore suffix qs doc total = .ok o ∧ o.isSome = qs.all (holds suffix doc) := by
  have hm : (mustScore suffix qs doc total).map Option.isSome = allMatch suffix qs doc :=
    isSome_mustScore qs total
  rw [allMatch_eq h] at hm
  cases ho : mustScore suffix qs doc total with
  | error e => rw [ho] at hm; exact absurd hm (by simp [Except.map])
  | ok o =>
    rw [ho] at hm
    exact ⟨o, rfl, Except.ok.inj hm⟩

theorem noneMatch_eq (h : ∀ q ∈ qs, q.Runs suffix doc) :
    noneMatch suffix qs doc = .ok (!qs.any (holds suffix doc)) := by
  induction qs with
  | nil => rfl
  | cons q qs ih =>
    obtain ⟨hq, hqs⟩ := List.forall_mem_cons.1 h
    obtain ⟨o, ho, hh⟩ := hq.exists_score
    rw [List.any_cons, ← hh]
    cases o with
    | none => simp only [noneMatch, ho, bind, Except.bind, ih hqs, Option.isSome_none,
        Bool.false_or]
    | some s => simp only [noneMatch, ho, bind, Except.bind, pure, Except.pure,
        Option.isSome_some, Bool.true_or, Bool.not_true]

theorem shouldScore_eq (h : ∀ q ∈ qs, q.Runs suffix doc) (count : Nat) (total : Float) :
    ∃ total', shouldScore suffix qs doc count total =
      .ok (count + qs.countP (holds suffix doc), total') := by
  induction qs generalizing count total with
  | nil => exact ⟨total, rfl⟩
  | cons q qs ih =>
    obtain ⟨hq, hqs⟩ := List.forall_mem_cons.1 h
    obtain ⟨o, ho, hh⟩ := hq.exists_score
    rw [List.countP_cons, ← hh]
    cases o with
    | none =>
      obtain ⟨t, ht⟩ := ih hqs count total
      exact ⟨t, by simp only [shouldScore, ho, bind, Except.bind]; exact ht⟩
    | some s =>
      obtain ⟨t, ht⟩ := ih hqs (count + 1) (total + s)
      refine ⟨t, ?_⟩
      simp only [shouldScore, ho, bind, Except.bind]
      rw [ht, Option.isSome_some, if_pos rfl, Nat.add_assoc, Nat.add_comm 1]

/-! ## Clauses on clauses -/

/-- A search for the best child finds one if any child matches. -/
theorem best_eq {score : Json → Except QueryFault (Option Float)} {found : Json → Bool}
    {children : List Json} (h : ∀ c ∈ children, ∃ o, score c = .ok o ∧ o.isSome = found c)
    (acc : Option Float) :
    ∃ o, best score acc children = .ok o ∧ o.isSome = (acc.isSome || children.any found) := by
  induction children generalizing acc with
  | nil => exact ⟨acc, rfl, (Bool.or_false _).symm⟩
  | cons c children ih =>
    obtain ⟨⟨o, ho, hc⟩, hcs⟩ := List.forall_mem_cons.1 h
    rw [List.any_cons, ← hc]
    cases o with
    | none =>
      obtain ⟨o', ho', hh'⟩ := ih hcs acc
      refine ⟨o', ?_, hh'⟩
      rw [best, ho]
      exact ho'
    | some s =>
      have hstep : ∃ acc', best score acc (c :: children) = best score (some acc') children := by
        cases acc with
        | none => exact ⟨s, by rw [best, ho]; rfl⟩
        | some b => exact ⟨greater b s, by rw [best, ho]; rfl⟩
      obtain ⟨acc', he⟩ := hstep
      obtain ⟨o', ho', hh'⟩ := ih hcs (some acc')
      refine ⟨o', he.trans ho', ?_⟩
      rw [hh']
      simp only [Option.isSome_some, Bool.true_or, Bool.or_true]

theorem score_nested {path : String}
    (h : ∀ c ∈ objectsAt path doc, q.Runs suffix (Json.wrapAt path c)) (scored : Bool) :
    ∃ o, (nested path q scored).score suffix doc = .ok o ∧
      o.isSome = (objectsAt path doc).any fun c => q.holds suffix (Json.wrapAt path c) := by
  obtain ⟨o, ho, hh⟩ := best_eq (fun c hc => (h c hc).exists_score) none
  refine ⟨o.map fun s => if scored then s else 0.0, ?_, ?_⟩
  · simp only [score, bind, Except.bind]
    unfold objectsAt at ho
    rw [ho]
    rfl
  · rw [Option.isSome_map, hh, Option.isSome_none, Bool.false_or]

section Combination

variable {must filter mustNot should : List Query}

theorem score_bool (hm : ∀ q ∈ must, q.Runs suffix doc) (hf : ∀ q ∈ filter, q.Runs suffix doc)
    (hn : ∀ q ∈ mustNot, q.Runs suffix doc) (hs : ∀ q ∈ should, q.Runs suffix doc)
    (minimum : Option Nat) (boost : Option Number) :
    ∃ o, (bool must filter mustNot should minimum boost).score suffix doc = .ok o ∧
      o.isSome = (must.all (holds suffix doc) && filter.all (holds suffix doc) &&
        !mustNot.any (holds suffix doc) &&
        decide (minimum.getD (defaultMinimum must filter should) ≤
          should.countP (holds suffix doc))) := by
  obtain ⟨o, ho, hh⟩ := mustScore_eq hm 0.0
  rw [← hh]
  simp only [score, ho, bind, Except.bind]
  cases o with
  | none => exact ⟨none, rfl, rfl⟩
  | some total =>
    simp only [allMatch_eq hf, noneMatch_eq hn]
    cases filter.all (holds suffix doc) with
    | false => exact ⟨none, rfl, rfl⟩
    | true =>
      cases mustNot.any (holds suffix doc) with
      | true => exact ⟨none, rfl, rfl⟩
      | false =>
        obtain ⟨total', ht⟩ := shouldScore_eq hs 0 total
        rw [Nat.zero_add] at ht
        simp only [Bool.not_true, Bool.not_false, Bool.false_eq_true, if_false, ht]
        by_cases hc : should.countP (holds suffix doc) <
            minimum.getD (defaultMinimum must filter should)
        · refine ⟨none, by rw [if_pos hc]; rfl, ?_⟩
          rw [decide_eq_false (Nat.not_le.2 hc)]
          rfl
        · refine ⟨some (total' * weight boost), by rw [if_neg hc]; rfl, ?_⟩
          rw [decide_eq_true (Nat.not_lt.1 hc)]
          rfl

end Combination

/-! ## Well-formed queries -/

theorem runs_hit {q : Query} {matched : Bool} {boost : Option Number}
    (h : q.score suffix doc = hit matched boost) : q.Runs suffix doc := ⟨_, h⟩

theorem runs_hits {q : Query} {matched : Nat} {boost : Option Number}
    (h : q.score suffix doc = hits matched boost) : q.Runs suffix doc := ⟨_, h⟩

/-- The evaluation of a well-formed query shows no fault. -/
theorem WellFormed.runs (h : q.WellFormed) (suffix : String) (doc : Json) :
    q.Runs suffix doc := by
  induction h generalizing doc with
  | all => exact ⟨some 1.0, rfl⟩
  | term _ => exact runs_hit rfl
  | terms _ => exact runs_hit rfl
  | range _ _ => exact runs_hit rfl
  | start _ => exact runs_hit rfl
  | pattern _ hp =>
    obtain ⟨p, hp⟩ := Option.isSome_iff_exists.1 hp
    exact runs_hit (by rw [score, hp])
  | hasValue => exact runs_hit rfl
  | words _ _ => exact runs_hits rfl
  | wordsIn _ => exact runs_hits rfl
  | nested _ ih =>
    obtain ⟨o, ho, -⟩ := score_nested (fun c _ => ih (Json.wrapAt _ c)) _
    exact ⟨o, ho⟩
  | bool _ _ _ _ _ hm hf hn hs =>
    obtain ⟨o, ho, -⟩ := score_bool (fun q hq => hm q hq doc) (fun q hq => hf q hq doc)
      (fun q hq => hn q hq doc) (fun q hq => hs q hq doc) _ _
    exact ⟨o, ho⟩

/-! ## What matches -/

theorem holds_hit {matched : Bool} {boost : Option Number}
    (h : q.score suffix doc = hit matched boost) : q.holds suffix doc = matched := by
  rw [holds_of_score h]
  cases matched with
  | true => rfl
  | false => rfl

theorem holds_hits {matched : Nat} {boost : Option Number}
    (h : q.score suffix doc = hits matched boost) : q.holds suffix doc = decide (0 < matched) := by
  rw [holds_of_score h]
  by_cases hm : 0 < matched
  · rw [if_pos hm, decide_eq_true hm]
    rfl
  · rw [if_neg hm, decide_eq_false hm]
    rfl

theorem holds_all : all.holds suffix doc = true := rfl

theorem holds_term (field : String) (v : Json) (boost : Option Number) :
    (term field v boost).holds suffix doc =
      (fieldValues suffix field doc).any fun w => w.same v :=
  holds_hit rfl

theorem holds_terms (field : String) (vs : List Json) (boost : Option Number) :
    (terms field vs boost).holds suffix doc =
      (fieldValues suffix field doc).any fun w => w.isAmong vs :=
  holds_hit rfl

theorem holds_range (field : String) (bounds : List (Bound × Json)) (boost : Option Number) :
    (range field bounds boost).holds suffix doc =
      (fieldValues suffix field doc).any (withinBounds bounds) :=
  holds_hit rfl

theorem holds_start (field text : String) (boost : Option Number) :
    (start field text boost).holds suffix doc =
      (fieldValues suffix field doc).any (hasStart text) :=
  holds_hit rfl

theorem holds_hasValue (field : String) (boost : Option Number) :
    (hasValue field boost).holds suffix doc = !(fieldValues suffix field doc).isEmpty :=
  holds_hit rfl

theorem holds_words (field text : String) (f : Fuzziness) (swaps : Bool) (boost : Option Number) :
    (words field text f swaps boost).holds suffix doc =
      decide (0 < matchedWords ((fieldValues suffix field doc).filterMap Json.str?) text f swaps) :=
  holds_hits rfl

theorem holds_wordsIn (fields : List String) (text : String) (f : Fuzziness)
    (boost : Option Number) :
    (wordsIn fields text f boost).holds suffix doc =
      decide (0 < matchedWords (textsOf suffix fields doc) text f true) :=
  holds_hits rfl

/-- A nested clause matches if its query matches some object at the path alone. -/
theorem holds_nested (h : q.WellFormed) (path : String) (scored : Bool) :
    (nested path q scored).holds suffix doc =
      (objectsAt path doc).any fun c => q.holds suffix (Json.wrapAt path c) := by
  obtain ⟨o, ho, hh⟩ := score_nested (fun c _ => h.runs suffix (Json.wrapAt path c)) scored
  rw [holds_of_score ho, hh]

/-- A combination matches if all clauses that have to match do, none of those that must not, and
enough of the optional ones. -/
theorem holds_bool {must filter mustNot should : List Query} {minimum : Option Nat}
    {boost : Option Number} (h : (bool must filter mustNot should minimum boost).WellFormed) :
    (bool must filter mustNot should minimum boost).holds suffix doc =
      (must.all (holds suffix doc) && filter.all (holds suffix doc) &&
        !mustNot.any (holds suffix doc) &&
        decide (minimum.getD (defaultMinimum must filter should) ≤
          should.countP (holds suffix doc))) := by
  cases h with
  | bool hm hf hn hs _ =>
    obtain ⟨o, ho, hh⟩ := score_bool (fun q hq => (hm q hq).runs suffix doc)
      (fun q hq => (hf q hq).runs suffix doc) (fun q hq => (hn q hq).runs suffix doc)
      (fun q hq => (hs q hq).runs suffix doc) minimum boost
    rw [holds_of_score ho, hh]

end Polystore.Query
