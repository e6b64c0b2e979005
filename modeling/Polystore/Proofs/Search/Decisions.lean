import Mathlib.Data.List.Forall2
import Polystore.Proofs.Search.Matching

/-!
# Decisions of queries

Whether a document matches a query, or which fault shows.  Scores are forgotten, and what is left of
the evaluation of a combination goes section by section, so clauses that decide alike one by one can
stand for each other.

    AlikeOn suffix doc must must' → … →
      (bool must …).decides suffix doc = (bool must' …).decides suffix doc   (decides_bool_congr)
-/

namespace Polystore.Query

variable {suffix : String} {doc : Json} {q : Query} {b : Bool}

/-- Whether the document matches, or the fault that shows. -/
def decides (suffix : String) (doc : Json) (q : Query) : Except QueryFault Bool :=
  (q.score suffix doc).map Option.isSome

theorem decides_eq_ok :
    q.decides suffix doc = .ok b ↔ q.Runs suffix doc ∧ q.holds suffix doc = b := by
  unfold decides Runs holds
  cases q.score suffix doc with
  | error e => simp [Except.map]
  | ok o => simp [Except.map]

/-- Queries that decide alike match alike. -/
theorem holds_congr {q' : Query} (h : q.decides suffix doc = q'.decides suffix doc) :
    q.holds suffix doc = q'.holds suffix doc := by
  unfold decides at h
  unfold holds
  cases hq : q.score suffix doc with
  | error e =>
    rw [hq] at h
    rw [Outcome.map_eq_error.1 h.symm]
  | ok o =>
    rw [hq] at h
    obtain ⟨o', ho', he⟩ := Outcome.map_eq_ok.1 h.symm
    rw [ho']
    exact he.symm

/-! ## Single clauses -/

theorem map_hit (matched : Bool) (boost : Option Number) :
    (hit matched boost).map Option.isSome = .ok matched := by
  cases matched <;> rfl

theorem map_hits (matched : Nat) (boost : Option Number) :
    (hits matched boost).map Option.isSome = .ok (decide (0 < matched)) := by
  unfold hits
  by_cases h : 0 < matched
  · rw [if_pos h, decide_eq_true h]
    rfl
  · rw [if_neg h, decide_eq_false h]
    rfl

/-- Two scores that decide alike are both faults, both missing or both there. -/
theorem cases_of_map_isSome {x y : Except QueryFault (Option Float)}
    (h : x.map Option.isSome = y.map Option.isSome) :
    (∃ e, x = .error e ∧ y = .error e) ∨ (x = .ok none ∧ y = .ok none) ∨
      ∃ a b, x = .ok (some a) ∧ y = .ok (some b) := by
  rcases x with e | _ | a <;> rcases y with e' | _ | b <;> cases h
  · exact .inl ⟨e, rfl, rfl⟩
  · exact .inr (.inl ⟨rfl, rfl⟩)
  · exact .inr (.inr ⟨a, b, rfl, rfl⟩)

/-- Whether one of several documents matches does not depend on scores. -/
theorem best_congr {f g : Json → Except QueryFault (Option Float)}
    (h : ∀ d, (f d).map Option.isSome = (g d).map Option.isSome) (ds : List Json)
    {a b : Option Float} (hab : a.isSome = b.isSome) :
    (best f a ds).map Option.isSome = (best g b ds).map Option.isSome := by
  induction ds generalizing a b with
  | nil => exact congrArg Except.ok hab
  | cons d ds ih =>
    rw [best, best]
    obtain ⟨e, hf, hg⟩ | ⟨hf, hg⟩ | ⟨s, t, hf, hg⟩ := cases_of_map_isSome (h d)
    · rw [hf, hg]
      rfl
    · rw [hf, hg]
      exact ih hab
    · rw [hf, hg]
      exact ih rfl

theorem decides_nested (path : String) (q : Query) (scored : Bool) :
    (nested path q scored).decides suffix doc =
      (best (fun child => q.score suffix (Json.wrapAt path child)) none
        ((doc.valuesAt path).filter Json.isObject)).map Option.isSome := by
  rw [decides, score]
  cases best (fun child => q.score suffix (Json.wrapAt path child)) none
    ((doc.valuesAt path).filter Json.isObject) with
  | error e => rfl
  | ok o => cases o <;> rfl

/-! ## Combinations -/

theorem allMatch_cons (q : Query) (qs : List Query) :
    allMatch suffix (q :: qs) doc =
      q.decides suffix doc >>= fun b => if b then allMatch suffix qs doc else .ok false := by
  rw [allMatch, decides]
  cases q.score suffix doc with
  | error e => rfl
  | ok o =>
    cases o with
    | none => rfl
    | some s => rfl

/-- Clauses that decide alike one by one. -/
def AlikeOn (suffix : String) (doc : Json) : List Query → List Query → Prop :=
  List.Forall₂ fun q q' => q.decides suffix doc = q'.decides suffix doc

section
variable {qs qs' : List Query} (h : AlikeOn suffix doc qs qs')
include h

theorem allMatch_congr : allMatch suffix qs doc = allMatch suffix qs' doc := by
  induction h with
  | nil => rfl
  | cons hq _ ih => rw [allMatch_cons, allMatch_cons, hq, ih]

theorem noneMatch_congr : noneMatch suffix qs doc = noneMatch suffix qs' doc := by
  induction h with
  | nil => rfl
  | cons hq _ ih =>
    rw [noneMatch, noneMatch]
    obtain ⟨e, h₁, h₂⟩ | ⟨h₁, h₂⟩ | ⟨s, t, h₁, h₂⟩ := cases_of_map_isSome hq
    · rw [h₁, h₂]
      rfl
    · rw [h₁, h₂]
      exact ih
    · rw [h₁, h₂]
      rfl

/-- How many clauses match does not depend on scores. -/
theorem shouldScore_congr (count : Nat) (total total' : Float) :
    (shouldScore suffix qs doc count total).map Prod.fst =
      (shouldScore suffix qs' doc count total').map Prod.fst := by
  induction h generalizing count total total' with
  | nil => rfl
  | cons hq _ ih =>
    rw [shouldScore, shouldScore]
    obtain ⟨e, h₁, h₂⟩ | ⟨h₁, h₂⟩ | ⟨s, t, h₁, h₂⟩ := cases_of_map_isSome hq
    · rw [h₁, h₂]
      rfl
    · rw [h₁, h₂]
      exact ih count total total'
    · rw [h₁, h₂]
      exact ih (count + 1) (total + s) (total' + t)

end

/-- The number of clauses that match. -/
def countMatch (suffix : String) (qs : List Query) (doc : Json) : Except QueryFault Nat :=
  (shouldScore suffix qs doc 0 0.0).map Prod.fst

/-- A section that decides against the document ends the evaluation. -/
theorem map_section (x : Except QueryFault Bool) (rest : Except QueryFault (Option Float)) :
    (x >>= fun c => if !c then pure none else rest).map Option.isSome =
      x >>= fun c => if c then rest.map Option.isSome else .ok false := by
  rcases x with e | _ | _
  · rfl
  · rfl
  · rfl

/-- A combination decides section by section. -/
theorem decides_bool (must filter mustNot should : List Query) (minimum : Option Nat)
    (boost : Option Number) :
    (bool must filter mustNot should minimum boost).decides suffix doc =
      allMatch suffix must doc >>= fun m =>
        if m then allMatch suffix filter doc >>= fun f =>
          if f then noneMatch suffix mustNot doc >>= fun n =>
            if n then (countMatch suffix should doc).map fun count =>
              decide (minimum.getD (defaultMinimum must filter should) ≤ count)
            else .ok false
          else .ok false
        else .ok false := by
  have hcount : ∀ total, (shouldScore suffix should doc 0 total >>= fun p =>
      if p.1 < minimum.getD (defaultMinimum must filter should) then pure none
      else pure (some (p.2 * weight boost))).map Option.isSome =
        (countMatch suffix should doc).map fun count =>
          decide (minimum.getD (defaultMinimum must filter should) ≤ count) := by
    intro total
    rw [countMatch, shouldScore_congr (List.forall₂_same.2 fun q _ => rfl) 0 0.0 total]
    rcases shouldScore suffix should doc 0 total with e | ⟨count, sum⟩
    · rfl
    · show Except.map Option.isSome (if _ then _ else _) = Except.ok (decide _)
      by_cases hlt : count < minimum.getD (defaultMinimum must filter should)
      · rw [if_pos hlt, decide_eq_false (by omega)]
        rfl
      · rw [if_neg hlt, decide_eq_true (by omega)]
        rfl
  rw [decides, ← isSome_mustScore must 0.0, score]
  rcases mustScore suffix must doc 0.0 with e | _ | total
  · rfl
  · rfl
  · refine (map_section _ _).trans ?_
    rw [map_section, hcount]
    rfl

/-- Without optional clauses a combination decides by its two sections. -/
theorem decides_conditions (must mustNot : List Query) :
    (bool must [] mustNot [] none none).decides suffix doc =
      allMatch suffix must doc >>= fun b =>
        if b then noneMatch suffix mustNot doc else .ok false := by
  have hmin : defaultMinimum must [] [] = 0 := by simp [defaultMinimum]
  rw [decides_bool, hmin]
  rcases allMatch suffix must doc with e | _ | _
  · rfl
  · rfl
  · show (noneMatch suffix mustNot doc >>= fun n => _) = noneMatch suffix mustNot doc
    rcases noneMatch suffix mustNot doc with e | _ | _
    · rfl
    · rfl
    · rfl

/-- Combinations of clauses that decide alike decide alike. -/
theorem decides_bool_congr {must filter mustNot should must' filter' mustNot' should' : List Query}
    (hm : AlikeOn suffix doc must must') (hf : AlikeOn suffix doc filter filter')
    (hn : AlikeOn suffix doc mustNot mustNot') (hs : AlikeOn suffix doc should should')
    (minimum : Option Nat) (boost boost' : Option Number) :
    (bool must filter mustNot should minimum boost).decides suffix doc =
      (bool must' filter' mustNot' should' minimum boost').decides suffix doc := by
  have hmin : defaultMinimum must filter should = defaultMinimum must' filter' should' := by
    cases hm <;> cases hf <;> cases hs <;> rfl
  rw [decides_bool, decides_bool, allMatch_congr hm, allMatch_congr hf, noneMatch_congr hn, hmin,
    countMatch, countMatch, shouldScore_congr hs]

end Polystore.Query
