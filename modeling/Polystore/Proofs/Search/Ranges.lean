import Polystore.Proofs.Json.Sameness
import Polystore.Proofs.Search.Decisions
import Polystore.Proofs.Search.Finding
import Polystore.Proofs.Text.Lowering

/-!
# Ranges and equality

A filter with one entry asks for a value of one field.  Equality compares lower-cased values with
the lower-cased operand; a range compares them with the operand as it stands.  So the range from an
operand to itself finds what equality with it finds exactly if lower-casing does not change the
operand, and otherwise it finds nothing:

    (∀ doc, equal.decides suffix doc = .ok true → range.decides suffix doc = .ok true) ↔ v.fold = v
                                                                              (range_of_equal_iff)
-/

namespace Polystore

/-! ## Filters with one entry -/

namespace Filter

/-- Does a document match the compiled filter, and does deciding it show a fault? -/
def decides (f : Filter) (suffix : String) (doc : Json) : Except QueryFault Bool :=
  ((SearchRequest.ofFilter f).matcher suffix).decides suffix doc

/-- The filter with one entry. -/
def single (field : String) (c : Criterion) : Filter := ⟨[(field, c)], []⟩

variable {suffix field : String} {c : Criterion}

/-- A filter that was read decides by its entries and alternatives. -/
theorem decides_eq (hs : Text.startsWith suffix "." = true) {f : Filter} (hf : f.Sound)
    (he : f.NoEnd) (doc : Json) :
    f.decides suffix doc = .ok (decide (f.IsMetBy byEachTest doc)) := by
  have hplain := SearchRequest.plain_ofFilter hf he
  rw [decides, SearchRequest.matcher_of_plain hs hplain]
  refine Query.decides_eq_ok.2
    ⟨(SearchRequest.wellFormed_toQuery hs hplain.readable).runs suffix doc, ?_⟩
  rw [Bool.eq_iff_iff, SearchRequest.holds_toQuery hs hplain, SearchRequest.isMetBy_ofFilter,
    decide_eq_true_iff]

/-- A filter with one entry is read as it is written. -/
theorem ofJson_single {v : Json} (hb : Text.isBlank field = false) (hg : field ≠ groupKey)
    (hc : Criterion.ofJson field v = .ok c) :
    ofJson (.obj [(field, v)]) = .ok (single field c) := by
  have hpush : pushed empty field c = .ok (single field c) :=
    pushed_eq_ok.2 ⟨⟨hb, List.not_mem_nil⟩, rfl⟩
  have hread : ofJson (.obj [(field, v)]) = readEntries empty [(field, v)] := rfl
  rw [hread, readEntries, if_neg hg, hc]
  show (pushed empty field c >>= fun f => readEntries f []) = _
  rw [hpush]
  rfl

/-- A filter with one entry decides by the values of its field. -/
theorem decides_single (hs : Text.startsWith suffix "." = true) {v : Json}
    (hr : ofJson v = .ok (single field c)) (ha : c.affixes = []) (doc : Json) :
    (single field c).decides suffix doc = .ok (byEachTest (doc.valuesAt field) c) := by
  have hnoEnd : (single field c).NoEnd := by
    intro p hp q hq
    rw [single, List.append_nil, List.mem_singleton] at hp
    rw [hp, ha] at hq
    exact absurd hq List.not_mem_nil
  rw [decides_eq hs (sound_of_ofJson hr) hnoEnd doc]
  refine congrArg Except.ok ?_
  rw [Bool.eq_iff_iff, decide_eq_true_iff, isMetBy_iff]
  simp [single]

end Filter

theorem Criterion.ofJson_of_isScalar {v : Json} (hv : v.isScalar = true) (field : String) :
    ofJson field v = .ok (.scalar v) := by
  cases v with
  | str | num | bool => rfl
  | null | arr | obj => cases hv

/-! ## Values -/

namespace Json

theorem isScalar_fold {v : Json} (hv : v.isScalar = true) : v.fold.isScalar = true := by
  cases v with
  | str | num | bool => rfl
  | null | arr | obj => cases hv

theorem compare?_self {v : Json} (hv : v.isScalar = true) : v.compare? v = some .eq := by
  cases v with
  | str | num | bool => exact congrArg some Std.ReflCmp.compare_self
  | null | arr | obj => cases hv

/-- Nothing that was lower-cased is level with an operand that is not in lower case. -/
theorem compare?_fold_ne {v : Json} (hv : v.fold ≠ v) (w : Json) :
    w.fold.compare? v ≠ some .eq := by
  intro h
  cases v with
  | str s =>
    cases w with
    | str t =>
      have heq : Text.lower t = s := Std.LawfulEqCmp.eq_of_compare (Option.some.inj h)
      exact hv (by rw [← heq]; exact fold_fold (.str t))
    | null | bool | num | arr | obj => cases h
  | null | bool | num | arr | obj => exact hv rfl

/-- A document with one scalar at a path has no other value there. -/
theorem valuesAt_wrapAt {v : Json} (hv : v.isScalar = true) (path : String) :
    (wrapAt path v).valuesAt path = [v] := by
  rw [wrapAt, valuesAt]
  induction Text.pieces '.' path with
  | nil =>
    cases v with
    | str | num | bool => rfl
    | null | arr | obj => cases hv
  | cons key keys ih =>
    rw [wrapAlong, valuesAlong, step, Assoc.find?_cons, if_pos rfl, Option.toList_some,
      List.flatMap_singleton, ih]

end Json

/-! ## Both filters -/

section Ranges

variable {suffix field : String} {v : Json}

/-- The operators that bound a range by one operand on both sides. -/
def Operators.level (v : Json) : Operators := ⟨[(.atLeast, v), (.atMost, v)], []⟩

theorem Operators.ofJson_level (hv : v.isScalar = true) (field : String) :
    Criterion.ofJson field (.obj [(">=", v), ("<=", v)]) = .ok (.operators (level v)) := by
  cases v with
  | str | num | bool => rfl
  | null | arr | obj => cases hv

theorem byEachTest_scalar (vs : List Json) (v : Json) :
    byEachTest vs (.scalar v) = vs.any fun w => w.fold.same v.fold := by
  rw [byEachTest, Criterion.tests, List.all_cons, List.all_nil, Bool.and_true]

/-- A range is met by a value within all bounds. -/
theorem byEachTest_bounds {bounds : List (Bound × Json)} (hb : bounds ≠ []) (vs : List Json) :
    byEachTest vs (.operators ⟨bounds, []⟩) =
      vs.any fun w => bounds.all fun p => p.1.isMetBy p.2 w.fold := by
  have he : ¬ bounds.isEmpty = true := fun h => hb (List.isEmpty_iff.1 h)
  rw [byEachTest, Criterion.tests, if_neg he, List.map_nil, List.append_nil, List.all_cons,
    List.all_nil, Bool.and_true]

theorem byEachTest_level (vs : List Json) (v : Json) :
    byEachTest vs (.operators (.level v)) = vs.any fun w => w.fold.compare? v == some .eq := by
  rw [Operators.level, byEachTest_bounds (by simp)]
  refine List.any_congr rfl fun w => ?_
  rw [List.all_cons, List.all_cons, List.all_nil, Bool.and_true, Bound.isMetBy, Bound.isMetBy]
  cases w.fold.compare? v with
  | none => rfl
  | some o => cases o <;> rfl

/-- What equals an operand in lower case is level with it. -/
theorem byEachTest_level_of_scalar (hv : v.isScalar = true) (hlow : v.fold = v) {vs : List Json}
    (h : byEachTest vs (.scalar v) = true) : byEachTest vs (.operators (.level v)) = true := by
  rw [byEachTest_scalar, hlow] at h
  rw [byEachTest_level]
  obtain ⟨w, hw, hsame⟩ := List.any_eq_true.1 h
  refine List.any_eq_true.2 ⟨w, hw, ?_⟩
  rw [Json.compare?_congr hsame, Json.compare?_self hv]
  rfl

/-- No value is level with an operand that is not in lower case. -/
theorem byEachTest_level_of_fold_ne (hlow : v.fold ≠ v) (vs : List Json) :
    byEachTest vs (.operators (.level v)) = false := by
  rw [byEachTest_level]
  refine List.any_eq_false.2 fun w _ h => ?_
  exact Json.compare?_fold_ne hlow w (beq_iff_eq.1 h)

/-- Equality with an operand, and the range from it to itself.  Both filters are read, and neither
shows a fault on any document.  Every document that matches the first one matches the second one
exactly if lower-casing leaves the operand as it is; an operand that it changes has an empty range,
and there is a document that matches the first filter alone. -/
theorem range_of_equal_iff (hs : Text.startsWith suffix "." = true)
    (hb : Text.isBlank field = false) (hg : field ≠ Filter.groupKey) (hv : v.isScalar = true) :
    ∃ equal range : Filter,
      Filter.ofJson (.obj [(field, v)]) = .ok equal ∧
      Filter.ofJson (.obj [(field, .obj [(">=", v), ("<=", v)])]) = .ok range ∧
      (∀ doc, ∃ e r, equal.decides suffix doc = .ok e ∧ range.decides suffix doc = .ok r) ∧
      ((∀ doc, equal.decides suffix doc = .ok true → range.decides suffix doc = .ok true) ↔
        v.fold = v) ∧
      (v.fold ≠ v → ∀ doc, range.decides suffix doc = .ok false) := by
  have hequal : Filter.ofJson (.obj [(field, v)]) = .ok (.single field (.scalar v)) :=
    Filter.ofJson_single hb hg (Criterion.ofJson_of_isScalar hv field)
  have hrange : Filter.ofJson (.obj [(field, .obj [(">=", v), ("<=", v)])]) =
      .ok (.single field (.operators (.level v))) :=
    Filter.ofJson_single hb hg (Operators.ofJson_level hv field)
  have he := fun doc => Filter.decides_single hs hequal rfl doc
  have hr := fun doc => Filter.decides_single hs hrange rfl doc
  refine ⟨_, _, hequal, hrange, fun doc => ⟨_, _, he doc, hr doc⟩,
    ⟨fun h => ?_, fun hlow doc => ?_⟩, fun hlow doc => ?_⟩
  · -- The document that holds the operand alone matches the first filter.
    refine Classical.byContradiction fun hlow => ?_
    have hsame : v.fold.same v.fold = true :=
      Json.same_refl (Json.isWellKeyed_of_isScalar (Json.isScalar_fold hv))
    have hfirst := h (Json.wrapAt field v) (by
      rw [he, Json.valuesAt_wrapAt hv, byEachTest_scalar, List.any_cons, hsame]
      rfl)
    rw [hr, byEachTest_level_of_fold_ne hlow] at hfirst
    cases hfirst
  · rw [he, hr, Except.ok.injEq, Except.ok.injEq]
    exact byEachTest_level_of_scalar hv hlow
  · rw [hr, byEachTest_level_of_fold_ne hlow]

end Ranges

/-! ### A name in two spellings -/

theorem fold_ann : (Json.str "ann").fold = .str "ann" :=
  congrArg Json.str (show Text.lower "ann" = "ann" by decide +kernel)

/-- A name in lower case is found by both filters, however the document spells it. -/
theorem range_of_equal_ann :
    Text.startsWith ".raw" "." = true ∧ Text.isBlank "f" = false ∧ "f" ≠ Filter.groupKey ∧
      (Json.str "ann").isScalar = true ∧ ∃ equal range : Filter,
        Filter.ofJson (.obj [("f", .str "ann")]) = .ok equal ∧
        Filter.ofJson (.obj [("f", .obj [(">=", .str "ann"), ("<=", .str "ann")])]) = .ok range ∧
        range.decides ".raw" (.obj [("f", .str "Ann")]) = .ok true := by
  have hs : Text.startsWith ".raw" "." = true := by decide
  have hb : Text.isBlank "f" = false := by decide
  have hg : "f" ≠ Filter.groupKey := by decide
  obtain ⟨equal, range, hequal, hrange, -, hiff, -⟩ :=
    range_of_equal_iff (v := .str "ann") hs hb hg rfl
  refine ⟨hs, hb, hg, rfl, equal, range, hequal, hrange, hiff.2 fold_ann _ ?_⟩
  have hsingle :=
    Filter.ofJson_single hb hg (Criterion.ofJson_of_isScalar (v := .str "ann") rfl "f")
  obtain rfl := Except.ok.inj (hsingle.symm.trans hequal)
  rw [Filter.decides_single hs hsingle rfl]
  decide +kernel

/-- The name as it stands in a document is found by equality, and its range does not hold it. -/
theorem not_range_of_equal :
    ¬ ∀ (suffix field : String) (v doc : Json) (equal range : Filter),
      Text.startsWith suffix "." = true → Text.isBlank field = false → field ≠ Filter.groupKey →
      v.isScalar = true → Filter.ofJson (.obj [(field, v)]) = .ok equal →
      Filter.ofJson (.obj [(field, .obj [(">=", v), ("<=", v)])]) = .ok range →
      equal.decides suffix doc = .ok true → range.decides suffix doc = .ok true := by
  intro h
  have hs : Text.startsWith ".raw" "." = true := by decide
  have hb : Text.isBlank "f" = false := by decide
  have hg : "f" ≠ Filter.groupKey := by decide
  have hequal := Filter.ofJson_single hb hg (Criterion.ofJson_of_isScalar (v := .str "Ann") rfl "f")
  have hrange := Filter.ofJson_single hb hg (Operators.ofJson_level (v := .str "Ann") rfl "f")
  have hfound := h ".raw" "f" (.str "Ann") (.obj [("f", .str "Ann")]) _ _ hs hb hg rfl hequal hrange
    (by rw [Filter.decides_single hs hequal rfl]; decide +kernel)
  rw [Filter.decides_single hs hrange rfl] at hfound
  exact absurd hfound (by decide +kernel)

end Polystore
