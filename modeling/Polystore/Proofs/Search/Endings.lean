import Polystore.Proofs.Pattern.Suffix
import Polystore.Proofs.Search.Clauses
import Polystore.Proofs.Search.Decisions
import Polystore.Proofs.Search.Meaning

/-!
# Tests of the end of a text

A filter tests the start of a text with the text itself and the end of a text with a pattern.  The
pattern does not read every text as it stands.  It finds an end only behind characters of one line,
it takes `^` and `$` for the ends of the value, and it is refused if the tested text is too long:

    ∃ q, entryQueries suffix boost field (.operators ⟨[], [(.endsWith, t)]⟩) = [q] ∧ … ∧
      ∀ doc, q.TestsEnd suffix field t doc                                    (exists_testsEnd)

So for a text without these two every value that is found does end with the text, but a value with
a line feed before its end is missed.
-/

namespace Polystore

/-! ## Values -/

/-- A value is a text with an end that the pattern for the text finds. -/
def Json.endsLike (text : String) : Json → Bool
  | .str s => Pattern.endsLike true text.toList s.toList
  | _ => false

theorem hasMatch_ending (text : String) (v : Json) :
    hasMatch (Pattern.ending text) v = v.endsLike text := by
  cases v with
  | str s => exact Pattern.occursIn_ending text s.toList
  | _ => rfl

/-- Some value of a field in lower case passes a test of texts. -/
theorem any_fold_iff {vs : List Json} {test : Json → Bool}
    (ht : ∀ v, test v = true → v.str?.isSome) :
    (vs.any fun v => test v.fold) = true ↔
      ∃ s, .str s ∈ vs ∧ test (.str (Text.lower s)) = true := by
  rw [List.any_eq_true]
  constructor
  · rintro ⟨v, hv, h⟩
    cases v with
    | str s => exact ⟨s, hv, h⟩
    | _ => exact absurd (ht _ h) (by simp [Json.fold, Json.str?])
  · rintro ⟨s, hs, h⟩
    exact ⟨.str s, hs, h⟩

/-! ## The clause -/

namespace Query

variable {suffix field t : String} {doc : Json}

/-- What the clause for the end of a text decides.  The pattern is refused if the text is too long;
else it looks for a value that ends like the text, which for a text without `^` and `$` is a value
that ends with the text, and has no line feed before it. -/
structure TestsEnd (suffix field t : String) (doc : Json) (q : Query) : Prop where
  refused : Pattern.maxEnding < (Text.lower t).utf8ByteSize →
    q.readBack.decides suffix doc = .error .invalidPattern
  found : (Text.lower t).utf8ByteSize ≤ Pattern.maxEnding →
    q.readBack.decides suffix doc =
      .ok ((doc.valuesAt field).any fun v => v.fold.endsLike (Text.lower t))
  plain : (Text.lower t).utf8ByteSize ≤ Pattern.maxEnding →
    (∀ c ∈ (Text.lower t).toList, c ≠ '^' ∧ c ≠ '$') →
    (q.readBack.decides suffix doc = .ok true ↔
      ∃ s before, .str s ∈ doc.valuesAt field ∧
        (Text.lower s).toList = before ++ (Text.lower t).toList ∧ '\n' ∉ before)

theorem decides_ending (hs : suffix ≠ "") (text : String) (boost : Option Number) :
    (pattern (field ++ suffix) (".*" ++ Pattern.escape text) boost).decides suffix doc =
      if text.utf8ByteSize ≤ Pattern.maxEnding then
        .ok ((doc.valuesAt field).any fun v => v.fold.endsLike text)
      else .error .invalidPattern := by
  have hmatch : hasMatch (Pattern.ending text) = Json.endsLike text :=
    funext (hasMatch_ending text)
  rw [decides, score, Pattern.ofNotation?_ending]
  by_cases h : text.utf8ByteSize ≤ Pattern.maxEnding
  · rw [if_pos h, if_pos ((Pattern.hasRoom_ending_iff text).2 h)]
    show (hit _ boost).map Option.isSome = _
    rw [map_hit, fieldValues_append hs, List.any_map, hmatch]
    rfl
  · rw [if_neg h, if_neg (mt (Pattern.hasRoom_ending_iff text).1 h)]
    rfl

theorem testsEnd_endsWith (hs : Text.startsWith suffix "." = true) (boost : Option Number) :
    (Affix.endsWith.query (field ++ suffix) t boost).TestsEnd suffix field t doc := by
  have hread : (Affix.endsWith.query (field ++ suffix) t boost).readBack.decides suffix doc =
      if (Text.lower t).utf8ByteSize ≤ Pattern.maxEnding then
        .ok ((doc.valuesAt field).any fun v => v.fold.endsLike (Text.lower t))
      else .error .invalidPattern := by
    show (ofJson (pattern (field ++ suffix) _ boost).toJson).decides suffix doc = _
    rw [ofJson_pattern (append_ne_boost hs field), decides_ending (ne_empty_of_startsWith hs)]
  constructor
  case refused => exact fun h => by rw [hread, if_neg (Nat.not_le.2 h)]
  case found => exact fun h => by rw [hread, if_pos h]
  case plain =>
    intro h hplain
    have htext : ∀ v : Json, v.endsLike (Text.lower t) = true → v.str?.isSome := by
      intro v hv
      cases v with
      | str s => rfl
      | _ => cases hv
    rw [hread, if_pos h, Except.ok.injEq, any_fold_iff htext]
    simp only [Json.endsLike, Pattern.endsLike_of_plain hplain]
    exact exists_congr fun s => exists_and_left.symm

end Query

namespace Filter

/-- The clause that a filter has for the end of a text, alone or among the clauses of other
operators. -/
theorem exists_testsEnd {suffix field : String} (hs : Text.startsWith suffix "." = true)
    (hf : '.' ∉ field.toList) (t : String) (boost : Option Number) :
    ∃ q, entryQueries suffix boost field (.operators ⟨[], [(.endsWith, t)]⟩) = [q] ∧
      (∀ ops : Operators, (.endsWith, t) ∈ ops.affixes →
        q ∈ entryQueries suffix boost field (.operators ops)) ∧
      ∀ doc, q.TestsEnd suffix field t doc := by
  have hentry : ∀ c : Criterion,
      entryQueries suffix boost field c = c.queries (field ++ suffix) boost := by
    intro c
    have hpath : nestedPath? field = none := if_neg hf
    rw [entryQueries, hpath]
  refine ⟨Affix.endsWith.query (field ++ suffix) t boost, hentry _, fun ops ht => ?_,
    fun doc => Query.testsEnd_endsWith hs boost⟩
  rw [hentry]
  exact List.mem_append_right _ (List.mem_map.2 ⟨(.endsWith, t), ht, rfl⟩)

theorem exists_testsEnd_theEnd :
    Text.startsWith ".raw" "." = true ∧ '.' ∉ "title".toList ∧
      ∃ q, entryQueries ".raw" none "title" (.operators ⟨[], [(.endsWith, "End")]⟩) = [q] ∧
        q.readBack.decides ".raw" (.obj [("title", .str "The END")]) = .ok true := by
  have hs : Text.startsWith ".raw" "." = true := by decide
  have hf : '.' ∉ "title".toList := by decide
  have hplain : ∀ c ∈ (Text.lower "End").toList, c ≠ '^' ∧ c ≠ '$' := by
    have hend : (Text.lower "End").toList = ['e', 'n', 'd'] := by decide
    rw [hend]
    simp
  obtain ⟨q, hq, -, h⟩ := exists_testsEnd hs hf "End" none
  refine ⟨hs, hf, q, hq, ((h _).plain (by decide) hplain).2 ?_⟩
  exact ⟨"The END", "the ".toList, List.mem_cons_self, by decide, by decide⟩

/-- A value with a line feed before its end is missed, and so is one whose end is a dollar sign. -/
theorem entryQueries_miss_ends :
    (entryQueries ".raw" none "f" (.operators ⟨[], [(.endsWith, "end")]⟩)).map
        (fun q => q.readBack.decides ".raw" (.obj [("f", .str "line one\nend")])) = [.ok false] ∧
      Affix.endsWith.isMetBy "end" (Json.str "line one\nend").fold = true ∧
    (entryQueries ".raw" none "f" (.operators ⟨[], [(.endsWith, "5$")]⟩)).map
        (fun q => q.readBack.decides ".raw" (.obj [("f", .str "cost 5$")])) = [.ok false] ∧
      Affix.endsWith.isMetBy "5$" (Json.str "cost 5$").fold = true := by
  have hs : Text.startsWith ".raw" "." = true := by decide
  have hmiss : ∀ {t s : String}, (Text.lower t).utf8ByteSize ≤ Pattern.maxEnding →
      Pattern.endsLike true (Text.lower t).toList (Text.lower s).toList = false →
      (Affix.endsWith.query ("f" ++ ".raw") t none).readBack.decides ".raw"
        (.obj [("f", .str s)]) = .ok false := by
    intro t s hfit hend
    have hvalues : (Json.obj [("f", .str s)]).valuesAt "f" = [.str s] := rfl
    rw [(Query.testsEnd_endsWith hs none).found hfit, hvalues, List.any_cons, List.any_nil,
      Bool.or_false]
    exact congrArg Except.ok hend
  refine ⟨?_, by decide, ?_, by decide⟩
  · exact congrArg ([·]) (hmiss (by decide) (by decide))
  · exact congrArg ([·]) (hmiss (by decide) (by decide))

end Filter

end Polystore
