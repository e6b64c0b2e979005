import Polystore.Pattern.Reader
import Polystore.Search.Query

/-!
# Queries that are read back as they were written

The index sees a query only in its written form.  A well-formed query is one that the written form
determines and that can be evaluated: no field is named like the boost, no bound stands twice, the
numbers fit 64 bits, the patterns can be read, and nothing in it is malformed.

    q.WellFormed → q.readBack = q                       (WellFormed.readBack_eq)
-/

namespace Polystore

/-! ## Numbers -/

theorem Json.u64?_ofInt {i : Int} (h₀ : 0 ≤ i) (h₁ : i < Decimal.twoTo 64) :
    (ofInt i).u64? = some i.toNat := by
  unfold ofInt u64? Number.asU64?
  dsimp only
  rw [if_pos ⟨h₀, h₁⟩]

theorem Json.u64?_ofNat {n : Nat} (hn : n < Decimal.twoTo 64) : (ofNat n).u64? = some n :=
  u64?_ofInt (Int.natCast_nonneg n) (Int.ofNat_lt.2 hn)

/-! ## Well-formed queries -/

/-- A number of edits that fits 64 bits. -/
def Fuzziness.Fits : Fuzziness → Prop
  | auto => True
  | edits n => n < Decimal.twoTo 64

theorem Fuzziness.ofJson_toJson {f : Fuzziness} (hf : f.Fits) : ofJson (some f.toJson) = f := by
  cases f with
  | auto => rfl
  | edits n =>
    have hn : (Json.ofNat n).u64? = some n := Json.u64?_ofNat hf
    show edits (((Json.ofNat n).u64?).getD 0) = _
    rw [hn, Option.getD_some]

namespace Query

/-- A query that its written form determines and that can be evaluated. -/
inductive WellFormed : Query → Prop where
  | all : WellFormed .all
  | term {field v boost} : field ≠ "boost" → WellFormed (.term field v boost)
  | terms {field vs boost} : field ≠ "boost" → WellFormed (.terms field vs boost)
  | range {field boost} {bounds : List (Bound × Json)} : field ≠ "boost" →
      (Assoc.keys bounds).Nodup → WellFormed (.range field bounds boost)
  | start {field text boost} : field ≠ "boost" → WellFormed (.start field text boost)
  | pattern {field source boost} : field ≠ "boost" →
      (Pattern.ofNotation? source).isSome = true → WellFormed (.pattern field source boost)
  | hasValue {field boost} : WellFormed (.hasValue field boost)
  | words {field text swaps boost} {f : Fuzziness} : field ≠ "boost" → f.Fits →
      WellFormed (.words field text f swaps boost)
  | wordsIn {fields text boost} {f : Fuzziness} : f.Fits → WellFormed (.wordsIn fields text f boost)
  | nested {path q scored} : WellFormed q → WellFormed (.nested path q scored)
  | bool {must filter mustNot should boost} {minimum : Option Nat} :
      (∀ q ∈ must, WellFormed q) → (∀ q ∈ filter, WellFormed q) → (∀ q ∈ mustNot, WellFormed q) →
      (∀ q ∈ should, WellFormed q) → (∀ n, minimum = some n → n < Decimal.twoTo 64) →
      WellFormed (.bool must filter mustNot should minimum boost)

/-- A query as it is read from its written form. -/
def readBack (q : Query) : Query := ofJson q.toJson

/-! ## Parameters with a boost -/

/-- Parameters with a boost behind them, if there is one. -/
def boosted (boost : Option Number) (params : Record) : Record :=
  match boost with
  | some w => Assoc.put "boost" (.num w) params
  | none => params

theorem withBoost_eq (boost : Option Number) (params : Record) :
    Clause.withBoost boost params = .obj (boosted boost params) := by
  cases boost <;> rfl

theorem find?_boosted {k : String} (hk : k ≠ "boost") (boost : Option Number) (params : Record) :
    Assoc.find? k (boosted boost params) = Assoc.find? k params := by
  cases boost with
  | none => rfl
  | some w => exact Assoc.find?_put_of_ne hk _ _

theorem boosted_eq_append (boost : Option Number) {params : Record}
    (hb : "boost" ∉ Assoc.keys params) :
    boosted boost params = params ++ (boost.map fun w => ("boost", Json.num w)).toList := by
  cases boost with
  | none => exact (List.append_nil params).symm
  | some w => exact Assoc.put_of_not_mem _ hb

/-- The boost is read back. -/
theorem boostOf_boosted (boost : Option Number) {params : Record}
    (hb : "boost" ∉ Assoc.keys params) : boostOf (.obj (boosted boost params)) = boost := by
  unfold boostOf Json.get?
  cases boost with
  | none =>
    have h : Assoc.find? "boost" params = none := (Assoc.find?_eq_none_iff _ _).2 hb
    simp only [boosted, h]
  | some w => simp only [boosted, Assoc.find?_put_self]

theorem fieldOf?_cons {field : String} (hf : field ≠ "boost") (v : Json) (fields : Record) :
    fieldOf? ((field, v) :: fields) = some (field, v) := by
  rw [fieldOf?, if_neg hf]

/-! ## Clauses without clauses inside them -/

theorem ofJson_ofKind {kind : String} (hb : kind ≠ "bool") (hn : kind ≠ "nested") (params : Json) :
    ofJson (Clause.ofKind kind params) = ofLeaf kind params := by
  unfold Clause.ofKind ofJson
  rw [if_neg hb, if_neg hn]

theorem onField_single {field : String} (hf : field ≠ "boost") (spec : Json)
    (f : String → Json → Query) : onField (.obj [(field, spec)]) f = f field spec := by
  rw [onField, fieldOf?_cons hf]

theorem ofJson_term {field : String} (hf : field ≠ "boost") (v : Json) (boost : Option Number) :
    ofJson (term field v boost).toJson = term field v boost := by
  have hb : "boost" ∉ Assoc.keys [("value", v)] := by simp [Assoc.keys]
  have hv : Assoc.find? "value" (boosted boost [("value", v)]) = some v := by
    rw [find?_boosted (by decide), Assoc.find?_cons, if_pos rfl]
  show ofJson (Clause.term field v boost) = _
  rw [Clause.term, Clause.onField, ofJson_ofKind (by decide) (by decide), withBoost_eq]
  show onField (.obj [(field, .obj (boosted boost [("value", v)]))])
    (fun field spec => term field ((spec.get? "value").getD spec) (boostOf spec)) = _
  rw [onField_single hf, boostOf_boosted boost hb]
  simp only [Json.get?, hv, Option.getD_some]

theorem ofJson_terms {field : String} (hf : field ≠ "boost") (vs : List Json)
    (boost : Option Number) : ofJson (terms field vs boost).toJson = terms field vs boost := by
  have hb : "boost" ∉ Assoc.keys [(field, Json.arr vs)] := by
    simpa [Assoc.keys] using hf.symm
  show ofJson (Clause.terms field vs boost) = _
  rw [Clause.terms, ofJson_ofKind (by decide) (by decide), withBoost_eq]
  show ofTerms (.obj (boosted boost [(field, .arr vs)])) = _
  simp only [ofTerms, boostOf_boosted boost hb]
  rw [boosted_eq_append boost hb, List.singleton_append, fieldOf?_cons hf]

/-- The text of a clause that has one under `value`. -/
theorem textOf?_boosted (text : String) (boost : Option Number) :
    textOf? "value" (.obj (boosted boost [("value", .str text)])) = some text := by
  have hv : Assoc.find? "value" (boosted boost [("value", .str text)]) = some (.str text) := by
    rw [find?_boosted (by decide), Assoc.find?_cons, if_pos rfl]
  simp only [textOf?, Json.get?, hv, Option.bind_some, Json.str?]

theorem ofJson_start {field : String} (hf : field ≠ "boost") (text : String)
    (boost : Option Number) : ofJson (start field text boost).toJson = start field text boost := by
  have hb : "boost" ∉ Assoc.keys [("value", Json.str text)] := by simp [Assoc.keys]
  show ofJson (Clause.start field text boost) = _
  rw [Clause.start, Clause.onField, ofJson_ofKind (by decide) (by decide), withBoost_eq]
  simp only [ofLeaf]
  rw [onField_single hf, boostOf_boosted boost hb, textOf?_boosted]

theorem ofJson_pattern {field : String} (hf : field ≠ "boost") (source : String)
    (boost : Option Number) :
    ofJson (pattern field source boost).toJson = pattern field source boost := by
  have hb : "boost" ∉ Assoc.keys [("value", Json.str source)] := by simp [Assoc.keys]
  show ofJson (Clause.pattern field source boost) = _
  rw [Clause.pattern, Clause.onField, ofJson_ofKind (by decide) (by decide), withBoost_eq]
  simp only [ofLeaf]
  rw [onField_single hf, boostOf_boosted boost hb, textOf?_boosted]

theorem ofJson_hasValue (field : String) (boost : Option Number) :
    ofJson (hasValue field boost).toJson = hasValue field boost := by
  have hb : "boost" ∉ Assoc.keys [("field", Json.str field)] := by simp [Assoc.keys]
  have hv : Assoc.find? "field" (boosted boost [("field", .str field)]) = some (.str field) := by
    rw [find?_boosted (by decide), Assoc.find?_cons, if_pos rfl]
  show ofJson (Clause.hasValue field boost) = _
  rw [Clause.hasValue, ofJson_ofKind (by decide) (by decide), withBoost_eq]
  simp only [ofLeaf, boostOf_boosted boost hb, Json.get?, hv, Option.bind_some, Json.str?]

/-! ### Ranges -/

theorem ofKey?_key (b : Bound) : Bound.ofKey? b.key = some b := by
  cases b <;> rfl

theorem key_injective : Function.Injective Bound.key := by
  intro a b h
  have he : some a = some b := by rw [← ofKey?_key, ← ofKey?_key, h]
  exact Option.some.inj he

/-- Bounds as they are written. -/
theorem keys_written (bounds : List (Bound × Json)) :
    Assoc.keys (bounds.map fun p => (p.1.key, p.2)) = (Assoc.keys bounds).map Bound.key := by
  unfold Assoc.keys
  rw [List.map_map, List.map_map]
  rfl

theorem boundsOf_written (bounds : List (Bound × Json)) :
    boundsOf (bounds.map fun p => (p.1.key, p.2)) = bounds := by
  induction bounds with
  | nil => rfl
  | cons p bounds ih =>
    unfold boundsOf at ih ⊢
    rw [List.map_cons, List.filterMap_cons, ih, ofKey?_key]
    rfl

/-- The boost is no bound. -/
theorem boundsOf_boosted (boost : Option Number) {params : Record}
    (hb : "boost" ∉ Assoc.keys params) : boundsOf (boosted boost params) = boundsOf params := by
  rw [boosted_eq_append boost hb]
  unfold boundsOf
  rw [List.filterMap_append]
  cases boost with
  | none => exact List.append_nil _
  | some w => exact List.append_nil _

theorem ofJson_range {field : String} (hf : field ≠ "boost") (bounds : List (Bound × Json))
    (boost : Option Number) :
    ofJson (range field bounds boost).toJson =
      range field (boundsOf (Assoc.ofList (bounds.map fun p => (p.1.key, p.2)))) boost := by
  have hb : "boost" ∉ Assoc.keys (Assoc.ofList (bounds.map fun p => (p.1.key, p.2))) := by
    have hnil : (Assoc.keys ([] : Record)).Nodup := List.nodup_nil
    rw [Assoc.ofList, Assoc.keys_putAll hnil, List.mem_eraseDups, keys_written]
    show "boost" ∉ (Assoc.keys bounds).map Bound.key
    rw [List.mem_map]
    rintro ⟨b, -, h⟩
    cases b <;> exact absurd h (by decide)
  show ofJson (Clause.range field bounds boost) = _
  rw [Clause.range, Clause.onField, ofJson_ofKind (by decide) (by decide), withBoost_eq]
  simp only [ofLeaf]
  rw [onField_single hf, boostOf_boosted boost hb]
  show range field (boundsOf (boosted boost _)) boost = _
  rw [boundsOf_boosted boost hb]

/-- Bounds with each side at most once are read as they were written. -/
theorem boundsOf_ofList {bounds : List (Bound × Json)} (hn : (Assoc.keys bounds).Nodup) :
    boundsOf (Assoc.ofList (bounds.map fun p => (p.1.key, p.2))) = bounds := by
  have hn' : (Assoc.keys (bounds.map fun p => (p.1.key, p.2))).Nodup := by
    rw [keys_written]
    exact List.Pairwise.map Bound.key (fun _ _ hne he => hne (key_injective he)) hn
  rw [Assoc.ofList_of_nodup hn', boundsOf_written]

/-! ### Words -/

theorem ofJson_words {field : String} (hf : field ≠ "boost") (text : String) (f : Fuzziness)
    (swaps : Bool) (boost : Option Number) :
    ofJson (words field text f swaps boost).toJson =
      words field text (.ofJson (some f.toJson)) swaps boost := by
  let params : Record :=
    [("query", .str text), ("fuzziness", f.toJson), ("fuzzy_transpositions", .bool swaps)]
  have hb : "boost" ∉ Assoc.keys params := by simp [params, Assoc.keys]
  have hq : Assoc.find? "query" (boosted boost params) = some (.str text) := by
    rw [find?_boosted (by decide), Assoc.find?_cons, if_pos rfl]
  have hz : Assoc.find? "fuzziness" (boosted boost params) = some f.toJson := by
    rw [find?_boosted (by decide), Assoc.find?_cons, if_neg (by decide), Assoc.find?_cons,
      if_pos rfl]
  have hs : Assoc.find? "fuzzy_transpositions" (boosted boost params) = some (.bool swaps) := by
    rw [find?_boosted (by decide), Assoc.find?_cons, if_neg (by decide), Assoc.find?_cons,
      if_neg (by decide), Assoc.find?_cons, if_pos rfl]
  show ofJson (Clause.words field text (some f.toJson) swaps boost) = _
  rw [Clause.words, Clause.onField, ofJson_ofKind (by decide) (by decide), withBoost_eq]
  show onField (.obj [(field, .obj (boosted boost params))]) ofWords = _
  rw [onField_single hf]
  simp only [ofWords, Json.get?, hq, hz, hs, Option.bind_some, Json.str?, Json.bool?,
    Option.getD_some, boostOf_boosted boost hb]

theorem filterMap_str? (texts : List String) :
    (texts.map Json.str).filterMap Json.str? = texts := by
  induction texts with
  | nil => rfl
  | cons t texts ih => rw [List.map_cons, List.filterMap_cons, ih, Json.str?]

theorem ofJson_wordsIn (fields : List String) (text : String) (f : Fuzziness)
    (boost : Option Number) :
    ofJson (wordsIn fields text f boost).toJson =
      wordsIn fields text (.ofJson (some f.toJson)) boost := by
  let params : Record :=
    [("query", .str text), ("fields", .ofStrings fields), ("fuzziness", f.toJson),
      ("lenient", .bool true)]
  have hb : "boost" ∉ Assoc.keys params := by simp [params, Assoc.keys]
  have hq : Assoc.find? "query" (boosted boost params) = some (.str text) := by
    rw [find?_boosted (by decide), Assoc.find?_cons, if_pos rfl]
  have hf : Assoc.find? "fields" (boosted boost params) = some (.ofStrings fields) := by
    rw [find?_boosted (by decide), Assoc.find?_cons, if_neg (by decide), Assoc.find?_cons,
      if_pos rfl]
  have hz : Assoc.find? "fuzziness" (boosted boost params) = some f.toJson := by
    rw [find?_boosted (by decide), Assoc.find?_cons, if_neg (by decide), Assoc.find?_cons,
      if_neg (by decide), Assoc.find?_cons, if_pos rfl]
  show ofJson (Clause.wordsIn fields text (some f.toJson) boost) = _
  rw [Clause.wordsIn, ofJson_ofKind (by decide) (by decide), withBoost_eq]
  show ofWordsIn (.obj (boosted boost params)) = _
  simp only [ofWordsIn, Json.get?, hq, hf, hz, Option.bind_some, Json.str?, Json.ofStrings,
    Json.arr?, filterMap_str?, boostOf_boosted boost hb]

/-! ## Clauses on clauses -/

theorem ofJson_nested (q : Query) (path : String) (scored : Bool) :
    ofJson (nested path q scored).toJson = nested path (ofJson q.toJson) scored := by
  show ofJson (Clause.nested path q.toJson scored) = _
  unfold Clause.nested Clause.ofKind
  cases scored with
  | true =>
    simp only [if_true, List.append_nil, ofJson, innerOf]
    rfl
  | false =>
    simp only [List.cons_append, List.nil_append, ofJson, innerOf]
    rfl

/-- The clauses under a key. -/
def clausesAt (key : String) (fields : Record) : List Query :=
  (Assoc.find? key fields).elim [] clausesOf

theorem clausesAt_cons (key k : String) (v : Json) (fields : Record) :
    clausesAt key ((k, v) :: fields) = if k = key then clausesOf v else clausesAt key fields := by
  unfold clausesAt
  rw [Assoc.find?_cons]
  split
  · rfl
  · rfl

theorem clausesAt_append {key : String} (fields : Record) {rest : Record}
    (hr : Assoc.find? key rest = none) : clausesAt key (fields ++ rest) = clausesAt key fields := by
  unfold clausesAt
  rw [Assoc.find?_append, hr, Option.or_none]

/-- Each section is read from its own key. -/
theorem sectionsOf_eq (fields : Record) :
    sectionsOf fields =
      ⟨clausesAt "must" fields, clausesAt "filter" fields, clausesAt "must_not" fields,
        clausesAt "should" fields⟩ := by
  induction fields with
  | nil => rfl
  | cons p fields ih =>
    obtain ⟨k, v⟩ := p
    simp only [sectionsOf, ih, clausesAt_cons]
    by_cases h₁ : k = "must"
    · subst h₁
      rfl
    by_cases h₂ : k = "filter"
    · subst h₂
      rfl
    by_cases h₃ : k = "must_not"
    · subst h₃
      rfl
    by_cases h₄ : k = "should"
    · subst h₄
      rfl
    simp only [if_neg h₁, if_neg h₂, if_neg h₃, if_neg h₄]

theorem clausesOf_toJsons (qs : List Query) :
    clausesOf (.arr (toJsons qs)) = qs.map readBack := by
  simp only [clausesOf]
  induction qs with
  | nil => simp only [toJsons, ofJsons, List.map_nil]
  | cons q qs ih => rw [toJsons, ofJsons, ih, List.map_cons, readBack]

theorem find?_part {key name : String} (hk : name ≠ key) (cs : List Json) :
    Assoc.find? key (Clause.part name cs) = none := by
  unfold Clause.part
  split
  · rfl
  · rw [Assoc.find?_cons, if_neg hk, Assoc.find?_nil]

/-- The clauses of a section that is left out if it is empty. -/
theorem clausesAt_part (key : String) (qs : List Query) :
    clausesAt key (Clause.part key (toJsons qs)) = qs.map readBack := by
  cases qs with
  | nil => rfl
  | cons q qs =>
    show clausesAt key [(key, .arr (toJsons (q :: qs)))] = _
    rw [clausesAt_cons, if_pos rfl, clausesOf_toJsons]

theorem clausesAt_part_append {key name : String} (hk : name ≠ key) (cs : List Json)
    (rest : Record) : clausesAt key (Clause.part name cs ++ rest) = clausesAt key rest := by
  unfold clausesAt
  rw [Assoc.find?_append, find?_part hk, Option.none_or]

/-- The parameters of a combination, but for the boost. -/
def written (must filter mustNot should : List Query) (minimum : Option Nat) : Record :=
  let sections := Clause.part "must" (toJsons must) ++ Clause.part "filter" (toJsons filter) ++
    Clause.part "must_not" (toJsons mustNot) ++ Clause.part "should" (toJsons should)
  (if sections.isEmpty then [("must", .arr [])] else sections) ++
    match minimum with
    | some n => [("minimum_should_match", .ofNat n)]
    | none => []

section Combination

variable {must filter mustNot should : List Query} {minimum : Option Nat}

/-- What a combination writes when it has no clause at all is read as no clause. -/
theorem clausesAt_written {key : String} (hk : key ≠ "minimum_should_match") :
    clausesAt key (written must filter mustNot should minimum) =
      clausesAt key (Clause.part "must" (toJsons must) ++
        (Clause.part "filter" (toJsons filter) ++
          (Clause.part "must_not" (toJsons mustNot) ++
            Clause.part "should" (toJsons should)))) := by
  have hm : Assoc.find? key (match minimum with
      | some n => [("minimum_should_match", Json.ofNat n)]
      | none => []) = none := by
    cases minimum with
    | none => rfl
    | some n => exact if_neg hk.symm
  unfold written
  rw [clausesAt_append _ hm, List.append_assoc, List.append_assoc]
  split
  · next he =>
    rw [List.isEmpty_iff.1 he, clausesAt_cons]
    simp only [clausesOf, ofJsons]
    split
    · rfl
    · rfl
  · rfl

/-- A key that names no section is not found among the sections. -/
theorem find?_written {key : String} (h₁ : "must" ≠ key) (h₂ : "filter" ≠ key)
    (h₃ : "must_not" ≠ key) (h₄ : "should" ≠ key) :
    Assoc.find? key (written must filter mustNot should minimum) =
      Assoc.find? key (match minimum with
        | some n => [("minimum_should_match", Json.ofNat n)]
        | none => []) := by
  unfold written
  rw [Assoc.find?_append]
  split
  · rw [Assoc.find?_cons, if_neg h₁, Assoc.find?_nil, Option.none_or]
  · rw [Assoc.find?_append, Assoc.find?_append, Assoc.find?_append, find?_part h₁, find?_part h₂,
      find?_part h₃, find?_part h₄]
    rfl

/-- Every section of a combination is read clause by clause. -/
theorem sectionsOf_written (boost : Option Number) :
    sectionsOf (boosted boost (written must filter mustNot should minimum)) =
      ⟨must.map readBack, filter.map readBack, mustNot.map readBack, should.map readBack⟩ := by
  have hw : ∀ key, key ≠ "boost" → key ≠ "minimum_should_match" →
      clausesAt key (boosted boost (written must filter mustNot should minimum)) =
        clausesAt key (Clause.part "must" (toJsons must) ++
          (Clause.part "filter" (toJsons filter) ++
            (Clause.part "must_not" (toJsons mustNot) ++
              Clause.part "should" (toJsons should)))) := by
    intro key hb hk
    rw [← clausesAt_written hk]
    unfold clausesAt
    rw [find?_boosted hb]
  rw [sectionsOf_eq, hw _ (by decide) (by decide), hw _ (by decide) (by decide),
    hw _ (by decide) (by decide), hw _ (by decide) (by decide)]
  congr 1
  · have hr : Assoc.find? "must" (Clause.part "filter" (toJsons filter) ++
        (Clause.part "must_not" (toJsons mustNot) ++ Clause.part "should" (toJsons should))) =
          none := by
      rw [Assoc.find?_append, Assoc.find?_append, find?_part (by decide), find?_part (by decide),
        find?_part (by decide)]
      rfl
    rw [clausesAt_append _ hr, clausesAt_part]
  · have hr : Assoc.find? "filter" (Clause.part "must_not" (toJsons mustNot) ++
        Clause.part "should" (toJsons should)) = none := by
      rw [Assoc.find?_append, find?_part (by decide), find?_part (by decide)]
      rfl
    rw [clausesAt_part_append (by decide), clausesAt_append _ hr, clausesAt_part]
  · rw [clausesAt_part_append (by decide), clausesAt_part_append (by decide),
      clausesAt_append _ (find?_part (by decide) _), clausesAt_part]
  · rw [clausesAt_part_append (by decide), clausesAt_part_append (by decide),
      clausesAt_part_append (by decide), clausesAt_part]

/-- A combination is read as the combination of what its clauses are read as, with its minimum if
that fits 64 bits. -/
theorem readBack_combination (boost : Option Number) :
    readBack (bool must filter mustNot should minimum boost) =
      bool (must.map readBack) (filter.map readBack) (mustNot.map readBack)
        (should.map readBack) (minimum.bind fun n => (Json.ofNat n).u64?) boost := by
  have hb : "boost" ∉ Assoc.keys (written must filter mustNot should minimum) := by
    rw [← Assoc.find?_eq_none_iff, find?_written (by decide) (by decide) (by decide) (by decide)]
    cases minimum with
    | none => rfl
    | some n => exact if_neg (by decide)
  have hk : (Assoc.find? "minimum_should_match"
      (boosted boost (written must filter mustNot should minimum))).bind Json.u64? =
        minimum.bind fun n => (Json.ofNat n).u64? := by
    rw [find?_boosted (by decide),
      find?_written (by decide) (by decide) (by decide) (by decide)]
    cases minimum with
    | none => rfl
    | some n => rw [Assoc.find?_cons, if_pos rfl, Option.bind_some, Option.bind_some]
  have hj : (bool must filter mustNot should minimum boost).toJson =
      Clause.ofKind "bool"
        (.obj (boosted boost (written must filter mustNot should minimum))) := by
    rw [← withBoost_eq, toJson]
    rfl
  rw [readBack, hj]
  unfold Clause.ofKind
  simp only [ofJson, if_true, sectionsOf_written, ofSections, Json.get?, hk,
    boostOf_boosted boost hb]

theorem readBack_bool (hmin : ∀ n, minimum = some n → n < Decimal.twoTo 64)
    (boost : Option Number) :
    readBack (bool must filter mustNot should minimum boost) =
      bool (must.map readBack) (filter.map readBack) (mustNot.map readBack)
        (should.map readBack) minimum boost := by
  rw [readBack_combination]
  cases minimum with
  | none => rfl
  | some n => rw [Option.bind_some, Json.u64?_ofNat (hmin n rfl)]

end Combination

theorem map_readBack {qs : List Query} (h : ∀ q ∈ qs, readBack q = q) : qs.map readBack = qs :=
  (List.map_congr_left h).trans (List.map_id _)

/-- A well-formed query is read back as it was written. -/
theorem WellFormed.readBack_eq {q : Query} (h : q.WellFormed) : q.readBack = q := by
  induction h with
  | all => simp only [readBack, toJson, Clause.all, Clause.ofKind, ofJson]; rfl
  | term hf => exact ofJson_term hf _ _
  | terms hf => exact ofJson_terms hf _ _
  | range hf hn => rw [readBack, ofJson_range hf, boundsOf_ofList hn]
  | start hf => exact ofJson_start hf _ _
  | pattern hf _ => exact ofJson_pattern hf _ _
  | hasValue => exact ofJson_hasValue _ _
  | words hf hn => rw [readBack, ofJson_words hf, Fuzziness.ofJson_toJson hn]
  | wordsIn hn => rw [readBack, ofJson_wordsIn, Fuzziness.ofJson_toJson hn]
  | nested _ ih =>
    rw [readBack, ofJson_nested]
    exact congrArg (Query.nested _ · _) ih
  | bool _ _ _ _ hmin hm hf hn hs =>
    rw [readBack_bool hmin, map_readBack hm, map_readBack hf, map_readBack hn, map_readBack hs]

end Query

end Polystore
