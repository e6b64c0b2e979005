import Polystore.Proofs.Search.Checking
import Polystore.Search.Envelope

/-!
# The written form of search requests

Which values are search requests, and what they are read as.  A request is an object in which the
values of some keys have a given shape (`IsWritten`); what stands under other keys is not looked at.
Reading accepts these objects and no others, and what it makes of them is written down without it:

    ofJson v = .ok r ↔ ∃ fields, v = .obj fields ∧ IsWritten fields ∧ written fields = r
                                                                              (ofJson_eq_ok)

Facets may be mentioned several times.  They are merged: a field has the place of its first mention
and the kind of its last one (`Merges`), so a request that was read passes the check for repeated
facets.
-/

namespace Polystore.SearchRequest

/-! ## Merged facets -/

/-- The last mention of its field. -/
def IsLastOf (f : FacetRequest) (mentions : List FacetRequest) : Prop :=
  ∃ before after, mentions = before ++ f :: after ∧ ∀ g ∈ after, g.field ≠ f.field

/-- The facets have the fields that are mentioned, in the order in which they are first mentioned,
and each is the last mention of its field. -/
structure Merges (mentions facets : List FacetRequest) : Prop where
  fields : facets.map FacetRequest.field = (mentions.map FacetRequest.field).eraseDups
  last : ∀ f ∈ facets, IsLastOf f mentions

section
variable {f g : FacetRequest} {facets mentions : List FacetRequest}

theorem Merges.nodup (h : Merges mentions facets) :
    (facets.map FacetRequest.field).Nodup := by
  rw [h.fields]
  exact Assoc.nodup_eraseDups _

theorem fields_addFacet (facets : List FacetRequest) (f : FacetRequest) :
    (addFacet facets f).map FacetRequest.field =
      if f.field ∈ facets.map FacetRequest.field then facets.map FacetRequest.field
      else facets.map FacetRequest.field ++ [f.field] := by
  induction facets with
  | nil => simp [addFacet]
  | cons g facets ih =>
    rw [addFacet]
    by_cases hg : g.field = f.field
    · rw [if_pos hg, List.map_cons, List.map_cons, hg, if_pos List.mem_cons_self]
    · rw [if_neg hg, List.map_cons, ih, List.map_cons]
      by_cases hm : f.field ∈ facets.map FacetRequest.field
      · rw [if_pos hm, if_pos (List.mem_cons_of_mem _ hm)]
      · have hnew : f.field ∉ g.field :: facets.map FacetRequest.field := by
          rw [List.mem_cons, not_or]
          exact ⟨Ne.symm hg, hm⟩
        rw [if_neg hm, if_neg hnew, List.cons_append]

/-- Of a field that is added the earlier facet is gone. -/
theorem mem_addFacet (hn : (facets.map FacetRequest.field).Nodup) :
    g ∈ addFacet facets f ↔ g = f ∨ g ∈ facets ∧ g.field ≠ f.field := by
  induction facets with
  | nil => simp [addFacet]
  | cons h facets ih =>
    obtain ⟨hnew, hrest⟩ := List.nodup_cons.1 hn
    rw [addFacet]
    by_cases hh : h.field = f.field
    · have hne : g ∈ facets → g.field ≠ f.field := fun hg he =>
        hnew (List.mem_map.2 ⟨g, hg, he.trans hh.symm⟩)
      rw [if_pos hh, List.mem_cons, List.mem_cons]
      constructor
      · rintro (rfl | hg)
        · exact .inl rfl
        · exact .inr ⟨.inr hg, hne hg⟩
      · rintro (rfl | ⟨rfl | hg, he⟩)
        · exact .inl rfl
        · exact absurd hh he
        · exact .inr hg
    · rw [if_neg hh, List.mem_cons, List.mem_cons, ih hrest]
      constructor
      · rintro (rfl | rfl | ⟨hg, he⟩)
        · exact .inr ⟨.inl rfl, hh⟩
        · exact .inl rfl
        · exact .inr ⟨.inr hg, he⟩
      · rintro (rfl | ⟨rfl | hg, he⟩)
        · exact .inr (.inl rfl)
        · exact .inl rfl
        · exact .inr (.inr ⟨hg, he⟩)

/-- One more mention. -/
theorem Merges.add (h : Merges mentions facets) (f : FacetRequest) :
    Merges (mentions ++ [f]) (addFacet facets f) where
  fields := by
    rw [fields_addFacet, List.map_append, List.map_singleton, List.eraseDups_append, h.fields,
      List.removeAll, List.filter_cons, List.elem_eq_mem]
    by_cases hm : f.field ∈ mentions.map FacetRequest.field
    · rw [if_pos (List.mem_eraseDups.2 hm), decide_eq_true hm]
      exact (List.append_nil _).symm
    · rw [if_neg fun he => hm (List.mem_eraseDups.1 he), decide_eq_false hm]
      rfl
  last g hg := by
    rcases (mem_addFacet h.nodup).1 hg with rfl | ⟨hg, hne⟩
    · exact ⟨mentions, [], rfl, by simp⟩
    · obtain ⟨before, after, rfl, hlast⟩ := h.last g hg
      refine ⟨before, after ++ [f], by simp, ?_⟩
      exact List.forall_mem_append.2 ⟨hlast, List.forall_mem_singleton.2 (Ne.symm hne)⟩

theorem Merges.foldl (h : Merges mentions facets) (more : List FacetRequest) :
    Merges (mentions ++ more) (more.foldl addFacet facets) := by
  induction more generalizing mentions facets with
  | nil => rwa [List.append_nil]
  | cons f more ih =>
    rw [List.foldl_cons, List.append_cons]
    exact ih (h.add f)

theorem merges_nil : Merges [] [] := ⟨rfl, by simp⟩

/-- Facets of different fields are merged already. -/
theorem merges_self (hn : (facets.map FacetRequest.field).Nodup) : Merges facets facets where
  fields := (Assoc.eraseDups_of_nodup hn).symm
  last f hf := by
    obtain ⟨before, after, rfl⟩ := List.append_of_mem hf
    refine ⟨before, after, rfl, fun g hg he => ?_⟩
    rw [List.map_append, List.map_cons] at hn
    exact (List.nodup_cons.1 (List.nodup_append.1 hn).2.1).1 (List.mem_map.2 ⟨g, hg, he⟩)

end

theorem facets_foldl_withFacet (r : SearchRequest) (calls : List FacetRequest) :
    (calls.foldl withFacet r).facets = calls.foldl addFacet r.facets := by
  induction calls generalizing r with
  | nil => rfl
  | cons f calls ih => exact ih (r.withFacet f)

/-! ## Shapes -/

/-- A text. -/
def IsText (v : Json) : Prop := ∃ s, v = .str s

/-- A list of texts. -/
def IsTexts (v : Json) : Prop := ∃ items, v = .arr items ∧ ∀ x ∈ items, IsText x

/-- An object with texts. -/
def IsTextFields (v : Json) : Prop := ∃ fields, v = .obj fields ∧ ∀ p ∈ fields, IsText p.2

/-- A whole number of 64 bits with a sign. -/
def IsInteger (v : Json) : Prop :=
  ∃ i : Int, v = .num (.int i) ∧ -(Decimal.twoTo 63 : Int) ≤ i ∧ i < Decimal.twoTo 63

/-- An object with the kinds of facets, which may be left open. -/
def IsFacetFields (v : Json) : Prop :=
  ∃ fields, v = .obj fields ∧ ∀ p ∈ fields, p.2 = .null ∨ IsText p.2

/-- An object with the kinds of facets, or a list of such objects. -/
def IsFacets (v : Json) : Prop :=
  IsFacetFields v ∨ ∃ items, v = .arr items ∧ ∀ x ∈ items, IsFacetFields x

/-- An object with weights. -/
def IsWeights (v : Json) : Prop := ∃ fields, v = .obj fields ∧ ∀ p ∈ fields, IsInteger p.2

/-- The fields of a search request.  Some keys may hold `null`, which stands for nothing. -/
structure IsWritten (fields : Record) : Prop where
  query : ∀ v ∈ Assoc.find? "query" fields, IsText v
  filters : ∀ v ∈ Assoc.find? "filters" fields, ∃ f, Filter.ofJson v = .ok f
  texts : ∀ key ∈ ["queryFields", "exists", "not_exists", "fields"],
    ∀ v ∈ Assoc.find? key fields, v = .null ∨ IsTexts v
  textFields : ∀ key ∈ ["nestedExists", "nestedNotExists", "fuzzy"],
    ∀ v ∈ Assoc.find? key fields, v = .null ∨ IsTextFields v
  facets : ∀ v ∈ Assoc.find? "facets" fields, v = .null ∨ IsFacets v
  sort : ∀ v ∈ Assoc.find? "sort_by" fields, v = .null ∨ ∃ directions, v = .obj directions
  boosts : ∀ v ∈ Assoc.find? "softConstraints" fields, IsWeights v
  page : ∀ key ∈ ["offset", "limit"], ∀ v ∈ Assoc.find? key fields, v = .null ∨ IsInteger v

/-- The keys that a request knows. -/
def knownKeys : List String :=
  ["query", "queryFields", "filters", "exists", "not_exists", "nestedExists", "nestedNotExists",
    "facets", "sort_by", "softConstraints", "fuzzy", "fields", "offset", "limit"]

/-! ## Contents -/

/-- The texts under a key. -/
def textsAt (fields : Record) (key : String) : List String :=
  (((Assoc.find? key fields).bind Json.arr?).getD []).filterMap Json.str?

/-- The fields of an object under a key. -/
def fieldsAt (fields : Record) (key : String) : Record :=
  ((Assoc.find? key fields).bind Json.obj?).getD []

/-- Pairs in order of the key, of several with one key the last. -/
def byField {β : Type} (pairs : List (String × β)) : List (String × β) :=
  pairs.foldl (fun l p => Assoc.putSorted fieldLt p.1 p.2 l) []

/-- The texts in an object under a key. -/
def textFieldsAt (fields : Record) (key : String) : List (String × String) :=
  byField ((fieldsAt fields key).filterMap fun p => p.2.str?.map fun s => (p.1, s))

/-- The facets that an object mentions. -/
def mentionsIn (v : Json) : List FacetRequest :=
  (v.obj?.getD []).map fun p => ⟨p.1, .ofText p.2.str?⟩

/-- The facets that a request mentions. -/
def mentions (fields : Record) : List FacetRequest :=
  match Assoc.find? "facets" fields with
  | some (.arr items) => items.flatMap mentionsIn
  | some v => mentionsIn v
  | none => []

/-- The request that is written as an object with these fields. -/
def written (fields : Record) : SearchRequest where
  query := (Assoc.find? "query" fields).bind Json.str?
  queryFields := textsAt fields "queryFields"
  filters := (Assoc.find? "filters" fields).bind fun v => (Filter.ofJson v).toOption
  present := textsAt fields "exists"
  absent := textsAt fields "not_exists"
  nestedPresent := textFieldsAt fields "nestedExists"
  nestedAbsent := textFieldsAt fields "nestedNotExists"
  facets := (mentions fields).foldl addFacet []
  sort := (fieldsAt fields "sort_by").map fun p => ⟨p.1, .ofText p.2.str?⟩
  boosts := byField ((fieldsAt fields "softConstraints").filterMap fun p =>
    p.2.i64?.map fun w => (p.1, w))
  fuzzy := textFieldsAt fields "fuzzy"
  fields := textsAt fields "fields"
  offset := (Assoc.find? "offset" fields).bind Json.i64?
  limit := (Assoc.find? "limit" fields).bind Json.i64?

/-! ## Reading one key -/

section
variable {fields : Record} {key : String}

theorem readQuery_eq_ok {q : Option String} :
    readQuery fields = .ok q ↔
      (∀ v ∈ Assoc.find? "query" fields, IsText v) ∧
        (Assoc.find? "query" fields).bind Json.str? = q := by
  unfold readQuery
  cases Assoc.find? "query" fields with
  | none => simp
  | some v => cases v <;> simp [IsText, Json.str?]

theorem readFilters_eq_ok {f : Option Filter} :
    readFilters fields = .ok f ↔
      (∀ v ∈ Assoc.find? "filters" fields, ∃ f, Filter.ofJson v = .ok f) ∧
        ((Assoc.find? "filters" fields).bind fun v => (Filter.ofJson v).toOption) = f := by
  unfold readFilters
  cases Assoc.find? "filters" fields with
  | none => simp
  | some v =>
    cases hf : Filter.ofJson v with
    | error e => simp [hf, Functor.map, Except.map]
    | ok g => simp [hf, Functor.map, Except.map, Except.toOption]

/-- A list is taken over whole if every item can be. -/
theorem mapM_eq_some_iff {α β : Type} {f : α → Option β} {l : List α} {l' : List β} :
    l.mapM f = some l' ↔ (∀ x ∈ l, (f x).isSome = true) ∧ l.filterMap f = l' := by
  induction l generalizing l' with
  | nil => simp
  | cons x l ih =>
    simp only [List.mapM_cons, Option.bind_eq_bind, Option.bind_eq_some_iff, ih, Option.pure_def,
      Option.some.injEq, List.forall_mem_cons, List.filterMap_cons]
    cases f x with
    | none => simp
    | some y =>
      constructor
      · rintro ⟨_, hy, _, ⟨h, rfl⟩, rfl⟩
        obtain rfl := Option.some.inj hy
        exact ⟨⟨rfl, h⟩, rfl⟩
      · rintro ⟨⟨-, h⟩, rfl⟩
        exact ⟨y, rfl, _, ⟨h, rfl⟩, rfl⟩

theorem isSome_str? {v : Json} : v.str?.isSome = true ↔ IsText v := by
  cases v <;> simp [Json.str?, IsText]

theorem isSome_i64? {v : Json} : v.i64?.isSome = true ↔ IsInteger v := by
  cases v with
  | num n =>
    cases n with
    | int i => simp [Json.i64?, Number.asI64?, IsInteger]
    | double x => simp [Json.i64?, Number.asI64?, IsInteger]
  | _ => simp [Json.i64?, IsInteger]

/-- A key under which `null` counts as absent. -/
theorem forall_mem_part? {P : Json → Prop} :
    (∀ v ∈ part? fields key, P v) ↔ ∀ v ∈ Assoc.find? key fields, v = .null ∨ P v := by
  unfold part?
  split
  · next h => simp [h]
  · next h =>
    refine forall₂_congr fun v hv => ?_
    have : v ≠ .null := by
      rintro rfl
      exact h hv
    simp [this]

theorem part?_bind {β : Type} {f : Json → Option β} (hf : f .null = none) :
    (part? fields key).bind f = (Assoc.find? key fields).bind f := by
  unfold part?
  split
  · next h => rw [h, Option.bind_none, Option.bind_some, hf]
  · rfl

theorem texts_eq_some_iff {v : Json} {l : List String} :
    v.arr?.bind texts? = some l ↔
      IsTexts v ∧ (v.arr?.getD []).filterMap Json.str? = l := by
  cases v with
  | arr items =>
    show texts? items = some l ↔ _
    rw [texts?, mapM_eq_some_iff]
    simp [isSome_str?, IsTexts, Json.arr?]
  | _ => simp [Json.arr?, IsTexts]

theorem textFields_eq_some_iff {v : Json} {l : List (String × String)} :
    v.obj?.bind textFields? = some l ↔
      IsTextFields v ∧
        byField ((v.obj?.getD []).filterMap fun p => p.2.str?.map fun s => (p.1, s)) = l := by
  cases v with
  | obj fields =>
    show textFields? fields = some l ↔ _
    simp only [textFields?, Option.bind_eq_bind, Option.bind_eq_some_iff, mapM_eq_some_iff,
      Option.isSome_map, isSome_str?]
    constructor
    · rintro ⟨_, ⟨h, rfl⟩, hl⟩
      exact ⟨⟨fields, rfl, h⟩, Option.some.inj hl⟩
    · rintro ⟨⟨_, hf, h⟩, rfl⟩
      obtain rfl := Json.obj.inj hf
      exact ⟨_, ⟨h, rfl⟩, rfl⟩
  | _ => simp [Json.obj?, IsTextFields]

theorem readTexts_eq_ok {l : List String} :
    readTexts fields key = .ok l ↔
      (∀ v ∈ Assoc.find? key fields, v = .null ∨ IsTexts v) ∧ textsAt fields key = l := by
  rw [textsAt, ← forall_mem_part?, ← part?_bind rfl, readTexts]
  cases part? fields key with
  | none => simp
  | some v =>
    simp only [Option.mem_def, Option.some.injEq, forall_eq', Option.bind_some]
    rw [← texts_eq_some_iff]
    cases v.arr?.bind texts? with
    | none => simp
    | some l' => simp

theorem readTextFields_eq_ok {l : List (String × String)} :
    readTextFields fields key = .ok l ↔
      (∀ v ∈ Assoc.find? key fields, v = .null ∨ IsTextFields v) ∧
        textFieldsAt fields key = l := by
  rw [textFieldsAt, fieldsAt, ← forall_mem_part?, ← part?_bind rfl, readTextFields]
  cases part? fields key with
  | none => simp [byField]
  | some v =>
    simp only [Option.mem_def, Option.some.injEq, forall_eq', Option.bind_some]
    rw [← textFields_eq_some_iff]
    cases v.obj?.bind textFields? with
    | none => simp
    | some l' => simp

theorem readInteger_eq_ok {i : Option Int} :
    readInteger fields key = .ok i ↔
      (∀ v ∈ Assoc.find? key fields, v = .null ∨ IsInteger v) ∧
        (Assoc.find? key fields).bind Json.i64? = i := by
  rw [← forall_mem_part?, ← part?_bind rfl, readInteger]
  cases part? fields key with
  | none => simp
  | some v =>
    cases hv : v.i64? with
    | none =>
      have hbad : ¬IsInteger v := by rw [← isSome_i64?, hv]; simp
      simp [hv, hbad]
    | some i' =>
      have hgood : IsInteger v := isSome_i64?.1 (by simp [hv])
      simp [hv, hgood]

/-! ### Facets -/

theorem readFacetFields_eq_ok {entries : Record} {fs fs' : List FacetRequest} :
    readFacetFields fs entries = .ok fs' ↔
      (∀ p ∈ entries, p.2 = .null ∨ IsText p.2) ∧
        (mentionsIn (.obj entries)).foldl addFacet fs = fs' := by
  induction entries generalizing fs with
  | nil => simp [readFacetFields, mentionsIn, Json.obj?]
  | cons p entries ih =>
    obtain ⟨field, v⟩ := p
    rw [List.forall_mem_cons]
    cases v with
    | null =>
      rw [readFacetFields, ih]
      simp [mentionsIn, Json.obj?, Json.str?]
    | str kind =>
      rw [readFacetFields, ih]
      simp [mentionsIn, IsText, Json.obj?, Json.str?]
    | _ => simp [readFacetFields, IsText]

theorem readFacetItems_eq_ok {items : List Json} {fs fs' : List FacetRequest} :
    readFacetItems fs items = .ok fs' ↔
      (∀ x ∈ items, IsFacetFields x) ∧ (items.flatMap mentionsIn).foldl addFacet fs = fs' := by
  induction items generalizing fs with
  | nil => simp [readFacetItems]
  | cons x items ih =>
    rw [List.forall_mem_cons, List.flatMap_cons, List.foldl_append]
    cases x with
    | obj entries =>
      simp only [readFacetItems, Outcome.bind_eq_ok, readFacetFields_eq_ok, ih]
      simp [IsFacetFields, and_assoc]
    | _ => simp [readFacetItems, IsFacetFields]

theorem readFacets_eq_ok {fs : List FacetRequest} :
    readFacets fields = .ok fs ↔
      (∀ v ∈ Assoc.find? "facets" fields, v = .null ∨ IsFacets v) ∧
        (mentions fields).foldl addFacet [] = fs := by
  unfold readFacets part? mentions
  cases Assoc.find? "facets" fields with
  | none => simp
  | some v =>
    cases v with
    | null => simp [mentionsIn, Json.obj?]
    | obj entries => simp [readFacetFields_eq_ok, IsFacets, IsFacetFields]
    | arr items => simp [readFacetItems_eq_ok, IsFacets, IsFacetFields]
    | _ => simp [IsFacets, IsFacetFields]

/-! ### Sort keys and weights -/

theorem readSort_eq_ok {keys : List SortKey} :
    readSort fields = .ok keys ↔
      (∀ v ∈ Assoc.find? "sort_by" fields, v = .null ∨ ∃ directions, v = .obj directions) ∧
        (fieldsAt fields "sort_by").map (fun p => ⟨p.1, .ofText p.2.str?⟩) = keys := by
  unfold readSort part? fieldsAt
  cases Assoc.find? "sort_by" fields with
  | none => simp
  | some v => cases v <;> simp [Json.obj?]

theorem readWeights_eq_ok {entries : Record} {weights weights' : List (String × Int)} :
    readWeights weights entries = .ok weights' ↔
      (∀ p ∈ entries, IsInteger p.2) ∧
        (entries.filterMap fun p => p.2.i64?.map fun w => (p.1, w)).foldl
          (fun l p => Assoc.putSorted fieldLt p.1 p.2 l) weights = weights' := by
  induction entries generalizing weights with
  | nil => simp [readWeights]
  | cons p entries ih =>
    obtain ⟨field, v⟩ := p
    rw [List.forall_mem_cons, ← isSome_i64?, readWeights, List.filterMap_cons]
    cases hv : v.i64? with
    | none => simp
    | some w => simpa using ih

theorem readBoosts_eq_ok {weights : List (String × Int)} :
    readBoosts fields = .ok weights ↔
      (∀ v ∈ Assoc.find? "softConstraints" fields, IsWeights v) ∧
        byField ((fieldsAt fields "softConstraints").filterMap fun p =>
          p.2.i64?.map fun w => (p.1, w)) = weights := by
  unfold readBoosts fieldsAt
  cases Assoc.find? "softConstraints" fields with
  | none => simp [byField]
  | some v =>
    cases v with
    | obj entries => simp [readWeights_eq_ok, IsWeights, Json.obj?, byField]
    | _ => simp [IsWeights]

end

/-! ## Reading a request -/

/-- What is read as a request, and as which. -/
theorem ofJson_eq_ok {v : Json} {r : SearchRequest} :
    ofJson v = .ok r ↔ ∃ fields, v = .obj fields ∧ IsWritten fields ∧ written fields = r := by
  cases v with
  | obj fields =>
    simp only [ofJson, Outcome.bind_eq_ok, Outcome.pure_eq_ok, readQuery_eq_ok, readTexts_eq_ok,
      readFilters_eq_ok, readTextFields_eq_ok, readFacets_eq_ok, readSort_eq_ok, readBoosts_eq_ok,
      readInteger_eq_ok, Json.obj.injEq]
    constructor
    · rintro ⟨_, ⟨hquery, rfl⟩, _, ⟨hqueryFields, rfl⟩, _, ⟨hfilters, rfl⟩, _, ⟨hpresent, rfl⟩,
        _, ⟨habsent, rfl⟩, _, ⟨hnestedPresent, rfl⟩, _, ⟨hnestedAbsent, rfl⟩, _, ⟨hfacets, rfl⟩,
        _, ⟨hsort, rfl⟩, _, ⟨hboosts, rfl⟩, _, ⟨hfuzzy, rfl⟩, _, ⟨hreturned, rfl⟩,
        _, ⟨hoffset, rfl⟩, _, ⟨hlimit, rfl⟩, rfl⟩
      refine ⟨fields, rfl, ?_, rfl⟩
      exact
        { query := hquery
          filters := hfilters
          texts := by simpa using ⟨hqueryFields, hpresent, habsent, hreturned⟩
          textFields := by simpa using ⟨hnestedPresent, hnestedAbsent, hfuzzy⟩
          facets := hfacets
          sort := hsort
          boosts := hboosts
          page := by simpa using ⟨hoffset, hlimit⟩ }
    · rintro ⟨fields', rfl, h, rfl⟩
      exact ⟨_, ⟨h.query, rfl⟩, _, ⟨h.texts _ (by simp), rfl⟩, _, ⟨h.filters, rfl⟩,
        _, ⟨h.texts _ (by simp), rfl⟩, _, ⟨h.texts _ (by simp), rfl⟩,
        _, ⟨h.textFields _ (by simp), rfl⟩, _, ⟨h.textFields _ (by simp), rfl⟩,
        _, ⟨h.facets, rfl⟩, _, ⟨h.sort, rfl⟩, _, ⟨h.boosts, rfl⟩,
        _, ⟨h.textFields _ (by simp), rfl⟩, _, ⟨h.texts _ (by simp), rfl⟩,
        _, ⟨h.page _ (by simp), rfl⟩, _, ⟨h.page _ (by simp), rfl⟩, rfl⟩
  | _ => simp [ofJson]

/-- What stands under a key that a request does not know is not looked at, not even if the request
is refused. -/
theorem ofJson_congr {fields fields' : Record}
    (h : ∀ key ∈ knownKeys, Assoc.find? key fields = Assoc.find? key fields') :
    ofJson (.obj fields) = ofJson (.obj fields') := by
  simp only [knownKeys, List.forall_mem_cons] at h
  simp only [ofJson, readQuery, readTexts, readFilters, readTextFields, readFacets, readSort,
    readBoosts, readInteger, part?, h]

/-- A request that was read is the one that is written. -/
theorem written_of_ofJson {fields : Record} {r : SearchRequest}
    (h : ofJson (.obj fields) = .ok r) : written fields = r := by
  obtain ⟨_, he, -, hr⟩ := ofJson_eq_ok.1 h
  rwa [Json.obj.inj he]

theorem merges_written (fields : Record) : Merges (mentions fields) (written fields).facets :=
  merges_nil.foldl (mentions fields)

/-! ## Checking a request -/

theorem refuse_eq_error {α : Type} {part : Option α} {bad : α → Bool} {why : α → Rejection}
    {e : Rejection} :
    refuse part bad why = .error e ↔ ∃ a ∈ part, bad a = true ∧ why a = e := by
  cases part with
  | none => simp [refuse, pure, Except.pure]
  | some a =>
    cases hb : bad a with
    | false => simp [refuse, hb, pure, Except.pure]
    | true => simp [refuse, hb, throw, throwThe, MonadExceptOf.throw]

/-- Only a field with two facets is refused as repeated. -/
theorem check_ne_duplicateField {r : SearchRequest} (hn : (r.facets.map FacetRequest.field).Nodup)
    (maxLimit : Nat) (field : String) : r.check maxLimit ≠ .error (.duplicateField field) := by
  have hfacets : repeatedFacet? r.facets [] = none := repeatedFacet?_eq_none_iff.2 ⟨hn, by simp⟩
  simp [check, Outcome.bind_eq_error, refuse_eq_error, hfacets]

theorem isBlank_eq_false_iff {s : String} :
    Text.isBlank s = false ↔ ∃ c ∈ s.toList, Text.isSpace c = false := by
  simp [Text.isBlank]

theorem isEmpty_eq_false_iff {f : Filter} : f.isEmpty = false ↔ f.entries ≠ [] ∨ f.anyOf ≠ [] := by
  rw [Filter.isEmpty, Bool.and_eq_false_iff, List.isEmpty_eq_false_iff, List.isEmpty_eq_false_iff]

/-- Search requests are read and checked exactly.

A value is read if it is an object whose known keys have their shapes, as the request with the
contents of these keys; what stands under other keys does not matter.  The facets of a request that
was read have different fields, in the order in which these are first mentioned, each with the kind
that is mentioned last, and the same is true of facets that are added one by one.  A request passes
its check if its page lies within the bounds, its filter asks something, no field has two facets and
its text is not blank.  A repeated facet is never the reason why a request that was read is
refused. -/
theorem read_and_checked :
    (∀ v, (∃ r, ofJson v = .ok r) ↔ ∃ fields, v = .obj fields ∧ IsWritten fields) ∧
    (∀ fields fields',
      (∀ key ∈ knownKeys, Assoc.find? key fields = Assoc.find? key fields') →
        ofJson (.obj fields) = ofJson (.obj fields')) ∧
    (∀ fields r, ofJson (.obj fields) = .ok r →
      r = written fields ∧ (r.facets.map FacetRequest.field).Nodup ∧
        Merges (mentions fields) r.facets) ∧
    (∀ (r : SearchRequest) (calls : List FacetRequest), (r.facets.map FacetRequest.field).Nodup →
      ((calls.foldl withFacet r).facets.map FacetRequest.field).Nodup ∧
        Merges (r.facets ++ calls) (calls.foldl withFacet r).facets) ∧
    (∀ (r : SearchRequest) (maxLimit : Nat), r.check maxLimit = .ok () ↔
      (∀ limit ∈ r.limit, 1 ≤ limit ∧ limit ≤ maxLimit) ∧ (∀ offset ∈ r.offset, 0 ≤ offset) ∧
      (∀ f ∈ r.filters, f.entries ≠ [] ∨ f.anyOf ≠ []) ∧
      (r.facets.map FacetRequest.field).Nodup ∧
      ∀ q ∈ r.query, ∃ c ∈ q.toList, Text.isSpace c = false) ∧
    ∀ v r, ofJson v = .ok r →
      ∀ maxLimit field, r.check maxLimit ≠ .error (.duplicateField field) := by
  refine ⟨fun v => ⟨?_, ?_⟩, fun fields fields' h => ofJson_congr h, fun fields r h => ?_,
    fun r calls hn => ?_, fun r maxLimit => ?_, fun v r h maxLimit field => ?_⟩
  · rintro ⟨r, h⟩
    obtain ⟨fields, rfl, hw, -⟩ := ofJson_eq_ok.1 h
    exact ⟨fields, rfl, hw⟩
  · rintro ⟨fields, rfl, hw⟩
    exact ⟨written fields, ofJson_eq_ok.2 ⟨fields, rfl, hw, rfl⟩⟩
  · obtain rfl := written_of_ofJson h
    have hm := merges_written fields
    exact ⟨rfl, hm.nodup, hm⟩
  · have hm := (merges_self hn).foldl calls
    rw [facets_foldl_withFacet]
    exact ⟨hm.nodup, hm⟩
  · have hpos : ∀ limit : Int, 0 < limit ∧ limit ≤ maxLimit ↔ 1 ≤ limit ∧ limit ≤ maxLimit :=
      fun limit => by omega
    rw [check_eq_ok]
    simp only [hpos, isEmpty_eq_false_iff, isBlank_eq_false_iff, repeatedFacet?_eq_none_iff,
      List.not_mem_nil, not_false_eq_true, implies_true, and_true]
  · obtain ⟨fields, rfl, -, rfl⟩ := ofJson_eq_ok.1 h
    exact check_ne_duplicateField (merges_written fields).nodup maxLimit field

/-- A field with two kinds in two objects, next to a key that is not known. -/
theorem read_and_checked_of_repeated :
    let fields : Record :=
      [("facets", .arr [.obj [("colour", .str "terms"), ("size", .null)],
          .obj [("colour", .str "Date-Histogram")]]),
        ("limit", .num (.int 7)), ("sort_by", .null), ("page", .bool true)]
    ∃ r, ofJson (.obj fields) = .ok r ∧ (r.facets.map FacetRequest.field).Nodup ∧
      r.facets = [⟨"colour", .dateHistogram⟩, ⟨"size", .terms⟩] ∧
      r.check 10 = .ok () ∧ ∀ field, r.check 5 ≠ .error (.duplicateField field) := by
  intro fields
  have hfacets : IsFacets (.arr [.obj [("colour", .str "terms"), ("size", .null)],
      .obj [("colour", .str "Date-Histogram")]]) :=
    .inr ⟨_, rfl, by
      rw [List.forall_mem_cons, List.forall_mem_singleton]
      refine ⟨⟨_, rfl, ?_⟩, _, rfl, ?_⟩
      · rw [List.forall_mem_cons, List.forall_mem_singleton]
        exact ⟨.inr ⟨_, rfl⟩, .inl rfl⟩
      · rw [List.forall_mem_singleton]
        exact .inr ⟨_, rfl⟩⟩
  have hlimit : IsInteger (.num (.int 7)) := ⟨7, rfl, by decide, by decide⟩
  have hw : IsWritten fields := by
    constructor <;> simp [fields, Assoc.find?, hfacets, hlimit]
  obtain ⟨hread, -, hmerged, -, hchecked, hnever⟩ := read_and_checked
  obtain ⟨r, hr⟩ := (hread (.obj fields)).2 ⟨fields, rfl, hw⟩
  obtain ⟨rfl, hnodup, -⟩ := hmerged _ _ hr
  refine ⟨_, hr, hnodup, rfl, (hchecked _ _).2 ⟨?_, ?_, ?_, hnodup, ?_⟩, hnever _ _ hr 5⟩
  · show ∀ limit ∈ some (7 : Int), 1 ≤ limit ∧ limit ≤ (10 : Nat)
    simp
  · exact fun _ h => by cases h
  · exact fun _ h => by cases h
  · exact fun _ h => by cases h

end Polystore.SearchRequest
