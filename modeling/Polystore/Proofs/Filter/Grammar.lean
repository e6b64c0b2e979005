import Polystore.Proofs.Filter.Reading
import Polystore.Proofs.Json.Sameness

/-!
# The written form of filters

Which values are filters, and what they are read as.  A value of a field has one of three shapes
(`WellShaped`), and a filter is an object of fields with such values, in which one key may hold a
group of further fields (`Filter.IsWritten`).  Reading accepts these values and no others, and what
it makes of them is written down without it:

    Criterion.ofJson field v = .ok c ↔ WellShaped v ∧ shapeOf v = c         (Criterion.ofJson_eq_ok)
    Filter.ofJson v = .ok f ↔ ∃ fields, v = .obj fields ∧ IsWritten fields ∧ written fields = f
                                                                            (Filter.ofJson_eq_ok)

Objects are maps, and no key stands twice in a map.
-/

namespace Polystore

/-! ## Grammar -/

/-- An operator with an operand that it takes. -/
inductive Operand : String → Json → Prop
  | bound (b : Bound) {v : Json} : v.isScalar = true → Operand b.symbol v
  | affix (a : Affix) (text : String) : Operand a.name (.str text)

/-- What may be asked of a field: a scalar, one of several scalars, or operators, of which at most
one bounds the value from each side. -/
inductive WellShaped : Json → Prop
  | scalar {v : Json} : v.isScalar = true → WellShaped v
  | list {items : List Json} : items ≠ [] → (∀ v ∈ items, v.isScalar = true) →
      WellShaped (.arr items)
  | operators {fields : Record} : fields ≠ [] → (∀ p ∈ fields, Operand p.1 p.2) →
      ¬ (">" ∈ Assoc.keys fields ∧ ">=" ∈ Assoc.keys fields) →
      ¬ ("<" ∈ Assoc.keys fields ∧ "<=" ∈ Assoc.keys fields) → WellShaped (.obj fields)

/-- Bounds in order: lower ones first, open ones before closed ones. -/
def inOrder (limit? : Bound → Option Json) : List (Bound × Json) :=
  [Bound.above, .atLeast, .below, .atMost].filterMap fun b => (limit? b).map fun v => (b, v)

/-- The bounds among some operators. -/
def boundsOf (fields : Record) : List (Bound × Json) :=
  inOrder fun b => Assoc.find? b.symbol fields

/-- The tests on texts among some operators, in order. -/
def affixesOf (fields : Record) : List (Affix × String) :=
  fields.filterMap fun p =>
    match Affix.ofName? p.1, p.2.str? with
    | some a, some text => some (a, text)
    | _, _ => none

/-- What a value asks of a field. -/
def shapeOf : Json → Criterion
  | .arr items => .list items
  | .obj fields => .operators ⟨boundsOf fields, affixesOf fields⟩
  | v => .scalar v

namespace Filter

/-- Fields that have names, with what is asked of them. -/
def AreEntries (fields : Record) : Prop :=
  ∀ p ∈ fields, Text.isBlank p.1 = false ∧ WellShaped p.2

/-- The fields of a filter: entries, and a group of entries. -/
structure IsWritten (fields : Record) : Prop where
  entries : AreEntries (fields.filter fun p => p.1 ≠ groupKey)
  group : ∀ v, (groupKey, v) ∈ fields → ∃ members, v = .obj members ∧ AreEntries members

/-- The fields with what is asked of them. -/
def entriesOf (fields : Record) : List (String × Criterion) :=
  fields.map fun p => (p.1, shapeOf p.2)

/-- The fields of the group. -/
def groupOf (fields : Record) : Record := ((Assoc.find? groupKey fields).bind Json.obj?).getD []

/-- The filter that is written as an object with these fields. -/
def written (fields : Record) : Filter where
  entries := entriesOf (fields.filter fun p => p.1 ≠ groupKey)
  anyOf := entriesOf (groupOf fields)

end Filter

/-! ## Operators -/

theorem Bound.ofSymbol?_eq_some_iff {s : String} {b : Bound} :
    Bound.ofSymbol? s = some b ↔ s = b.symbol := by
  constructor
  · intro h
    unfold ofSymbol? at h
    split at h <;> cases h <;> rfl
  · rintro rfl
    cases b <;> rfl

theorem Affix.ofName?_eq_some_iff {s : String} {a : Affix} :
    Affix.ofName? s = some a ↔ s = a.name := by
  constructor
  · intro h
    unfold ofName? at h
    split at h <;> cases h <;> rfl
  · rintro rfl
    cases a <;> rfl

theorem Bound.symbol_injective : Function.Injective Bound.symbol := fun _ _ h =>
  Option.some.inj ((ofSymbol?_eq_some_iff.2 rfl).symm.trans (ofSymbol?_eq_some_iff.2 h))

theorem Affix.ofName?_symbol (b : Bound) : Affix.ofName? b.symbol = none := by cases b <;> rfl

theorem Bound.ofSymbol?_name (a : Affix) : Bound.ofSymbol? a.name = none := by cases a <;> rfl

section
variable {name : String} {v : Json}

theorem operand_of_bound {b : Bound} (h : Bound.ofSymbol? name = some b) :
    Operand name v ↔ v.isScalar = true := by
  obtain rfl := Bound.ofSymbol?_eq_some_iff.1 h
  refine ⟨fun ho => ?_, .bound b⟩
  generalize hs : b.symbol = s at ho
  cases ho with
  | bound b' hv => exact hv
  | affix a text =>
    rw [hs, Bound.ofSymbol?_name] at h
    cases h

theorem operand_of_affix {a : Affix} (h : Affix.ofName? name = some a) :
    Operand name v ↔ ∃ text, v = .str text := by
  obtain rfl := Affix.ofName?_eq_some_iff.1 h
  constructor
  · intro ho
    generalize hs : a.name = s at ho
    cases ho with
    | bound b hv =>
      rw [hs, Affix.ofName?_symbol] at h
      cases h
    | affix a' text => exact ⟨text, rfl⟩
  · rintro ⟨text, rfl⟩
    exact .affix a text

theorem not_operand (hb : Bound.ofSymbol? name = none) (ha : Affix.ofName? name = none) :
    ¬ Operand name v := by
  intro ho
  cases ho with
  | bound b hv => rw [Bound.ofSymbol?_eq_some_iff.2 rfl] at hb; cases hb
  | affix a text => rw [Affix.ofName?_eq_some_iff.2 rfl] at ha; cases ha

end

namespace Operators

/-- Operators with one more; what is none is passed over. -/
def add (ops : Operators) (p : String × Json) : Operators :=
  match Bound.ofSymbol? p.1 with
  | some b => ops.bound b p.2
  | none =>
    match Affix.ofName? p.1, p.2.str? with
    | some a, some text => ops.affix a text
    | _, _ => ops

/-- Operators are read one after the other, as long as they take their operands. -/
theorem read_eq_ok {field : String} {ops ops' : Operators} {fields : Record} :
    read field ops fields = .ok ops' ↔
      (∀ p ∈ fields, Operand p.1 p.2) ∧ fields.foldl add ops = ops' := by
  induction fields generalizing ops with
  | nil => simp [read]
  | cons p fields ih =>
    obtain ⟨name, v⟩ := p
    rw [read, List.forall_mem_cons, List.foldl_cons, add]
    dsimp only
    cases hb : Bound.ofSymbol? name with
    | some b =>
      dsimp only
      rw [operand_of_bound hb]
      split
      · next hv => rw [ih, and_assoc, and_iff_right hv]
      · next hv => simp [hv]
    | none =>
      dsimp only
      cases ha : Affix.ofName? name with
      | none => simp [not_operand hb ha]
      | some a =>
        dsimp only
        rw [operand_of_affix ha]
        cases v with
        | str text =>
          have htext : ∃ text', Json.str text = .str text' := ⟨text, rfl⟩
          dsimp only [Json.str?]
          rw [ih, and_assoc, and_iff_right htext]
        | null | bool | num | arr | obj => simp [Json.str?]

/-! ### Order of the bounds -/

/-- A bound that is not there yet is placed in order. -/
theorem placeBound_inOrder {limit? : Bound → Option Json} {b : Bound} (h : limit? b = none)
    (v : Json) :
    placeBound b v (inOrder limit?) =
      inOrder fun b' => if b' = b then some v else limit? b' := by
  unfold inOrder
  cases b <;> cases h₁ : limit? .above <;> cases h₂ : limit? .atLeast <;>
    cases h₃ : limit? .below <;> cases h₄ : limit? .atMost <;>
    simp_all [placeBound, Bound.rank]

theorem bounds_foldl_add {fields : Record} {ops : Operators} {limit? : Bound → Option Json}
    (hn : (Assoc.keys fields).Nodup) (hops : ops.bounds = inOrder limit?)
    (hnew : ∀ b, b.symbol ∈ Assoc.keys fields → limit? b = none) :
    (fields.foldl add ops).bounds =
      inOrder fun b => (limit? b).or (Assoc.find? b.symbol fields) := by
  induction fields generalizing ops limit? with
  | nil => simpa using hops
  | cons p fields ih =>
    obtain ⟨name, v⟩ := p
    obtain ⟨hname, hrest⟩ := List.nodup_cons.1 hn
    rw [List.foldl_cons]
    cases hb : Bound.ofSymbol? name with
    | some b =>
      obtain rfl := Bound.ofSymbol?_eq_some_iff.1 hb
      have hnone : limit? b = none := hnew b List.mem_cons_self
      have hadd : (add ops (b.symbol, v)).bounds =
          inOrder fun b' => if b' = b then some v else limit? b' := by
        rw [← placeBound_inOrder hnone, ← hops, add, hb]
        rfl
      rw [ih hrest hadd]
      · congr 1
        funext b'
        by_cases he : b' = b
        · subst he
          rw [if_pos rfl, hnone, Assoc.find?_cons, if_pos rfl]
          rfl
        · have hsymbol : b.symbol ≠ b'.symbol := fun h => he (Bound.symbol_injective h).symm
          rw [if_neg he, Assoc.find?_cons, if_neg hsymbol]
      · intro b' hb'
        have he : b' ≠ b := by
          rintro rfl
          exact hname hb'
        rw [if_neg he]
        exact hnew b' (List.mem_cons_of_mem _ hb')
    | none =>
      have hadd : (add ops (name, v)).bounds = inOrder limit? := by
        rw [← hops, add, hb]
        dsimp only
        split
        · rfl
        · rfl
      rw [ih hrest hadd fun b hm => hnew b (List.mem_cons_of_mem _ hm)]
      congr 1
      funext b
      have hsymbol : name ≠ b.symbol := fun h => by
        rw [Bound.ofSymbol?_eq_some_iff.2 h] at hb
        cases hb
      rw [Assoc.find?_cons, if_neg hsymbol]

theorem affixes_foldl_add (fields : Record) (ops : Operators) :
    (fields.foldl add ops).affixes = ops.affixes ++ affixesOf fields := by
  induction fields generalizing ops with
  | nil => exact (List.append_nil _).symm
  | cons p fields ih =>
    obtain ⟨name, v⟩ := p
    rw [List.foldl_cons, ih, add, affixesOf, affixesOf, List.filterMap_cons]
    dsimp only
    cases hb : Bound.ofSymbol? name with
    | some b =>
      obtain rfl := Bound.ofSymbol?_eq_some_iff.1 hb
      simp [Affix.ofName?_symbol, bound]
    | none =>
      cases Affix.ofName? name with
      | none => rfl
      | some a =>
        cases v.str? with
        | none => rfl
        | some text => simp [affix]

/-- What operators are read as. -/
theorem foldl_add {fields : Record} (hn : (Assoc.keys fields).Nodup) :
    fields.foldl add empty = ⟨boundsOf fields, affixesOf fields⟩ := by
  have hempty : empty.bounds = inOrder fun _ => none := rfl
  have hbounds := bounds_foldl_add hn hempty fun _ _ => rfl
  simp only [Option.none_or] at hbounds
  exact congrArg₂ mk hbounds (affixes_foldl_add fields empty)

/-! ### Checks -/

/-- Bounds in order are in conflict if both bounds of a side are there. -/
theorem boundConflict?_inOrder {limit? : Bound → Option Json} :
    boundConflict? (inOrder limit?) = none ↔
      ¬ (limit? .above ≠ none ∧ limit? .atLeast ≠ none) ∧
        ¬ (limit? .below ≠ none ∧ limit? .atMost ≠ none) := by
  unfold inOrder
  cases h₁ : limit? .above <;> cases h₂ : limit? .atLeast <;> cases h₃ : limit? .below <;>
    cases h₄ : limit? .atMost <;> simp [boundConflict?, Bound.isLower, h₁, h₂, h₃, h₄]

theorem affixConflict?_eq_none_iff {affixes : List (Affix × String)} :
    affixConflict? affixes = none ↔ (Assoc.keys affixes).Nodup := by
  induction affixes with
  | nil => simp [affixConflict?, Assoc.keys]
  | cons p affixes ih =>
    obtain ⟨a, text⟩ := p
    have hany : (affixes.any fun p => p.1 == a) = true ↔ a ∈ Assoc.keys affixes := by
      simp [Assoc.keys]
    have hkeys : Assoc.keys ((a, text) :: affixes) = a :: Assoc.keys affixes := rfl
    rw [affixConflict?, hkeys, List.nodup_cons, ← ih]
    split
    · next h => exact ⟨fun hn => (by cases hn), fun hn => absurd (hany.1 h) hn.1⟩
    · next h => exact ⟨fun hn => ⟨fun hm => h (hany.2 hm), hn⟩, fun hn => hn.2⟩

end Operators

theorem mem_boundsOf_iff {fields : Record} {b : Bound} {v : Json} :
    (b, v) ∈ boundsOf fields ↔ Assoc.find? b.symbol fields = some v := by
  unfold boundsOf inOrder
  cases b <;> simp [List.mem_filterMap]

theorem mem_affixesOf_iff {fields : Record} {a : Affix} {text : String} :
    (a, text) ∈ affixesOf fields ↔ (a.name, .str text) ∈ fields := by
  rw [affixesOf, List.mem_filterMap]
  constructor
  · rintro ⟨⟨name, v⟩, hp, h⟩
    dsimp only at h
    split at h
    · next a' text' ha ht =>
      cases h
      obtain rfl := Affix.ofName?_eq_some_iff.1 ha
      cases v with
      | str s =>
        cases ht
        exact hp
      | null | bool | num | arr | obj => cases ht
    · cases h
  · intro h
    refine ⟨_, h, ?_⟩
    dsimp only
    rw [Affix.ofName?_eq_some_iff.2 rfl]
    rfl

/-- A test is repeated only if its key is. -/
theorem nodup_affixesOf {fields : Record} (hn : (Assoc.keys fields).Nodup) :
    (Assoc.keys (affixesOf fields)).Nodup := by
  induction fields with
  | nil => exact List.nodup_nil
  | cons p fields ih =>
    obtain ⟨name, v⟩ := p
    obtain ⟨hname, hrest⟩ := List.nodup_cons.1 hn
    rw [affixesOf, List.filterMap_cons]
    dsimp only
    split
    · exact ih hrest
    · next e he =>
      obtain ⟨a, text⟩ := e
      have hfirst : (a, text) ∈ affixesOf [(name, v)] :=
        List.mem_filterMap.2 ⟨_, List.mem_singleton_self _, he⟩
      obtain ⟨rfl, rfl⟩ := Prod.mk.inj (List.mem_singleton.1 (mem_affixesOf_iff.1 hfirst))
      refine List.nodup_cons.2 ⟨fun hm => hname ?_, ih hrest⟩
      obtain ⟨⟨a', text'⟩, hq, rfl⟩ := List.mem_map.1 hm
      have hfield := mem_affixesOf_iff.1 (show (a', text') ∈ affixesOf fields from hq)
      have hkey : a'.name ∈ Assoc.keys fields := Assoc.mem_keys_of_mem hfield
      exact hkey

/-- Operators of which each takes its operand have a bound or a test, unless there is none. -/
theorem exists_operator_iff {fields : Record} (hn : (Assoc.keys fields).Nodup)
    (h : ∀ p ∈ fields, Operand p.1 p.2) :
    boundsOf fields ≠ [] ∨ affixesOf fields ≠ [] ↔ fields ≠ [] := by
  constructor
  · rintro he rfl
    exact he.elim (fun hb => hb rfl) fun ha => ha rfl
  · intro hne
    obtain ⟨⟨name, v⟩, hp⟩ := List.exists_mem_of_ne_nil fields hne
    have ho : Operand name v := h _ hp
    cases ho with
    | bound b hv =>
      exact .inl (List.ne_nil_of_mem (mem_boundsOf_iff.2 (Assoc.find?_eq_some_of_mem hn hp)))
    | affix a text => exact .inr (List.ne_nil_of_mem (mem_affixesOf_iff.2 hp))

/-- The check of operators that were read. -/
theorem check_read_eq_ok {field : String} {fields : Record} (hn : (Assoc.keys fields).Nodup)
    (h : ∀ p ∈ fields, Operand p.1 p.2) :
    Operators.check field ⟨boundsOf fields, affixesOf fields⟩ = .ok () ↔
      fields ≠ [] ∧ ¬ (">" ∈ Assoc.keys fields ∧ ">=" ∈ Assoc.keys fields) ∧
        ¬ ("<" ∈ Assoc.keys fields ∧ "<=" ∈ Assoc.keys fields) := by
  have hfind : ∀ key, Assoc.find? key fields ≠ none ↔ key ∈ Assoc.keys fields := fun key => by
    rw [ne_eq, Assoc.find?_eq_none_iff, not_not]
  rw [Operators.check_eq_ok, exists_operator_iff hn h, boundsOf, Operators.boundConflict?_inOrder,
    Operators.affixConflict?_eq_none_iff, and_iff_left (nodup_affixesOf hn)]
  simp only [hfind, Bound.symbol]

/-! ## Criteria -/

/-- Reading what is asked of a field accepts the well-shaped values. -/
theorem Criterion.ofJson_eq_ok {field : String} {v : Json} (hv : v.isWellKeyed = true)
    {c : Criterion} : ofJson field v = .ok c ↔ WellShaped v ∧ shapeOf v = c := by
  cases v with
  | null =>
    refine ⟨fun h => absurd h Outcome.throw_ne_ok, fun h => ?_⟩
    cases h.1 with
    | scalar hs => cases hs
  | bool b => exact Outcome.pure_eq_ok.trans (and_iff_right (.scalar rfl)).symm
  | num n => exact Outcome.pure_eq_ok.trans (and_iff_right (.scalar rfl)).symm
  | str s => exact Outcome.pure_eq_ok.trans (and_iff_right (.scalar rfl)).symm
  | arr items =>
    have hshaped : WellShaped (.arr items) ↔ items ≠ [] ∧ ∀ v ∈ items, v.isScalar = true := by
      constructor
      · intro h
        cases h with
        | scalar hs => cases hs
        | list hne hs => exact ⟨hne, hs⟩
      · rintro ⟨hne, hs⟩
        exact .list hne hs
    rw [ofJson, hshaped]
    split
    · next he => simp [List.isEmpty_iff.1 he]
    · next he =>
      rw [List.isEmpty_iff] at he
      split
      · next hs =>
        rw [Outcome.pure_eq_ok, and_iff_right ⟨he, List.all_eq_true.1 hs⟩]
        rfl
      · next hs =>
        refine ⟨fun h => absurd h Outcome.throw_ne_ok, fun h => ?_⟩
        exact absurd (List.all_eq_true.2 h.1.2) hs
  | obj fields =>
    obtain ⟨hn, -⟩ := (Json.isWellKeyed_obj_iff fields).1 hv
    have hshaped : WellShaped (.obj fields) ↔ (∀ p ∈ fields, Operand p.1 p.2) ∧ fields ≠ [] ∧
        ¬ (">" ∈ Assoc.keys fields ∧ ">=" ∈ Assoc.keys fields) ∧
        ¬ ("<" ∈ Assoc.keys fields ∧ "<=" ∈ Assoc.keys fields) := by
      constructor
      · intro h
        cases h with
        | scalar hs => cases hs
        | operators hne ho hl hu => exact ⟨ho, hne, hl, hu⟩
      · rintro ⟨ho, hne, hl, hu⟩
        exact .operators hne ho hl hu
    rw [ofJson, hshaped, Outcome.bind_eq_ok]
    simp only [Operators.read_eq_ok, Operators.foldl_add hn, Outcome.then_eq_ok,
      Outcome.pure_eq_ok]
    constructor
    · rintro ⟨_, ⟨ho, rfl⟩, hc, rfl⟩
      exact ⟨⟨ho, (check_read_eq_ok hn ho).1 hc⟩, rfl⟩
    · rintro ⟨⟨ho, hc⟩, rfl⟩
      exact ⟨_, ⟨ho, rfl⟩, (check_read_eq_ok hn ho).2 hc, rfl⟩

-- bounds come in their order, not in that of the object
example : shapeOf (.obj [("<", .ofNat 65), ("endsWith", .str "x"), (">=", .ofNat 18)]) =
    .operators ⟨[(.atLeast, .ofNat 18), (.below, .ofNat 65)], [(.endsWith, "x")]⟩ := rfl

/-! ## Filters -/

namespace Filter

theorem keys_append_singleton (l : List (String × Criterion)) (field : String) (c : Criterion) :
    Assoc.keys (l ++ [(field, c)]) = Assoc.keys l ++ [field] := List.map_append

/-- Members are added to the group one after the other. -/
theorem readGroup_eq_ok {f g : Filter} {members : Record}
    (hv : ∀ p ∈ members, p.2.isWellKeyed = true)
    (hn : (Assoc.keys f.anyOf ++ Assoc.keys members).Nodup) :
    f.readGroup members = .ok g ↔
      AreEntries members ∧ { f with anyOf := f.anyOf ++ entriesOf members } = g := by
  induction members generalizing f with
  | nil => simp [readGroup, AreEntries, entriesOf]
  | cons p members ih =>
    obtain ⟨field, v⟩ := p
    obtain ⟨hfirst, hrest⟩ := List.forall_mem_cons.1 hv
    have hnew : field ∉ Assoc.keys f.anyOf := fun hm =>
      (List.nodup_append.1 hn).2.2 field hm field List.mem_cons_self rfl
    have hnext : (Assoc.keys (f.anyOf ++ [(field, shapeOf v)]) ++ Assoc.keys members).Nodup := by
      rw [keys_append_singleton, List.append_assoc]
      exact hn
    simp only [readGroup, Outcome.bind_eq_ok, Criterion.ofJson_eq_ok hfirst, pushedAny_eq_ok]
    rw [AreEntries, List.forall_mem_cons]
    constructor
    · rintro ⟨_, ⟨hshaped, rfl⟩, _, ⟨⟨hb, -⟩, rfl⟩, hr⟩
      obtain ⟨hentries, rfl⟩ := (ih hrest hnext).1 hr
      exact ⟨⟨⟨hb, hshaped⟩, hentries⟩, by simp [entriesOf]⟩
    · rintro ⟨⟨⟨hb, hshaped⟩, hentries⟩, rfl⟩
      refine ⟨_, ⟨hshaped, rfl⟩, _, ⟨⟨hb, hnew⟩, rfl⟩, (ih hrest hnext).2 ⟨hentries, ?_⟩⟩
      simp [entriesOf]

/-! ### Fields one by one -/

section
variable {field : String} {v : Json} {fields members : Record}

theorem isWritten_cons_of_ne (h : field ≠ groupKey) :
    IsWritten ((field, v) :: fields) ↔
      (Text.isBlank field = false ∧ WellShaped v) ∧ IsWritten fields := by
  have hfilter : ((field, v) :: fields).filter (fun p => p.1 ≠ groupKey) =
      (field, v) :: fields.filter fun p => p.1 ≠ groupKey :=
    List.filter_cons_of_pos (by simpa using h)
  have hmem : ∀ w, (groupKey, w) ∈ (field, v) :: fields ↔ (groupKey, w) ∈ fields := by
    simp [Ne.symm h]
  constructor
  · rintro ⟨hentries, hgroup⟩
    rw [hfilter, AreEntries, List.forall_mem_cons] at hentries
    exact ⟨hentries.1, hentries.2, fun w hw => hgroup w ((hmem w).2 hw)⟩
  · rintro ⟨hfirst, hentries, hgroup⟩
    refine ⟨?_, fun w hw => hgroup w ((hmem w).1 hw)⟩
    rw [hfilter, AreEntries, List.forall_mem_cons]
    exact ⟨hfirst, hentries⟩

theorem written_cons_of_ne (h : field ≠ groupKey) :
    written ((field, v) :: fields) =
      ⟨(field, shapeOf v) :: (written fields).entries, (written fields).anyOf⟩ := by
  unfold written groupOf
  rw [List.filter_cons_of_pos (by simpa using h), Assoc.find?_cons, if_neg h]
  rfl

theorem isWritten_cons_group (h : groupKey ∉ Assoc.keys fields) :
    IsWritten ((groupKey, v) :: fields) ↔
      (∃ members, v = .obj members ∧ AreEntries members) ∧ IsWritten fields := by
  have hfilter : ((groupKey, v) :: fields).filter (fun p => p.1 ≠ groupKey) =
      fields.filter fun p => p.1 ≠ groupKey := List.filter_cons_of_neg (by simp)
  have hnot : ∀ w, (groupKey, w) ∉ fields := fun w hw => h (Assoc.mem_keys_of_mem hw)
  constructor
  · rintro ⟨hentries, hgroup⟩
    rw [hfilter] at hentries
    exact ⟨hgroup v List.mem_cons_self, hentries, fun w hw => absurd hw (hnot w)⟩
  · rintro ⟨hgroup, hentries, -⟩
    refine ⟨by rwa [hfilter], fun w hw => ?_⟩
    rcases List.mem_cons.1 hw with he | hw
    · obtain rfl := (Prod.mk.inj he).2
      exact hgroup
    · exact absurd hw (hnot w)

theorem anyOf_written_of_notMem (h : groupKey ∉ Assoc.keys fields) :
    (written fields).anyOf = [] := by
  rw [written, groupOf, (Assoc.find?_eq_none_iff _ _).2 h]
  rfl

theorem written_cons_group :
    written ((groupKey, .obj members) :: fields) =
      ⟨(written fields).entries, entriesOf members⟩ := by
  unfold written groupOf
  rw [List.filter_cons_of_neg (by simp), Assoc.find?_cons, if_pos rfl]
  rfl

end

/-- Entries are added one after the other, and the members of the group in their place. -/
theorem readEntries_eq_ok {f g : Filter} {fields : Record}
    (hv : ∀ p ∈ fields, p.2.isWellKeyed = true)
    (hn : (Assoc.keys f.entries ++ Assoc.keys fields).Nodup)
    (hg : groupKey ∈ Assoc.keys fields → f.anyOf = []) :
    f.readEntries fields = .ok g ↔
      IsWritten fields ∧
        ⟨f.entries ++ (written fields).entries, f.anyOf ++ (written fields).anyOf⟩ = g := by
  induction fields generalizing f with
  | nil =>
    have hnil : IsWritten [] := ⟨by simp [AreEntries], by simp⟩
    rw [readEntries, Outcome.pure_eq_ok, and_iff_right hnil]
    simp [written, groupOf, entriesOf]
  | cons p fields ih =>
    obtain ⟨field, v⟩ := p
    obtain ⟨hfirst, hrest⟩ := List.forall_mem_cons.1 hv
    rw [readEntries]
    split
    · next he =>
      subst he
      have hnot : groupKey ∉ Assoc.keys fields :=
        (List.nodup_cons.1 (List.nodup_append.1 hn).2.1).1
      have hnext : (Assoc.keys f.entries ++ Assoc.keys fields).Nodup :=
        hn.sublist ((List.sublist_cons_self _ _).append_left _)
      rw [isWritten_cons_group hnot]
      cases v with
      | obj members =>
        obtain ⟨hkeys, hmembers⟩ := (Json.isWellKeyed_obj_iff members).1 hfirst
        have hnone : f.anyOf = [] := hg List.mem_cons_self
        have hgroup : (Assoc.keys f.anyOf ++ Assoc.keys members).Nodup := by
          rw [hnone]
          exact hkeys
        have hobj : ∀ P : Prop, (∃ ms, Json.obj members = .obj ms ∧ AreEntries ms) ∧ P ↔
            AreEntries members ∧ P := by simp
        simp only [Json.obj?, Outcome.bind_eq_ok, readGroup_eq_ok hmembers hgroup, and_assoc, hobj,
          exists_and_left, exists_eq_left']
        refine and_congr_right fun _ => ?_
        have hstep := ih (f := ⟨f.entries, f.anyOf ++ entriesOf members⟩) hrest hnext
          fun hm => absurd hm hnot
        rw [hstep, written_cons_group, anyOf_written_of_notMem hnot, List.append_nil]
      | null | bool | num | str | arr => simp [Json.obj?]
    · next he =>
      have hnew : field ∉ Assoc.keys f.entries := fun hm =>
        (List.nodup_append.1 hn).2.2 field hm field List.mem_cons_self rfl
      have hnext : (Assoc.keys (f.entries ++ [(field, shapeOf v)]) ++ Assoc.keys fields).Nodup := by
        rw [keys_append_singleton, List.append_assoc]
        exact hn
      have hgroup : groupKey ∈ Assoc.keys fields → f.anyOf = [] := fun hm =>
        hg (List.mem_cons_of_mem _ hm)
      have hstep := ih (f := ⟨f.entries ++ [(field, shapeOf v)], f.anyOf⟩) hrest hnext hgroup
      rw [isWritten_cons_of_ne he, written_cons_of_ne he]
      simp only [Outcome.bind_eq_ok, Criterion.ofJson_eq_ok hfirst, pushed_eq_ok]
      constructor
      · rintro ⟨_, ⟨hshaped, rfl⟩, _, ⟨⟨hb, -⟩, rfl⟩, hr⟩
        obtain ⟨hwritten, rfl⟩ := hstep.1 hr
        exact ⟨⟨⟨hb, hshaped⟩, hwritten⟩, by simp⟩
      · rintro ⟨⟨⟨hb, hshaped⟩, hwritten⟩, rfl⟩
        refine ⟨_, ⟨hshaped, rfl⟩, _, ⟨⟨hb, hnew⟩, rfl⟩, hstep.2 ⟨hwritten, ?_⟩⟩
        simp

/-- A filter is read from the objects that write one down, and it is the filter that they write
down. -/
theorem ofJson_eq_ok {v : Json} (hv : v.isWellKeyed = true) {f : Filter} :
    ofJson v = .ok f ↔ ∃ fields, v = .obj fields ∧ IsWritten fields ∧ written fields = f := by
  cases v with
  | obj fields =>
    obtain ⟨hkeys, hfields⟩ := (Json.isWellKeyed_obj_iff fields).1 hv
    have hn : (Assoc.keys empty.entries ++ Assoc.keys fields).Nodup := hkeys
    show readEntries empty fields = .ok f ↔ _
    rw [readEntries_eq_ok hfields hn fun _ => rfl]
    simp [empty]
  | null | bool | num | str | arr => simp [ofJson]

end Filter

end Polystore
