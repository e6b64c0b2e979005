import Polystore.Proofs.Search.TopValues

/-!
# Nulls in documents

Where a document has nothing, and where `null` is one of its values.  A path leads to values through
objects and lists of objects.  A `null` at its end counts as nothing, but a list at its end counts
as its items, and a `null` among them is a value like any other:

    doc.valuesAt path = [] ↔ every value that path leads to is null or []    (valuesAt_eq_nil_iff)
    null ∈ doc.valuesAt path ↔ path leads to a list with null in it         (null_mem_valuesAt_iff)

Queries for fields with a value, sort keys and facets see a document by these values alone.
-/

namespace Polystore

namespace Json

/-! ## Where a path leads -/

/-- Keys lead from a value to another one: a key leads into an object, or into any object of a
list. -/
inductive Reaches : List String → Json → Json → Prop
  | here {v : Json} : Reaches [] v v
  | field {key : String} {keys : List String} {fields : Record} {v e : Json} :
      Assoc.find? key fields = some v → Reaches keys v e → Reaches (key :: keys) (.obj fields) e
  | item {key : String} {keys : List String} {items : List Json} {fields : Record} {v e : Json} :
      .obj fields ∈ items → Assoc.find? key fields = some v → Reaches keys v e →
      Reaches (key :: keys) (.arr items) e

/-- The path leads to a list with `null` in it. -/
def ListsNull (path : String) (doc : Json) : Prop :=
  ∃ items, Reaches (Text.pieces '.' path) doc (.arr items) ∧ .null ∈ items

/-- Whatever the path leads to is `null` or an empty list. -/
def HasNothing (path : String) (doc : Json) : Prop :=
  ∀ v, Reaches (Text.pieces '.' path) doc v → v = .null ∨ v = .arr []

variable {key path : String} {keys : List String} {v w doc : Json}

theorem get?_eq_some_iff : v.get? key = some w ↔
    ∃ fields, v = .obj fields ∧ Assoc.find? key fields = some w := by
  cases v with
  | obj fields => simp [get?]
  | null | bool | num | str | arr => simp [get?]

theorem reaches_cons_iff : Reaches (key :: keys) v w ↔ ∃ x ∈ step key v, Reaches keys x w := by
  constructor
  · intro h
    cases h with
    | field hf hr => exact ⟨_, Option.mem_toList.2 hf, hr⟩
    | item hm hf hr => exact ⟨_, List.mem_filterMap.2 ⟨_, hm, get?_eq_some_iff.2 ⟨_, rfl, hf⟩⟩, hr⟩
  · rintro ⟨x, hx, hr⟩
    cases v with
    | obj fields => exact .field (Option.mem_toList.1 hx) hr
    | arr items =>
      obtain ⟨y, hy, hget⟩ := List.mem_filterMap.1 hx
      obtain ⟨fields, rfl, hf⟩ := get?_eq_some_iff.1 hget
      exact .item hy hf hr
    | null | bool | num | str => exact absurd hx List.not_mem_nil

/-- The values along keys are those that the values at their end count as. -/
theorem mem_valuesAlong_iff : w ∈ valuesAlong keys v ↔ ∃ e, Reaches keys v e ∧ w ∈ leaves e := by
  induction keys generalizing v with
  | nil =>
    constructor
    · intro h
      exact ⟨v, .here, h⟩
    · rintro ⟨e, he, h⟩
      cases he
      exact h
  | cons key keys ih =>
    rw [valuesAlong, List.mem_flatMap]
    simp only [ih, reaches_cons_iff]
    constructor
    · rintro ⟨x, hx, e, he, h⟩
      exact ⟨e, ⟨x, hx, he⟩, h⟩
    · rintro ⟨e, ⟨x, hx, he⟩, h⟩
      exact ⟨x, hx, e, he, h⟩

theorem null_mem_leaves_iff : .null ∈ leaves v ↔ ∃ items, v = .arr items ∧ .null ∈ items := by
  cases v with
  | arr items => simp [leaves]
  | null | bool | num | str | obj => simp [leaves]

theorem leaves_eq_nil_iff : leaves v = [] ↔ v = .null ∨ v = .arr [] := by
  cases v with
  | arr items => simp [leaves]
  | null | bool | num | str | obj => simp [leaves]

/-- `null` is a value at a path exactly if it stands in a list there. -/
theorem null_mem_valuesAt_iff : .null ∈ doc.valuesAt path ↔ doc.ListsNull path := by
  rw [valuesAt, mem_valuesAlong_iff]
  simp only [null_mem_leaves_iff]
  constructor
  · rintro ⟨e, he, items, rfl, hm⟩
    exact ⟨items, he, hm⟩
  · rintro ⟨items, he, hm⟩
    exact ⟨.arr items, he, items, rfl, hm⟩

/-- There is no value at a path exactly if it leads to nothing but `null` and empty lists. -/
theorem valuesAt_eq_nil_iff : doc.valuesAt path = [] ↔ doc.HasNothing path := by
  rw [valuesAt, List.eq_nil_iff_forall_not_mem]
  simp only [mem_valuesAlong_iff, HasNothing, ← leaves_eq_nil_iff, List.eq_nil_iff_forall_not_mem]
  constructor
  · intro h e he w hw
    exact h w ⟨e, he, hw⟩
  · rintro h w ⟨e, he, hw⟩
    exact h e he w hw

/-- Only `null` is the same as `null`. -/
theorem null_same_iff : Json.null.same v = true ↔ v = .null := by
  cases v with
  | null => simp [same]
  | bool | num | str | arr | obj => simp [same]

theorem same_null (v : Json) : v.same .null = Json.null.same v := by
  cases v with
  | null => rfl
  | bool | num | str | arr | obj => simp [same]

instance (path : String) (doc : Json) : Decidable (doc.ListsNull path) :=
  decidable_of_iff ((doc.valuesAt path).any fun v => Json.null.same v) <| by
    rw [← null_mem_valuesAt_iff, List.any_eq_true]
    simp only [null_same_iff]
    exact ⟨fun ⟨v, hm, hv⟩ => hv ▸ hm, fun hm => ⟨_, hm, rfl⟩⟩

theorem fold_eq_null_iff : v.fold = .null ↔ v = .null := by
  cases v with
  | null => simp [fold]
  | bool | num | str | arr | obj => simp [fold]

end Json

/-! ## Values of a field -/

/-- The field that a field of a search is stored as. -/
def storedField (suffix field : String) : String := (baseField? suffix field).getD field

section
variable {suffix field : String} {doc : Json}

theorem fieldValues_eq_nil_iff :
    fieldValues suffix field doc = [] ↔ doc.HasNothing (storedField suffix field) := by
  rw [← Json.valuesAt_eq_nil_iff, fieldValues, storedField]
  cases baseField? suffix field with
  | none => rfl
  | some base => exact List.map_eq_nil_iff

theorem null_mem_fieldValues_iff :
    .null ∈ fieldValues suffix field doc ↔ doc.ListsNull (storedField suffix field) := by
  rw [← Json.null_mem_valuesAt_iff, fieldValues, storedField]
  cases baseField? suffix field with
  | none => rfl
  | some base =>
    rw [List.mem_map]
    simp only [Json.fold_eq_null_iff, exists_eq_right, Option.getD_some]

/-- Documents count for `null` in a facet if they have it in a list. -/
theorem countFor_null (suffix field : String) (docs : List Json) :
    countFor .null (valueCounts suffix field docs) =
      docs.countP fun d => d.ListsNull (storedField suffix field) := by
  rw [countFor_valueCounts fun d _ v _ => Json.same_null v]
  refine List.countP_congr fun d _ => ?_
  rw [decide_eq_true_iff, ← null_mem_fieldValues_iff, List.any_eq_true]
  simp only [Json.null_same_iff, exists_eq_right]

section Listed
variable {size : Nat} {docs : List Json} {counts : List (Json × Nat)}
  (htop : topValues? suffix field size docs = some counts)
include htop

/-- The number for `null` in a facet is that of these documents. -/
theorem count_null {n : Nat} (h : (.null, n) ∈ counts) :
    0 < n ∧ n = docs.countP fun d => d.ListsNull (storedField suffix field) := by
  have hn : countFor .null (valueCounts suffix field docs) = n :=
    countFor_eq (Json.null_same_iff.2 rfl) (areDistinct_valueCounts suffix field docs)
      (mem_valueCounts_of_mem_topValues? htop h)
  rw [countFor_null] at hn
  obtain ⟨d, hd, hnull⟩ := mem_fieldValues_of_mem_topValues? htop h
  refine ⟨?_, hn.symm⟩
  rw [← hn]
  exact List.countP_pos_iff.2 ⟨d, hd, decide_eq_true (null_mem_fieldValues_iff.1 hnull)⟩

/-- If there is such a document, a facet that is not cut lists `null`. -/
theorem exists_null_of_listsNull (hlt : counts.length < size) {d : Json} (hd : d ∈ docs)
    (h : d.ListsNull (storedField suffix field)) : ∃ n, (.null, n) ∈ counts := by
  have hpos : 0 < countFor .null (valueCounts suffix field docs) := by
    rw [countFor_null]
    exact List.countP_pos_iff.2 ⟨d, hd, decide_eq_true h⟩
  obtain ⟨⟨v, n⟩, hp, hsame, -⟩ := exists_of_countFor_pos hpos
  rw [Json.same_null, Json.null_same_iff] at hsame
  subst hsame
  exact ⟨n, mem_topValues_of_length_lt htop hlt hp⟩

end Listed

end

/-! ## Queries, sort keys and facets -/

/-- A field has nothing exactly if its path leads to `null` and empty lists alone; queries for
fields with a value and sort keys see nothing there.  A `null` in a list is a value, and a facet
lists it with the number of documents that have it. -/
theorem nulls_seen (suffix : String) :
    -- the values at a path
    (∀ (path : String) (doc : Json),
      (.null ∈ doc.valuesAt path ↔ doc.ListsNull path) ∧
      (doc.valuesAt path = [] ↔ doc.HasNothing path)) ∧
    -- fields that must have a value
    (∀ (r : SearchRequest) (field : String) (doc : Json),
      (r.presence field).holds suffix doc = true ↔
        ¬ doc.HasNothing (storedField suffix field)) ∧
    -- fields that must have a value inside an object
    (∀ (r : SearchRequest) (field path : String) (doc : Json),
      (r.nestedPresence (field, path)).holds suffix doc = true ↔
        ∃ c ∈ objectsAt path doc,
          ¬ (Json.wrapAt path c).HasNothing (storedField suffix field)) ∧
    -- sort keys
    (∀ (field : String) (doc : Record),
      Search.sortValue? suffix field doc = none ↔
        (Json.obj doc).HasNothing (storedField suffix field)) ∧
    -- facets, which are answered if they have few values
    (∀ (field : String) (size : Nat) (docs : List Json),
      (∀ counts, topValues? suffix field size docs = some counts →
        (∀ n, (.null, n) ∈ counts →
          0 < n ∧ n = docs.countP fun d => d.ListsNull (storedField suffix field)) ∧
        (counts.length < size → (∃ d ∈ docs, d.ListsNull (storedField suffix field)) →
          ∃ n, (.null, n) ∈ counts)) ∧
      ((valueCounts suffix field docs).length ≤ 20 →
        ∃ counts, topValues? suffix field size docs = some counts)) := by
  refine ⟨fun path doc => ⟨Json.null_mem_valuesAt_iff, Json.valuesAt_eq_nil_iff⟩,
    fun r field doc => ?_, fun r field path doc => ?_, fun field doc => ?_,
    fun field size docs => ⟨fun counts htop => ⟨fun n hn => ?_, fun hlt hd => ?_⟩,
      fun hfew => exists_topValues? size (.inl hfew)⟩⟩
  · rw [SearchRequest.holds_presence, ne_eq, fieldValues_eq_nil_iff]
  · rw [SearchRequest.holds_nestedPresence, HasNested]
    simp only [ne_eq, fieldValues_eq_nil_iff]
  · rw [Search.sortValue?, List.head?_eq_none_iff, fieldValues_eq_nil_iff]
  · exact count_null htop hn
  · obtain ⟨d, hd, hnull⟩ := hd
    exact exists_null_of_listsNull htop hlt hd hnull

/-- A facet over one document that lists `null` and one that has it as the whole field. -/
theorem nulls_seen_twoDocuments :
    let docs : List Json := [.obj [("f", .arr [.null])], .obj [("f", .null)]]
    ∃ counts, topValues? ".raw" "f.raw" 10 docs = some counts ∧ (.null, 1) ∈ counts := by
  intro docs
  obtain ⟨-, -, -, -, hfacets⟩ := nulls_seen ".raw"
  obtain ⟨hlists, -⟩ := hfacets "f.raw" 10 docs
  have htop : topValues? ".raw" "f.raw" 10 docs = some [(.null, 1)] := rfl
  obtain ⟨hcount, hnull⟩ := hlists _ htop
  obtain ⟨n, hn⟩ := hnull (by decide) ⟨_, List.mem_cons_self, by decide⟩
  have hone : n = 1 := (hcount n hn).2
  exact ⟨_, htop, hone ▸ hn⟩

/-- A document with a list of one `null` has `null` as a value, which is found as a value and listed
by a facet. -/
theorem null_isValue :
    let doc : Record := [("f", .arr [.null])]
    (Json.obj doc).valuesAt "f" = [.null] ∧
      (Query.hasValue "f" none).holds ".raw" (.obj doc) = true ∧
      Search.sortValue? ".raw" "f.raw" doc = some .null ∧
      topValues? ".raw" "f.raw" 10 [.obj doc] = some [(.null, 1)] ∧
      ¬ ∀ (doc : Json) (path : String), .null ∉ doc.valuesAt path := by
  intro doc
  have hv : (Json.obj doc).valuesAt "f" = [.null] := rfl
  refine ⟨hv, ?_, ?_, ?_, fun h => h (.obj doc) "f" ?_⟩
  · rw [Query.holds_hasValue]
    rfl
  · rfl
  · rfl
  · rw [hv]
    exact List.mem_singleton_self _

end Polystore
