import Polystore.Json.Path
import Polystore.Filter.Basic
import Polystore.Search.Score

/-!
# Values inside nested objects

A dotted field is looked at inside one object at its path at a time.  Together these objects have
the values that the whole document has at the field, in the same order.

    doc.valuesAt (path ++ "." ++ rest) =
      (objectsAt path doc).flatMap fun c => (Json.wrapAt path c).valuesAt (path ++ "." ++ rest)
                                                                  (valuesAt_dotted)
    suffix ≠ "" → fieldValues suffix (field ++ suffix) doc = (doc.valuesAt field).map Json.fold
                                                                  (fieldValues_append)
-/

namespace Polystore

/-! ## Pieces of a dotted name -/

namespace Text

section
variable {α : Type} [DecidableEq α]

theorem piecesOf_of_not_mem {sep : α} {l : List α} (h : sep ∉ l) : piecesOf sep l = [l] := by
  induction l with
  | nil => rfl
  | cons c cs ih =>
    have hc : c ≠ sep := fun e => h (e ▸ List.mem_cons_self)
    rw [piecesOf, if_neg hc, ih fun hm => h (List.mem_cons_of_mem _ hm)]

/-- A separator ends one piece and starts the next. -/
theorem piecesOf_append (sep : α) (l r : List α) :
    piecesOf sep (l ++ sep :: r) = piecesOf sep l ++ piecesOf sep r := by
  induction l with
  | nil => rw [List.nil_append, piecesOf, piecesOf, if_pos rfl, List.singleton_append]
  | cons c cs ih =>
    obtain ⟨p, ps, he⟩ := List.exists_cons_of_ne_nil (piecesOf_ne_nil sep cs)
    rw [List.cons_append, piecesOf, piecesOf, ih, he]
    by_cases hc : c = sep
    · rw [if_pos hc, if_pos hc]
      rfl
    · rw [if_neg hc, if_neg hc]
      rfl

end

theorem pieces_dotted (path rest : String) :
    pieces '.' (path ++ "." ++ rest) = pieces '.' path ++ pieces '.' rest := by
  have hl : (path ++ "." ++ rest).toList = path.toList ++ '.' :: rest.toList := by
    simp [String.toList_append]
  rw [pieces, hl, piecesOf_append, List.map_append]
  rfl

theorem pieces_ne_nil (sep : Char) (s : String) : pieces sep s ≠ [] := by
  rw [pieces, ne_eq, List.map_eq_nil_iff]
  exact piecesOf_ne_nil sep s.toList

end Text

/-- A dotted field is its path, a dot and at least one more key. -/
theorem exists_of_nestedPath? {field path : String} (h : nestedPath? field = some path) :
    ∃ rest, field = path ++ "." ++ rest := by
  unfold nestedPath? Text.before? at h
  split at h
  · next hm =>
    obtain rfl := Option.some.inj h
    obtain ⟨before, rest, he, hb⟩ := List.eq_append_cons_of_mem hm
    have hall : ∀ c ∈ before, decide (c ≠ '.') = true := fun c hc =>
      decide_eq_true (ne_of_mem_of_not_mem hc hb)
    have htake : field.toList.takeWhile (· ≠ '.') = before := by
      rw [he, List.takeWhile_append_of_pos hall]
      simp
    refine ⟨String.ofList rest, String.toList_inj.1 ?_⟩
    rw [htake, he]
    simp [String.toList_append]
  · exact absurd h (by simp)

/-! ## Values -/

/-- The objects at a path. -/
def objectsAt (path : String) (doc : Json) : List Json := (doc.valuesAt path).filter Json.isObject

namespace Json

/-- A step goes into the objects of a list. -/
theorem filterMap_get? (key : String) (items : List Json) :
    items.filterMap (get? key) = (items.filter isObject).flatMap (step key) := by
  induction items with
  | nil => rfl
  | cons v items ih =>
    cases v with
    | obj fields =>
      rw [List.filterMap_cons, List.filter_cons_of_pos rfl, List.flatMap_cons, ← ih, step, get?]
      cases Assoc.find? key fields with
      | none => rfl
      | some w => rfl
    | _ => exact ih

/-- A step by a key goes into the objects that a value counts as. -/
theorem valuesAlong_cons (key : String) (keys : List String) (v : Json) :
    valuesAlong (key :: keys) v =
      ((leaves v).filter isObject).flatMap (valuesAlong (key :: keys)) := by
  cases v with
  | obj fields => exact (List.append_nil _).symm
  | arr items =>
    rw [valuesAlong, step, filterMap_get?, List.flatMap_assoc]
    rfl
  | _ => rfl

/-- Beyond a path the values are those of the objects that are found at the path. -/
theorem valuesAlong_append (path : List String) {keys : List String} (hk : keys ≠ []) (v : Json) :
    valuesAlong (path ++ keys) v =
      ((valuesAlong path v).filter isObject).flatMap (valuesAlong keys) := by
  induction path generalizing v with
  | nil =>
    obtain ⟨key, keys, rfl⟩ := List.exists_cons_of_ne_nil hk
    exact valuesAlong_cons key keys v
  | cons k path ih =>
    rw [List.cons_append, valuesAlong, valuesAlong, List.filter_flatMap, List.flatMap_assoc]
    congr 1
    funext w
    exact ih w

/-- A value in a document of its own is found where it was put. -/
theorem valuesAlong_wrapAlong (path keys : List String) (v : Json) :
    valuesAlong (path ++ keys) (wrapAlong path v) = valuesAlong keys v := by
  induction path with
  | nil => rfl
  | cons k path ih =>
    rw [List.cons_append, wrapAlong, valuesAlong, step, Assoc.find?_cons, if_pos rfl]
    show valuesAlong (path ++ keys) (wrapAlong path v) ++ [] = _
    rw [List.append_nil, ih]

end Json

/-- The values at a dotted field are those that the objects at its path have there, each object
taken alone. -/
theorem valuesAt_dotted (path rest : String) (doc : Json) :
    doc.valuesAt (path ++ "." ++ rest) =
      (objectsAt path doc).flatMap fun c =>
        (Json.wrapAt path c).valuesAt (path ++ "." ++ rest) := by
  have hw : ∀ c, (Json.wrapAt path c).valuesAt (path ++ "." ++ rest) =
      Json.valuesAlong (Text.pieces '.' rest) c := fun c => by
    rw [Json.valuesAt, Text.pieces_dotted]
    exact Json.valuesAlong_wrapAlong _ _ c
  simp only [hw]
  rw [Json.valuesAt, Text.pieces_dotted,
    Json.valuesAlong_append _ (Text.pieces_ne_nil '.' rest)]
  rfl

/-! ## Untokenized sub-fields -/

theorem baseField?_append {suffix : String} (hs : suffix ≠ "") (field : String) :
    baseField? suffix (field ++ suffix) = some field := by
  have he : ¬ suffix.isEmpty = true := by
    rw [String.isEmpty_iff]
    exact hs
  rw [baseField?, if_neg he, Text.dropEnd?_append]

/-- The sub-field has the values of the field in lower case. -/
theorem fieldValues_append {suffix : String} (hs : suffix ≠ "") (field : String) (doc : Json) :
    fieldValues suffix (field ++ suffix) doc = (doc.valuesAt field).map Json.fold := by
  rw [fieldValues, baseField?_append hs]

theorem fieldValues_dotted (suffix path rest : String) (doc : Json) :
    fieldValues suffix (path ++ "." ++ rest ++ suffix) doc =
      (objectsAt path doc).flatMap fun c =>
        fieldValues suffix (path ++ "." ++ rest ++ suffix) (Json.wrapAt path c) := by
  by_cases hs : suffix = ""
  · -- without a suffix there are no sub-fields
    subst hs
    simp only [String.append_empty]
    exact valuesAt_dotted path rest doc
  · simp only [fieldValues_append hs]
    rw [valuesAt_dotted, List.map_flatMap]

/-- A test on a sub-field that is made inside each object at the path alone is passed if it is
passed in the whole document. -/
theorem any_objectsAt (suffix path rest : String) (test : Json → Bool) (doc : Json) :
    ((objectsAt path doc).any fun c =>
        (fieldValues suffix (path ++ "." ++ rest ++ suffix) (Json.wrapAt path c)).any test) =
      (fieldValues suffix (path ++ "." ++ rest ++ suffix) doc).any test := by
  rw [fieldValues_dotted suffix path rest doc, List.any_flatMap]

end Polystore
