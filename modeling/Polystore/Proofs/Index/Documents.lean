import Mathlib.Data.List.Induction
import Polystore.Response.Hits
import Polystore.Search.Index

/-!
# Documents of an index

What each call on documents does to the documents of an index, and what it reports.  An index is a
map from ids to documents that remembers the order in which its ids came:

    get? id after a call = what the call makes of get? id before it
    ids after a call     = ids before it, then those that it names, as far as they have a document

A list of documents is stored one by one (`putAll_eq_foldl`), except that a list without documents
still brings its index into being.
-/

namespace Polystore.SearchIndex

variable {s : SearchIndex} {index other id : String}

/-- The documents of an index; one that does not exist has none. -/
def held (s : SearchIndex) (index : String) : Documents := (s.documents? index).getD []

/-- The ids of an index, in order. -/
def ids (s : SearchIndex) (index : String) : List String := Assoc.keys (s.held index)

/-- No index has two documents with one id. -/
def Distinct (s : SearchIndex) : Prop := ∀ index, (s.ids index).Nodup

theorem get?_eq_find? (s : SearchIndex) (index id : String) :
    s.get? index id = Assoc.find? id (s.held index) := by
  unfold get? held
  cases s.documents? index with
  | none => rfl
  | some docs => rfl

theorem mem_ids : id ∈ s.ids index ↔ (s.get? index id).isSome = true := by
  rw [get?_eq_find?, ids]
  constructor
  · intro h
    obtain ⟨doc, hf⟩ := Assoc.exists_find?_of_mem_keys h
    rw [hf]
    rfl
  · intro h
    obtain ⟨doc, hf⟩ := Option.isSome_iff_exists.1 h
    exact Assoc.mem_keys_of_find?_eq_some hf

/-! ## Changes -/

section
variable (s : SearchIndex) (index other : String) (f g : Documents → Documents)

theorem documents?_change :
    (s.change index f).documents? other =
      if other = index then some (f (s.held index)) else s.documents? other :=
  Assoc.find?_put _ _ _ _

theorem held_change :
    (s.change index f).held other = if other = index then f (s.held index) else s.held other := by
  rw [held, documents?_change]
  split
  · rfl
  · rfl

/-- Two changes of one index are one change. -/
theorem change_change :
    (s.change index f).change index g = s.change index fun docs => g (f docs) := by
  have hf : (s.change index f).held index = f (s.held index) := by
    rw [held, documents?_change, if_pos rfl, Option.getD_some]
  have hput : ((s.change index f).change index g).indices =
      Assoc.put index (g ((s.change index f).held index))
        (Assoc.put index (f (s.held index)) s.indices) := rfl
  rw [hf, Assoc.put_put] at hput
  exact congrArg (SearchIndex.mk s.suffix) hput

theorem get?_create (id : String) : (s.create index).get? other id = s.get? other id := by
  rw [get?_eq_find?, get?_eq_find?, create, held_change]
  split
  · next h => rw [h, id_eq]
  · rfl

end

theorem get?_put (s : SearchIndex) (index other id id' : String) (doc : Record) :
    (s.put index id doc).get? other id' =
      if other = index ∧ id' = id then some doc else s.get? other id' := by
  rw [get?_eq_find?, get?_eq_find?, put, held_change]
  by_cases ho : other = index
  · rw [if_pos ho, Assoc.find?_put, ho]
    simp
  · rw [if_neg ho, if_neg fun h => ho h.1]

theorem get?_delete (s : SearchIndex) (index id id' : String) :
    (s.delete index id).2.get? index id' = if id' = id then none else s.get? index id' := by
  unfold delete
  cases hd : s.get? index id with
  | some doc =>
    show (s.change index (Assoc.erase id)).get? index id' = _
    rw [get?_eq_find?, get?_eq_find?, held_change, if_pos rfl, Assoc.find?_erase]
  | none =>
    show s.get? index id' = _
    split
    · next h => rw [h, hd]
    · rfl

/-! ## Several documents at once -/

theorem putAll_cons (s : SearchIndex) (index : String) (p : String × Record) (docs : Documents) :
    s.putAll index (p :: docs) = (s.put index p.1 p.2).putAll index docs := by
  rw [putAll, putAll, put, change_change]
  rfl

theorem putAll_nil (s : SearchIndex) (index : String) : s.putAll index [] = s.create index := rfl

theorem putAll_put (s : SearchIndex) (index id : String) (doc : Record) (docs : Documents) :
    (s.put index id doc).putAll index docs =
      docs.foldl (fun s p => s.put index p.1 p.2) (s.put index id doc) := by
  induction docs generalizing s id doc with
  | nil =>
    rw [putAll_nil, create, put, change_change]
    rfl
  | cons p docs ih => rw [putAll_cons, ih, List.foldl_cons]

/-- A list of documents is stored one by one. -/
theorem putAll_eq_foldl {docs : Documents} (h : docs ≠ []) (s : SearchIndex) (index : String) :
    s.putAll index docs = docs.foldl (fun s p => s.put index p.1 p.2) s := by
  cases docs with
  | nil => exact absurd rfl h
  | cons p docs => rw [putAll_cons, putAll_put, List.foldl_cons]

/-- Of several documents with one id the last one stays. -/
theorem get?_putAll (s : SearchIndex) (index id : String) (docs : Documents) :
    (s.putAll index docs).get? index id = (Assoc.find? id docs.reverse).or (s.get? index id) := by
  rw [get?_eq_find?, get?_eq_find?, putAll, held_change, if_pos rfl, Assoc.find?_putAll]

/-! ## Reports -/

/-- An update tells whether there is such a document now. -/
theorem update_fst (s : SearchIndex) (index id : String) (patch : Record) (upsert : Bool) :
    (s.update index id patch upsert).1 = ((s.get? index id).isSome || upsert) := by
  unfold update
  cases s.get? index id with
  | some doc => rfl
  | none => cases upsert <;> rfl

/-- A delete tells whether there was such a document. -/
theorem delete_fst (s : SearchIndex) (index id : String) :
    (s.delete index id).1 = (s.get? index id).isSome := by
  unfold delete
  cases s.get? index id with
  | some doc => rfl
  | none => rfl

/-! ## Reading several documents -/

/-- A document as a read of several returns it. -/
def shown (fields : List String) (doc : Record) : Json :=
  .obj (if fields.isEmpty then doc else Search.restrict fields doc)

theorem foundDocument?_entry (index id : String) (fields : List String) (o : Option Record) :
    foundDocument? (entry index fields id o) = o.map fun doc => (id, shown fields doc) := by
  cases o with
  | none => rfl
  | some doc => rfl

section
variable (value? : String → Option Json)

/-- The ids that have a value, each with its value. -/
def valued (l : List String) : Record := l.filterMap fun id => (value? id).map fun v => (id, v)

theorem find?_valued (l : List String) (id : String) :
    Assoc.find? id (valued value? l) = if id ∈ l then value? id else none := by
  unfold valued
  induction l with
  | nil => rfl
  | cons a l ih =>
    rw [List.filterMap_cons]
    cases ha : value? a with
    | none =>
      show Assoc.find? id (l.filterMap _) = _
      rw [ih]
      by_cases he : id = a
      · simp [he, ha]
      · simp [he]
    | some v =>
      show Assoc.find? id ((a, v) :: l.filterMap _) = _
      rw [Assoc.find?_cons, ih]
      by_cases he : a = id
      · simp [← he, ha]
      · simp [he, Ne.symm he]

/-- An id that comes twice is listed once, where it comes first. -/
theorem ofList_valued (l : List String) :
    Assoc.ofList (valued value? l) = valued value? l.eraseDups := by
  induction l using List.reverseRecOn with
  | nil => rfl
  | append_singleton l id ih =>
    have hfind : Assoc.find? id (valued value? l.eraseDups) =
        if id ∈ l then value? id else none := by
      simp [find?_valued]
    have hlast : Assoc.ofList (valued value? (l ++ [id])) =
        Assoc.putAll (valued value? l.eraseDups) (valued value? [id]) := by
      rw [valued, List.filterMap_append, Assoc.ofList, Assoc.putAll_append, ← ih]
      rfl
    rw [hlast, List.eraseDups_append]
    by_cases hm : id ∈ l
    · have hr : [id].removeAll l = [] := by simp [List.removeAll, hm]
      rw [if_pos hm] at hfind
      rw [hr, List.eraseDups_nil, List.append_nil]
      cases hv : value? id with
      | none => simp [valued, hv, Assoc.putAll]
      | some v =>
        rw [hv] at hfind
        simpa [valued, hv, Assoc.putAll] using Assoc.put_of_find?_eq_some hfind
    · have hr : [id].removeAll l = [id] := by simp [List.removeAll, hm]
      have hd : [id].eraseDups = [id] := by simp [List.eraseDups_cons]
      rw [if_neg hm] at hfind
      rw [hr, hd]
      cases hv : value? id with
      | none => simp [valued, hv, Assoc.putAll]
      | some v =>
        have hk := (Assoc.find?_eq_none_iff _ _).1 hfind
        simpa [valued, hv, Assoc.putAll] using Assoc.put_of_not_mem v hk

end

/-- The documents found by a list of ids: those that exist, once each, in the order in which their
ids are first mentioned. -/
theorem foundDocuments_getMany (s : SearchIndex) (index : String) (ids fields : List String) :
    foundDocuments (s.getMany index ids fields) =
      ids.eraseDups.filterMap fun id =>
        (s.get? index id).map fun doc => (id, shown fields doc) := by
  have hentries : ((s.getMany index ids fields).listAt ["docs"]).filterMap foundDocument? =
      valued (fun id => (s.get? index id).map (shown fields)) ids := by
    show (ids.map fun id => entry index fields id (s.get? index id)).filterMap _ = _
    simp only [List.filterMap_map, valued, Option.map_map, Function.comp_def,
      foundDocument?_entry]
  rw [foundDocuments, hentries, ofList_valued]
  simp only [valued, Option.map_map, Function.comp_def]

end Polystore.SearchIndex
