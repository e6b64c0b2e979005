import Polystore.Access.IndexCall
import Polystore.Proofs.Index.Documents
import Polystore.Proofs.Search.Response

/-!
# Histories of an index

A run of calls on indices, read as what it does to one document at a time: the document is stored,
a patch is merged into it, or it is removed.  What a read gives is told by these edits alone, and
each call leaves everything else as it was (`refines_orderedMap`):

    get? id after a run = some doc   ↔   the edits of id leave doc
    get? id after a run = none       ↔   the edits of id leave nothing

A search for everything counts the ids of its index.
-/

namespace Polystore

/-! ## Edits of one document -/

/-- What a call does to one document. -/
inductive Edit where
  | store (doc : Record)
  /-- A patch is merged into the document; if there is none it becomes one, if `upsert` is set. -/
  | merge (patch : Record) (upsert : Bool)
  | remove

namespace Edit

/-- The document after an edit. -/
def apply : Option Record → Edit → Option Record
  | _, store doc => some doc
  | some doc, merge patch _ => some (Json.mergeFields doc patch)
  | none, merge patch upsert => if upsert then some patch else none
  | _, remove => none

/-- The edits leave nothing: since the last removal, or from the start, there were updates only, and
none of them could create a document. -/
def LeaveNothing (edits : List Edit) : Prop :=
  ∃ patches : List Record,
    edits = patches.map (merge · false) ∨
    ∃ before, edits = before ++ remove :: patches.map (merge · false)

/-- The edits leave a document: the last one that was stored, or created by an update where there
was none, with all later patches merged into it. -/
def Leave (edits : List Edit) (doc : Record) : Prop :=
  ∃ (before : List Edit) (first : Record) (updates : List (Record × Bool)),
    (edits = before ++ store first :: updates.map (fun u => merge u.1 u.2) ∨
      edits = before ++ merge first true :: updates.map (fun u => merge u.1 u.2) ∧
        LeaveNothing before) ∧
    doc = updates.foldl (fun doc u => Json.mergeFields doc u.1) first

theorem foldl_updates (updates : List (Record × Bool)) (doc : Record) :
    (updates.map fun u => merge u.1 u.2).foldl apply (some doc) =
      some (updates.foldl (fun doc u => Json.mergeFields doc u.1) doc) := by
  induction updates generalizing doc with
  | nil => rfl
  | cons u updates ih => exact ih (Json.mergeFields doc u.1)

theorem foldl_patches (patches : List Record) :
    (patches.map (merge · false)).foldl apply none = none := by
  induction patches with
  | nil => rfl
  | cons patch patches ih => exact ih

theorem foldl_of_leaveNothing {edits : List Edit} (h : LeaveNothing edits) :
    edits.foldl apply none = none := by
  obtain ⟨patches, rfl | ⟨before, rfl⟩⟩ := h
  · exact foldl_patches patches
  · rw [List.foldl_append, List.foldl_cons]
    exact foldl_patches patches

theorem foldl_of_leave {edits : List Edit} {doc : Record} (h : Leave edits doc) :
    edits.foldl apply none = some doc := by
  obtain ⟨before, first, updates, he | ⟨he, hn⟩, rfl⟩ := h
  · rw [he, List.foldl_append, List.foldl_cons]
    exact foldl_updates updates first
  · rw [he, List.foldl_append, List.foldl_cons, foldl_of_leaveNothing hn]
    exact foldl_updates updates first

/-- Edits leave nothing or a document, whichever they come to one after the other. -/
theorem leaves (edits : List Edit) :
    (edits.foldl apply none = none → LeaveNothing edits) ∧
      ∀ doc, edits.foldl apply none = some doc → Leave edits doc := by
  induction edits using List.reverseRecOn with
  | nil => exact ⟨fun _ => ⟨[], .inl rfl⟩, fun doc h => by cases h⟩
  | append_singleton edits e ih =>
    obtain ⟨hnone, hsome⟩ := ih
    rw [List.foldl_append, List.foldl_cons, List.foldl_nil]
    cases e with
    | store doc =>
      refine ⟨fun h => (by cases h), fun doc' h => ?_⟩
      cases h
      exact ⟨edits, doc, [], .inl rfl, rfl⟩
    | remove =>
      refine ⟨fun _ => ⟨[], .inr ⟨edits, rfl⟩⟩, fun doc h => ?_⟩
      cases hv : edits.foldl apply none <;> rw [hv] at h <;> cases h
    | merge patch upsert =>
      cases hv : edits.foldl apply none with
      | some old =>
        refine ⟨fun h => (by cases h), fun doc h => ?_⟩
        cases h
        -- the patch is one more update of what is left already
        obtain ⟨before, first, updates, he, rfl⟩ := hsome old hv
        refine ⟨before, first, updates ++ [(patch, upsert)], ?_, ?_⟩
        · rcases he with rfl | ⟨rfl, hn⟩
          · exact .inl (by simp)
          · exact .inr ⟨by simp, hn⟩
        · rw [List.foldl_append, List.foldl_cons, List.foldl_nil]
      | none =>
        cases upsert with
        | true =>
          refine ⟨fun h => (by cases h), fun doc h => ?_⟩
          cases h
          exact ⟨edits, patch, [], .inr ⟨rfl, hnone hv⟩, rfl⟩
        | false =>
          refine ⟨fun _ => ?_, fun doc h => by cases h⟩
          obtain ⟨patches, rfl | ⟨before, rfl⟩⟩ := hnone hv
          · exact ⟨patches ++ [patch], .inl (by simp)⟩
          · exact ⟨patches ++ [patch], .inr ⟨before, by simp⟩⟩

theorem foldl_eq_some_iff {edits : List Edit} {doc : Record} :
    edits.foldl apply none = some doc ↔ Leave edits doc :=
  ⟨(leaves edits).2 doc, foldl_of_leave⟩

theorem foldl_eq_none_iff {edits : List Edit} :
    edits.foldl apply none = none ↔ LeaveNothing edits :=
  ⟨(leaves edits).1, foldl_of_leaveNothing⟩

end Edit

namespace SearchIndex

variable {s : SearchIndex}

/-! ## Calls -/

/-- A call on an index. -/
structure Call where
  index : String
  lookup : Lookup

/-- The indices after a call. -/
def apply (s : SearchIndex) (q : Call) : SearchIndex :=
  match q.lookup with
  | .put id doc => s.put q.index id doc
  | .update id patch upsert => (s.update q.index id patch upsert).2
  | .delete id => (s.delete q.index id).2
  | .putAll docs => s.putAll q.index docs
  | .search _ _ | .get _ | .getMany _ _ => s

/-- The indices after a run of calls. -/
def after (s : SearchIndex) (qs : List Call) : SearchIndex := qs.foldl apply s

namespace Call

/-- What a call does to the document of an index with an id. -/
def edits (index id : String) (q : Call) : List Edit :=
  if q.index = index then
    match q.lookup with
    | .put id' doc => if id' = id then [.store doc] else []
    | .update id' patch upsert => if id' = id then [.merge patch upsert] else []
    | .delete id' => if id' = id then [.remove] else []
    | .putAll docs => docs.filterMap fun p => if p.1 = id then some (.store p.2) else none
    | .search _ _ | .get _ | .getMany _ _ => []
  else []

/-- The ids that a call may write, in the order in which it names them. -/
def written (q : Call) : List String :=
  match q.lookup with
  | .put id _ | .update id _ _ | .delete id => [id]
  | .putAll docs => Assoc.keys docs
  | .search _ _ | .get _ | .getMany _ _ => []

/-- A call does nothing to the documents that it does not name. -/
theorem edits_eq_nil {q : Call} {index id : String} (h : q.index ≠ index ∨ id ∉ q.written) :
    q.edits index id = [] := by
  unfold edits
  split
  · next hi =>
    have hid : id ∉ q.written := h.resolve_left fun hne => hne hi
    obtain ⟨index', lookup⟩ := q
    cases lookup with
    | put id' doc => exact if_neg fun he => hid (by simp [written, he])
    | update id' patch upsert => exact if_neg fun he => hid (by simp [written, he])
    | delete id' => exact if_neg fun he => hid (by simp [written, he])
    | putAll docs =>
      refine List.filterMap_eq_nil_iff.2 fun p hp => if_neg ?_
      rintro rfl
      exact hid (Assoc.mem_keys_of_mem hp)
    | search body facets => rfl
    | get id' => rfl
    | getMany ids fields => rfl
  · rfl

end Call

/-- What a run of calls does to the document of an index with an id. -/
def edits (index id : String) (qs : List Call) : List Edit := qs.flatMap (Call.edits index id)

/-! ## One call -/

/-- A call changes its own index, or nothing. -/
theorem apply_cases (s : SearchIndex) (q : Call) :
    s.apply q = s ∨ ∃ f, s.apply q = s.change q.index f := by
  obtain ⟨index, lookup⟩ := q
  cases lookup with
  | put id doc => exact .inr ⟨_, rfl⟩
  | putAll docs => exact .inr ⟨_, rfl⟩
  | update id patch upsert =>
    right
    simp only [apply, update]
    cases s.get? index id with
    | some doc => exact ⟨_, rfl⟩
    | none =>
      cases upsert with
      | true => exact ⟨_, rfl⟩
      | false => exact ⟨_, rfl⟩
  | delete id =>
    simp only [apply, delete]
    cases s.get? index id with
    | some doc => exact .inr ⟨_, rfl⟩
    | none => exact .inl rfl
  | search body facets => exact .inl rfl
  | get id => exact .inl rfl
  | getMany ids fields => exact .inl rfl

/-- A call leaves all other indices as they were. -/
theorem documents?_apply_of_ne {q : Call} {index : String} (h : q.index ≠ index)
    (s : SearchIndex) : (s.apply q).documents? index = s.documents? index := by
  obtain he | ⟨f, he⟩ := apply_cases s q
  · rw [he]
  · rw [he, documents?_change, if_neg (Ne.symm h)]

theorem get?_apply_of_ne {q : Call} {index : String} (h : q.index ≠ index) (s : SearchIndex)
    (id : String) : (s.apply q).get? index id = s.get? index id := by
  rw [get?, get?, documents?_apply_of_ne h]

theorem get?_update (s : SearchIndex) (index id id' : String) (patch : Record) (upsert : Bool) :
    (s.update index id patch upsert).2.get? index id' =
      if id' = id then Edit.apply (s.get? index id) (.merge patch upsert)
      else s.get? index id' := by
  unfold update
  cases hd : s.get? index id with
  | some doc =>
    show (s.put index id _).get? index id' = _
    rw [get?_put]
    simp [Edit.apply]
  | none =>
    cases upsert with
    | true =>
      show (s.put index id patch).get? index id' = _
      rw [get?_put]
      simp [Edit.apply]
    | false =>
      show (s.create index).get? index id' = _
      rw [get?_create]
      split
      · next h => rw [h, hd]; rfl
      · rfl

/-- Of several documents stored under one id the last one is left. -/
theorem foldl_stores (docs : Documents) (id : String) (o : Option Record) :
    (docs.filterMap fun p => if p.1 = id then some (.store p.2) else none).foldl Edit.apply o =
      (Assoc.find? id docs.reverse).or o := by
  induction docs generalizing o with
  | nil => rfl
  | cons p docs ih =>
    rw [List.reverse_cons, Assoc.find?_append, Option.or_assoc, Assoc.find?_cons, Assoc.find?_nil]
    by_cases he : p.1 = id
    · rw [List.filterMap_cons_some (by rw [if_pos he]), List.foldl_cons, ih, if_pos he]
      cases o with
      | none => rfl
      | some doc => rfl
    · rw [List.filterMap_cons_none (by rw [if_neg he]), ih, if_neg he, Option.none_or]

/-- What a call makes of a document is told by its edits. -/
theorem get?_apply (s : SearchIndex) (q : Call) (index id : String) :
    (s.apply q).get? index id = (q.edits index id).foldl Edit.apply (s.get? index id) := by
  by_cases hi : q.index = index
  · obtain ⟨index', lookup⟩ := q
    obtain rfl : index' = index := hi
    cases lookup with
    | put id' doc =>
      show (s.put index' id' doc).get? index' id = _
      rw [get?_put]
      by_cases he : id' = id
      · simp [Call.edits, he, Edit.apply]
      · simp [Call.edits, he, Ne.symm he]
    | update id' patch upsert =>
      show (s.update index' id' patch upsert).2.get? index' id = _
      rw [get?_update]
      by_cases he : id' = id
      · simp [Call.edits, he]
      · simp [Call.edits, he, Ne.symm he]
    | delete id' =>
      show (s.delete index' id').2.get? index' id = _
      rw [get?_delete]
      by_cases he : id' = id
      · simp [Call.edits, he, Edit.apply]
      · simp [Call.edits, he, Ne.symm he]
    | putAll docs =>
      show (s.putAll index' docs).get? index' id = _
      rw [get?_putAll, Call.edits, if_pos rfl]
      exact (foldl_stores docs id _).symm
    | search body facets => simp [Call.edits, apply]
    | get id' => simp [Call.edits, apply]
    | getMany ids fields => simp [Call.edits, apply]
  · rw [get?_apply_of_ne hi, Call.edits, if_neg hi, List.foldl_nil]

theorem filter_eq_of_sublist {l m : List String} {p : String → Bool} (h : l.Sublist m)
    (hm : m.Nodup) (hp : ∀ x ∈ m, p x = true ↔ x ∈ l) : m.filter p = l := by
  induction h with
  | slnil => rfl
  | @cons l m a h ih =>
    obtain ⟨ha, hm⟩ := List.nodup_cons.1 hm
    have hna : ¬ p a = true := fun hpa => ha (h.subset ((hp a List.mem_cons_self).1 hpa))
    rw [List.filter_cons_of_neg hna, ih hm fun x hx => hp x (List.mem_cons_of_mem _ hx)]
  | @cons_cons l m a h ih =>
    obtain ⟨ha, hm⟩ := List.nodup_cons.1 hm
    have hpa : p a = true := (hp a List.mem_cons_self).2 List.mem_cons_self
    rw [List.filter_cons_of_pos hpa, ih hm]
    intro x hx
    have hne : x ≠ a := by
      rintro rfl
      exact ha hx
    rw [hp x (List.mem_cons_of_mem _ hx), List.mem_cons]
    simp [hne]

theorem ids_change (s : SearchIndex) (index : String) (f : Documents → Documents) :
    (s.change index f).ids index = Assoc.keys (f (s.held index)) := by
  rw [ids, held_change, if_pos rfl]

theorem ids_putAll (hs : s.Distinct) (index : String) (docs : Documents) :
    (s.putAll index docs).ids index = (s.ids index ++ Assoc.keys docs).eraseDups := by
  rw [putAll, ids_change, Assoc.keys_putAll (hs index)]
  rfl

theorem ids_put (hs : s.Distinct) (index id : String) (doc : Record) :
    (s.put index id doc).ids index = (s.ids index ++ [id]).eraseDups :=
  ids_putAll hs index [(id, doc)]

/-- The ids of the index of a call come from those before it and those that it names. -/
theorem ids_apply_sublist (hs : s.Distinct) (q : Call) :
    ((s.apply q).ids q.index).Sublist (s.ids q.index ++ q.written).eraseDups := by
  have hkept : ∀ more : List String,
      (s.ids q.index).Sublist (s.ids q.index ++ more).eraseDups := by
    intro more
    rw [List.eraseDups_append, Assoc.eraseDups_of_nodup (hs q.index)]
    exact List.sublist_append_left _ _
  obtain ⟨index, lookup⟩ := q
  cases lookup with
  | put id doc =>
    rw [show s.apply ⟨index, .put id doc⟩ = s.put index id doc from rfl, ids_put hs]
    exact List.Sublist.refl _
  | putAll docs =>
    rw [show s.apply ⟨index, .putAll docs⟩ = s.putAll index docs from rfl, ids_putAll hs]
    exact List.Sublist.refl _
  | update id patch upsert =>
    show ((s.update index id patch upsert).2.ids index).Sublist (s.ids index ++ [id]).eraseDups
    unfold update
    split
    · rw [ids_put hs]
    · split
      · rw [ids_put hs]
      · rw [create, ids_change]
        exact hkept [id]
  | delete id =>
    show ((s.delete index id).2.ids index).Sublist _
    unfold delete
    split
    · rw [ids_change, Assoc.keys_erase]
      exact List.filter_sublist.trans (hkept _)
    · exact hkept _
  | search body facets => exact hkept _
  | get id => exact hkept _
  | getMany ids fields => exact hkept _

/-- The ids of an index after a call: those before it, and then those that it names, as far as they
have a document. -/
theorem ids_apply (hs : s.Distinct) (q : Call) :
    (s.apply q).ids q.index =
      (s.ids q.index ++ q.written).eraseDups.filter fun id =>
        ((s.apply q).get? q.index id).isSome := by
  refine (filter_eq_of_sublist (ids_apply_sublist hs q) (Assoc.nodup_eraseDups _) ?_).symm
  intro id _
  exact mem_ids.symm

theorem Distinct.apply (hs : s.Distinct) (q : Call) : (s.apply q).Distinct := by
  intro index
  by_cases hi : q.index = index
  · rw [← hi, ids_apply hs q]
    exact (Assoc.nodup_eraseDups _).filter _
  · rw [ids, held, documents?_apply_of_ne hi]
    exact hs index

/-! ## Runs of calls -/

theorem distinct_empty (suffix : String) : (empty suffix).Distinct := fun _ => List.nodup_nil

theorem Distinct.after (hs : s.Distinct) (qs : List Call) : (s.after qs).Distinct := by
  induction qs generalizing s with
  | nil => exact hs
  | cons q qs ih => exact ih (hs.apply q)

/-- What a run of calls makes of a document is told by its edits. -/
theorem get?_after (s : SearchIndex) (qs : List Call) (index id : String) :
    (s.after qs).get? index id = (edits index id qs).foldl Edit.apply (s.get? index id) := by
  induction qs generalizing s with
  | nil => rfl
  | cons q qs ih =>
    show ((s.apply q).after qs).get? index id = _
    rw [ih, get?_apply, edits, edits, List.flatMap_cons, List.foldl_append]

/-! ## Searches for everything -/

/-- The query for everything finds every document. -/
theorem hits_all (suffix : String) (docs : Documents) :
    ∃ found, Search.hits suffix .all docs = .ok found ∧ found.length = docs.length := by
  have hruns : ∀ p ∈ docs, Query.all.Runs suffix (.obj p.2) := fun p _ => ⟨_, rfl⟩
  obtain ⟨found, hf, hd⟩ := Search.hits_eq hruns
  refine ⟨found, hf, ?_⟩
  have hall : (docs.filter fun p => Query.all.holds suffix (.obj p.2)) = docs :=
    List.filter_eq_self.2 fun p _ => rfl
  rw [hall] at hd
  rw [← hd, List.length_map]

/-- A search that asks for nothing in particular counts the ids of its index. -/
theorem search_all {index : String} (hi : (s.documents? index).isSome = true) {body : Json}
    (hb : body = .obj [] ∨ ∃ suffix limit, body = SearchRequest.empty.body suffix limit) :
    ∃ answer, s.search index body = .ok answer ∧
      answer.at? ["hits", "total", "value"] = some (.ofNat (s.ids index).length) ∧
      ((s.ids index).length < Decimal.twoTo 64 →
        (Response.ofHits answer []).count = (s.ids index).length) := by
  obtain ⟨docs, hd⟩ := Option.isSome_iff_exists.1 hi
  obtain ⟨found, hf, hl⟩ := hits_all s.suffix docs
  have hlength : found.length = (s.ids index).length := by
    rw [hl, ids, held, hd, Option.getD_some, Assoc.keys, List.length_map]
  have hquery : (body.get? "query").elim .all Query.ofJson = .all := by
    rcases hb with rfl | ⟨suffix, limit, rfl⟩
    · rfl
    · rfl
  have hranked : ∃ ordered, Search.ranked s.suffix body found = .ok ordered ∧
      ordered.length = found.length := by
    refine ⟨sortBy Search.compareScores found, ?_, (sortBy_perm _ _).length_eq⟩
    rcases hb with rfl | ⟨suffix, limit, rfl⟩
    · rfl
    · rfl
  obtain ⟨ordered, hr, ho⟩ := hranked
  have hagg : Search.aggregations s.suffix body (ordered.map fun h => .obj h.doc) = .ok none := by
    rcases hb with rfl | ⟨suffix, limit, rfl⟩
    · rfl
    · rfl
  have hm : Search.hits s.suffix ((body.get? "query").elim .all Query.ofJson) docs = .ok found := by
    rw [hquery]
    exact hf
  have ha : Search.answer s.suffix index body docs =
      .ok (Search.answerJson index body ordered none) := by
    rw [Search.answer, hm]
    show (Search.ranked s.suffix body found >>= _) = _
    rw [hr]
    show (Search.aggregations s.suffix body (ordered.map fun h => .obj h.doc) >>= _) = _
    rw [hagg]
    rfl
  have hshows := Search.shows_answerJson index body ordered none
  generalize Search.answerJson index body ordered none = answer at ha hshows
  have htotal : answer.at? ["hits", "total", "value"] = some (.ofNat (s.ids index).length) := by
    rw [hshows.total, ho, hlength]
  refine ⟨answer, by rw [search, hd]; exact ha, htotal, fun hlt => ?_⟩
  show totalHits answer = _
  rw [Search.totalHits_of_at? htotal, Json.u64?_ofNat hlt, Option.getD_some]

/-! ## A map that remembers its order -/

/-- After every run of calls that starts without an index, the indices are maps from ids to
documents that remember the order in which their ids came, and each call does to them what it says.
-/
theorem refines_orderedMap (suffix : String) (qs : List Call) :
    let s := (empty suffix).after qs
    -- no index has an id twice
    (∀ index, (s.ids index).Nodup) ∧
    -- a read gives what the calls on the id have left
    (∀ index id, (∀ doc, s.get? index id = some doc ↔ Edit.Leave (edits index id qs) doc) ∧
      (s.get? index id = none ↔ Edit.LeaveNothing (edits index id qs))) ∧
    -- other indices, other ids and the order of the ids are kept
    (∀ (q : Call) index id,
      (q.index ≠ index → (s.apply q).documents? index = s.documents? index) ∧
      (q.index ≠ index ∨ id ∉ q.written → (s.apply q).get? index id = s.get? index id) ∧
      (s.apply q).ids q.index =
        (s.ids q.index ++ q.written).eraseDups.filter fun id =>
          ((s.apply q).get? q.index id).isSome) ∧
    -- documents that are stored together are stored one by one, and the last one of an id stays
    (∀ index docs,
      (docs ≠ [] → s.putAll index docs = docs.foldl (fun s p => s.put index p.1 p.2) s) ∧
      s.putAll index [] = s.create index ∧
      ∀ id, (s.putAll index docs).get? index id =
        (Assoc.find? id docs.reverse).or (s.get? index id)) ∧
    -- updates and deletes tell whether there was, or is now, such a document
    (∀ index id patch upsert,
      ((s.update index id patch upsert).1 = true ↔
        (s.get? index id).isSome = true ∨ upsert = true) ∧
      ((s.delete index id).1 = true ↔ (s.get? index id).isSome = true)) ∧
    -- a read of several documents gives those that there are
    (∀ index ids fields, foundDocuments (s.getMany index ids fields) =
      ids.eraseDups.filterMap fun id =>
        (s.get? index id).map fun doc => (id, shown fields doc)) ∧
    -- a search for everything counts the ids
    (∀ index body, (s.documents? index).isSome = true →
      (body = .obj [] ∨ ∃ suffix limit, body = SearchRequest.empty.body suffix limit) →
      ∃ answer, s.search index body = .ok answer ∧
        answer.at? ["hits", "total", "value"] = some (.ofNat (s.ids index).length) ∧
        ((s.ids index).length < Decimal.twoTo 64 →
          (Response.ofHits answer []).count = (s.ids index).length)) := by
  intro s
  have hs : s.Distinct := (distinct_empty suffix).after qs
  have hget : ∀ index id, s.get? index id = (edits index id qs).foldl Edit.apply none :=
    fun index id => get?_after (empty suffix) qs index id
  refine ⟨hs, fun index id => ⟨fun doc => ?_, ?_⟩, fun q index id => ⟨?_, ?_, ids_apply hs q⟩,
    fun index docs => ⟨fun h => putAll_eq_foldl h s index, putAll_nil s index,
      fun id => get?_putAll s index id docs⟩,
    fun index id patch upsert => ⟨?_, ?_⟩, fun index ids fields => foundDocuments_getMany s index
      ids fields, fun index body hi hb => search_all hi hb⟩
  · rw [hget, Edit.foldl_eq_some_iff]
  · rw [hget, Edit.foldl_eq_none_iff]
  · intro h
    exact documents?_apply_of_ne h s
  · intro h
    rw [get?_apply, Call.edits_eq_nil h, List.foldl_nil]
  · rw [update_fst, Bool.or_eq_true]
  · rw [delete_fst]

/-- A list without documents brings its index into being, which storing nothing does not. -/
theorem putAll_not_foldl :
    (([] : Documents).foldl (fun s p => s.put "docs" p.1 p.2) (empty ".raw")).search "docs"
        (.obj []) = .error (.refused (.noIndex "docs")) ∧
      (∃ answer, ((empty ".raw").putAll "docs" []).search "docs" (.obj []) = .ok answer) ∧
      ¬ ∀ (s : SearchIndex) (index : String) (docs : Documents),
        s.putAll index docs = docs.foldl (fun s p => s.put index p.1 p.2) s := by
  refine ⟨rfl, ⟨_, rfl⟩, fun h => ?_⟩
  have := congrArg (fun s => (s.documents? "docs").isSome) (h (empty ".raw") "docs" [])
  exact absurd this (by decide)

end SearchIndex

end Polystore
