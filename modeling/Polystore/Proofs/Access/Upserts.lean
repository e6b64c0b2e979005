import Polystore.Proofs.Access.Tasks
import Polystore.Proofs.Json.Merging

/-!
# Documents that are merged

A patch overrides a document key by key, and objects under a key are merged in the same way.  What
was merged once changes nothing when it is merged again, so a request that merges a document, or
creates it if there is none, can be sent twice:

    (a.after (a.after st upsert) upsert).backend = (a.after st upsert).backend
                                                                         (backend_after_upsert)
-/

namespace Polystore

namespace SearchIndex

/-- A document that is put twice is put once. -/
theorem put_put (s : SearchIndex) (index id : String) (doc doc' : Record) :
    (s.put index id doc).put index id doc' = s.put index id doc' := by
  rw [put, put, change_change, put]
  simp only [Assoc.put_put]

/-- A document that is merged twice, or created by the first time, is merged once. -/
theorem update_update (s : SearchIndex) (index id : String) {doc : Record}
    (h : (Json.obj doc).isWellKeyed = true) :
    ((s.update index id doc true).2.update index id doc true).2 =
      (s.update index id doc true).2 := by
  cases hd : s.get? index id with
  | some old =>
    have hfirst : (s.update index id doc true).2 = s.put index id (Json.mergeFields old doc) := by
      rw [update, hd]
    rw [hfirst, update, get?_put, if_pos ⟨rfl, rfl⟩]
    dsimp only
    rw [put_put, Json.mergeFields_mergeFields old h]
  | none =>
    have hfirst : (s.update index id doc true).2 = s.put index id doc := by
      rw [update, hd]
      rfl
    rw [hfirst, update, get?_put, if_pos ⟨rfl, rfl⟩]
    dsimp only
    rw [put_put, Json.mergeFields_self h]

end SearchIndex

namespace Access

variable {a : Access Memory}

/-- What an upsert leaves: a refused one changes nothing. -/
theorem backend_after_upsert_eq (hb : a.backend = Memory.backend) (st : AccessState Memory)
    (index id : String) (doc : Record) :
    (a.after st (.index index (.upsert id doc))).backend =
      if Text.isBlank id = false ∧ Text.isBlank index = false then
        { st.backend with index := (st.backend.index.update index id doc true).2 }
      else st.backend := by
  split
  · next h =>
    have hlookup : (IndexCall.upsert id doc).toLookup a.settings.search index
        (freshId st.issued) = .ok (.update id doc true) := onDocument_eq_ok.2 ⟨h.1, h.2, rfl⟩
    exact backend_of_task hb (prepare_index_eq_ok.2 ⟨_, hlookup, rfl⟩)
  · next h =>
    cases hp : a.prepare (freshId st.issued) (.index index (.upsert id doc)) with
    | error r => rw [after, run_of_prepare_error hp]
    | ok task =>
      obtain ⟨lookup, hl, -⟩ := prepare_index_eq_ok.1 hp
      obtain ⟨hid, hindex, -⟩ := onDocument_eq_ok.1 hl
      exact absurd ⟨hid, hindex⟩ h

/-- An upsert that is sent twice leaves what it leaves when it is sent once. -/
theorem backend_after_upsert (hb : a.backend = Memory.backend) (st : AccessState Memory)
    (index id : String) {doc : Record} (h : (Json.obj doc).isWellKeyed = true) :
    (a.after (a.after st (.index index (.upsert id doc))) (.index index (.upsert id doc))).backend =
      (a.after st (.index index (.upsert id doc))).backend := by
  rw [backend_after_upsert_eq hb (a.after st _), backend_after_upsert_eq hb st]
  split
  · dsimp only
    rw [SearchIndex.update_update _ index id h]
  · rfl

/-- A patch overrides a document: what it does not name stays, objects are merged into objects, and
everything else that it names takes its value, `null` as any other.  What was merged, what is empty
and the document itself change nothing, and an upsert can be sent twice. -/
theorem merge_overrides (hb : a.backend = Memory.backend) :
    -- one merge, and the same again
    (∀ target patch : Record, (Json.obj patch).isWellKeyed = true →
      let merged := Json.mergeFields target patch
      Assoc.keys merged =
        Assoc.keys target ++ (Assoc.keys patch).filter (fun key => key ∉ Assoc.keys target) ∧
      (∀ key, key ∉ Assoc.keys patch → Assoc.find? key merged = Assoc.find? key target) ∧
      (∀ key fields members, Assoc.find? key target = some (.obj fields) →
        Assoc.find? key patch = some (.obj members) →
        Assoc.find? key merged = some (.obj (Json.mergeFields fields members))) ∧
      (∀ key v, Assoc.find? key patch = some v →
        ¬ (∃ fields members, Assoc.find? key target = some (.obj fields) ∧ v = .obj members) →
        Assoc.find? key merged = some v) ∧
      Json.mergeFields merged patch = merged) ∧
    -- an empty patch, and the document itself
    (∀ target : Record, Json.mergeFields target [] = target) ∧
    (∀ target : Record, (Json.obj target).isWellKeyed = true →
      Json.mergeFields target target = target) ∧
    -- upserts
    (∀ (st : AccessState Memory) (index id : String) (doc : Record),
      (Json.obj doc).isWellKeyed = true →
      let once := a.after st (.index index (.upsert id doc))
      (a.after once (.index index (.upsert id doc))).backend = once.backend) := by
  refine ⟨fun target patch h => ?_, fun target => by rw [Json.mergeFields],
    fun target h => Json.mergeFields_self h,
    fun st index id doc h => backend_after_upsert hb st index id h⟩
  obtain ⟨hn, -⟩ := (Json.isWellKeyed_obj_iff patch).1 h
  refine ⟨Json.keys_mergeFields target hn,
    fun key hkey => Json.find?_mergeFields_of_notMem target hkey,
    fun key fields members ht hp => ?_, fun key v hp hnot => ?_,
    Json.mergeFields_mergeFields target h⟩
  · rw [Json.find?_mergeFields target hn hp, ht, Json.mergeValue_obj]
  · rw [Json.find?_mergeFields target hn hp, Json.mergeValue_of_notObjects]
    rintro fields members ht rfl
    exact hnot ⟨fields, members, ht, rfl⟩

/-- A patch puts an object in place of a number, and finds that object when it is merged again. -/
theorem merge_overrides_number :
    let a : Access Memory := ⟨{}, .empty, Memory.backend⟩
    let target : Record := [("n", .ofNat 1), ("kept", .null)]
    let patch : Record := [("n", .obj [("new", .null)])]
    let st := a.after (.fresh (.empty .empty .wide ".raw")) (.index "docs" (.upsert "1" target))
    let once := a.after st (.index "docs" (.upsert "1" patch))
    Json.mergeFields target patch = [("n", .obj [("new", .null)]), ("kept", .null)] ∧
      Json.mergeFields (Json.mergeFields target patch) patch = Json.mergeFields target patch ∧
      (a.after once (.index "docs" (.upsert "1" patch))).backend = once.backend ∧
      once.backend.index.get? "docs" "1" = some (Json.mergeFields target patch) := by
  intro a target patch st once
  have hpatch : (Json.obj patch).isWellKeyed = true := rfl
  obtain ⟨hmerge, -, -, hupsert⟩ := merge_overrides (a := a) rfl
  obtain ⟨-, -, -, -, htwice⟩ := hmerge target patch hpatch
  exact ⟨rfl, htwice, hupsert st "docs" "1" patch hpatch, rfl⟩

end Access

end Polystore
