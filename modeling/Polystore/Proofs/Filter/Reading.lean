import Polystore.Filter.Reader
import Polystore.Proofs.Outcome

/-!
# What filters that were read look like

A filter that was read asks something with every entry: a scalar, a list that is not empty, or
operators of which there is at least one, no two of them for the same end.  No field stands twice
in one of its two lists.

    Filter.ofJson v = .ok f → f.Sound                                (sound_of_ofJson)
-/

namespace Polystore

/-! ## Criteria of single fields -/

namespace Operators

/-- Operators as they are read: at least one, no two bounds on one side, no test twice, and scalars
as bounds. -/
structure Sound (ops : Operators) : Prop where
  exists_operator : ops.bounds ≠ [] ∨ ops.affixes ≠ []
  no_boundConflict : boundConflict? ops.bounds = none
  no_affixConflict : affixConflict? ops.affixes = none
  scalar_bounds : ∀ p ∈ ops.bounds, p.2.isScalar = true

theorem mem_placeBound {b : Bound} {v : Json} {l : List (Bound × Json)} {p : Bound × Json} :
    p ∈ placeBound b v l ↔ p = (b, v) ∨ p ∈ l := by
  induction l with
  | nil => simp [placeBound]
  | cons q l ih =>
    unfold placeBound
    split
    · rw [List.mem_cons]
    · rw [List.mem_cons, ih, List.mem_cons]
      exact or_left_comm

theorem scalar_bounds_of_read {field : String} {ops ops' : Operators} {r : Record}
    (h : read field ops r = .ok ops') (hs : ∀ p ∈ ops.bounds, p.2.isScalar = true) :
    ∀ p ∈ ops'.bounds, p.2.isScalar = true := by
  induction r generalizing ops with
  | nil =>
    obtain rfl := Outcome.pure_eq_ok.1 h
    exact hs
  | cons e r ih =>
    obtain ⟨name, operand⟩ := e
    unfold read at h
    split at h
    · split at h
      · next hv =>
        refine ih h fun p hp => ?_
        rcases mem_placeBound.1 hp with rfl | hp
        · exact hv
        · exact hs p hp
      · exact absurd h Outcome.throw_ne_ok
    · split at h
      · split at h
        · exact ih h hs
        · exact absurd h Outcome.throw_ne_ok
      · exact absurd h Outcome.throw_ne_ok

/-- The check of operators asks for one at least, and for no two at the same end. -/
theorem check_eq_ok {field : String} {ops : Operators} :
    ops.check field = .ok () ↔
      (ops.bounds ≠ [] ∨ ops.affixes ≠ []) ∧ boundConflict? ops.bounds = none ∧
        affixConflict? ops.affixes = none := by
  unfold check
  split
  · next he =>
    rw [Bool.and_eq_true, List.isEmpty_iff, List.isEmpty_iff] at he
    simp [he]
  · next he =>
    rw [Bool.and_eq_true, List.isEmpty_iff, List.isEmpty_iff,
      Classical.not_and_iff_not_or_not] at he
    split
    · next hb => simp [hb]
    · next hb ha => simp [hb, ha]
    · next hb ha => simp [hb, ha, he]

theorem sound_of_check {field : String} {ops : Operators} (h : ops.check field = .ok ())
    (hs : ∀ p ∈ ops.bounds, p.2.isScalar = true) : ops.Sound := by
  obtain ⟨hne, hb, ha⟩ := check_eq_ok.1 h
  exact ⟨hne, hb, ha, hs⟩

end Operators

namespace Criterion

/-- What a field must satisfy, as it is read. -/
def Sound : Criterion → Prop
  | scalar v => v.isScalar = true
  | list vs => vs ≠ [] ∧ ∀ v ∈ vs, v.isScalar = true
  | operators ops => ops.Sound

theorem sound_of_ofJson {field : String} {v : Json} {c : Criterion}
    (h : ofJson field v = .ok c) : c.Sound := by
  cases v with
  | null => exact absurd h Outcome.throw_ne_ok
  | bool b =>
    obtain rfl := Outcome.pure_eq_ok.1 h
    rfl
  | num n =>
    obtain rfl := Outcome.pure_eq_ok.1 h
    rfl
  | str s =>
    obtain rfl := Outcome.pure_eq_ok.1 h
    rfl
  | arr items =>
    simp only [ofJson] at h
    split at h
    · exact absurd h Outcome.throw_ne_ok
    · next hne =>
      split at h
      · next hs =>
        obtain rfl := Outcome.pure_eq_ok.1 h
        exact ⟨fun e => hne (List.isEmpty_iff.2 e), List.all_eq_true.1 hs⟩
      · exact absurd h Outcome.throw_ne_ok
  | obj fields =>
    simp only [ofJson, Outcome.bind_eq_ok, Outcome.pure_eq_ok] at h
    obtain ⟨ops, hr, _, hc, rfl⟩ := h
    exact Operators.sound_of_check hc
      (Operators.scalar_bounds_of_read hr (by simp [Operators.empty]))

/-- The bounds that a criterion asks for. -/
def bounds : Criterion → List (Bound × Json)
  | operators ops => ops.bounds
  | _ => []

/-- The tests on texts that a criterion asks for. -/
def affixes : Criterion → List (Affix × String)
  | operators ops => ops.affixes
  | _ => []

end Criterion

/-! ## Filters -/

namespace Filter

/-- Entries as they are read. -/
structure SoundEntries (entries : List (String × Criterion)) : Prop where
  nodup : (Assoc.keys entries).Nodup
  sound : ∀ e ∈ entries, e.2.Sound
  not_blank : ∀ e ∈ entries, Text.isBlank e.1 = false

/-- A filter as it is read. -/
structure Sound (f : Filter) : Prop where
  entries : SoundEntries f.entries
  anyOf : SoundEntries f.anyOf

theorem soundEntries_nil : SoundEntries [] := ⟨List.nodup_nil, by simp, by simp⟩

theorem checkField_eq_ok {l : List (String × Criterion)} {field : String} :
    checkField l field = .ok () ↔ Text.isBlank field = false ∧ field ∉ Assoc.keys l := by
  have hkey : Assoc.has field l = true ↔ field ∈ Assoc.keys l := by
    rw [Assoc.has, ← Option.ne_none_iff_isSome, ne_eq, Assoc.find?_eq_none_iff, Classical.not_not]
  unfold checkField
  split
  · next hb => simp [hb]
  · next hb =>
    split
    · next hk => simp [hkey.1 hk]
    · next hk => simp [hb, mt hkey.2 hk]

section
variable {f : Filter} {field : String} {c : Criterion}

/-- An entry is added after its field was checked. -/
theorem push_run :
    (push field c).run f =
      match checkField f.entries field with
      | .ok _ => (.ok (), { f with entries := f.entries ++ [(field, c)] })
      | .error e => (.error e, f) := by
  rw [push, Work.check_write_run]
  cases checkField f.entries field <;> rfl

theorem pushAny_run :
    (pushAny field c).run f =
      match checkField f.anyOf field with
      | .ok _ => (.ok (), { f with anyOf := f.anyOf ++ [(field, c)] })
      | .error e => (.error e, f) := by
  rw [pushAny, Work.check_write_run]
  cases checkField f.anyOf field <;> rfl

end

theorem pushed_eq_ok {f g : Filter} {field : String} {c : Criterion} :
    f.pushed field c = .ok g ↔
      (Text.isBlank field = false ∧ field ∉ Assoc.keys f.entries) ∧
        { f with entries := f.entries ++ [(field, c)] } = g := by
  rw [← checkField_eq_ok, pushed, Work.result, push_run]
  cases checkField f.entries field <;> simp

theorem pushedAny_eq_ok {f g : Filter} {field : String} {c : Criterion} :
    f.pushedAny field c = .ok g ↔
      (Text.isBlank field = false ∧ field ∉ Assoc.keys f.anyOf) ∧
        { f with anyOf := f.anyOf ++ [(field, c)] } = g := by
  rw [← checkField_eq_ok, pushedAny, Work.result, pushAny_run]
  cases checkField f.anyOf field <;> simp

/-- A field that is not there yet can be added. -/
theorem nodup_keys_append {l : List (String × Criterion)} {field : String} {c : Criterion}
    (hl : (Assoc.keys l).Nodup) (h : field ∉ Assoc.keys l) :
    (Assoc.keys (l ++ [(field, c)])).Nodup := by
  rw [← Assoc.put_of_not_mem c h]
  exact Assoc.nodup_keys_put field c hl

theorem SoundEntries.append {entries : List (String × Criterion)} (h : SoundEntries entries)
    {field : String} {c : Criterion} (hc : c.Sound)
    (hf : Text.isBlank field = false ∧ field ∉ Assoc.keys entries) :
    SoundEntries (entries ++ [(field, c)]) where
  nodup := nodup_keys_append h.nodup hf.2
  sound := List.forall_mem_append.2 ⟨h.sound, List.forall_mem_singleton.2 hc⟩
  not_blank := List.forall_mem_append.2 ⟨h.not_blank, List.forall_mem_singleton.2 hf.1⟩

theorem sound_empty : empty.Sound := ⟨soundEntries_nil, soundEntries_nil⟩

theorem Sound.pushed {f g : Filter} (h : f.Sound) {field : String} {c : Criterion} (hc : c.Sound)
    (hp : f.pushed field c = .ok g) : g.Sound := by
  obtain ⟨hf, rfl⟩ := pushed_eq_ok.1 hp
  exact ⟨h.entries.append hc hf, h.anyOf⟩

theorem Sound.pushedAny {f g : Filter} (h : f.Sound) {field : String} {c : Criterion} (hc : c.Sound)
    (hp : f.pushedAny field c = .ok g) : g.Sound := by
  obtain ⟨hf, rfl⟩ := pushedAny_eq_ok.1 hp
  exact ⟨h.entries, h.anyOf.append hc hf⟩

theorem Sound.readGroup {f g : Filter} (h : f.Sound) {group : Record}
    (hr : f.readGroup group = .ok g) : g.Sound := by
  induction group generalizing f with
  | nil =>
    obtain rfl := Outcome.pure_eq_ok.1 hr
    exact h
  | cons e group ih =>
    obtain ⟨field, v⟩ := e
    simp only [Filter.readGroup, Outcome.bind_eq_ok] at hr
    obtain ⟨c, hc, f', hf', hr⟩ := hr
    exact ih (h.pushedAny (Criterion.sound_of_ofJson hc) hf') hr

theorem Sound.readEntries {f g : Filter} (h : f.Sound) {fields : Record}
    (hr : f.readEntries fields = .ok g) : g.Sound := by
  induction fields generalizing f with
  | nil =>
    obtain rfl := Outcome.pure_eq_ok.1 hr
    exact h
  | cons e fields ih =>
    obtain ⟨field, v⟩ := e
    unfold Filter.readEntries at hr
    split at hr
    · split at hr
      · simp only [Outcome.bind_eq_ok] at hr
        obtain ⟨f', hf', hr⟩ := hr
        exact ih (h.readGroup hf') hr
      · exact absurd hr Outcome.throw_ne_ok
    · simp only [Outcome.bind_eq_ok] at hr
      obtain ⟨c, hc, f', hf', hr⟩ := hr
      exact ih (h.pushed (Criterion.sound_of_ofJson hc) hf') hr

/-- A filter that was read is sound. -/
theorem sound_of_ofJson {v : Json} {f : Filter} (h : ofJson v = .ok f) : f.Sound := by
  cases v with
  | obj fields => exact sound_empty.readEntries h
  | _ => exact absurd h Outcome.throw_ne_ok

end Filter

end Polystore
