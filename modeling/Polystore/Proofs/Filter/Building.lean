import Polystore.Proofs.Filter.Grammar

/-!
# Filters that are built

What the calls that build a filter do to it, one after the other.  Whatever is called on a filter in
which no field stands twice in a list, it stays so; a field is added exactly if it has a name and is
not in its list already, and a call that refuses a field leaves the filter as it was
(`read_and_built`).
-/

namespace Polystore.Filter

/-- A call on a filter that is being built. -/
inductive Call where
  | push (field : String) (c : Criterion)
  | pushAny (field : String) (c : Criterion)
  | set (field : String) (c : Criterion)

/-- The answer to a call, and the filter after it. -/
def call (f : Filter) : Call → Checked Unit × Filter
  | .push field c => (push field c).run f
  | .pushAny field c => (pushAny field c).run f
  | .set field c => (.ok (), f.set field c)

/-- The filter after a run of calls. -/
def afterCalls (f : Filter) (calls : List Call) : Filter := calls.foldl (fun f q => (f.call q).2) f

/-- No field stands twice in one of the lists. -/
structure Distinct (f : Filter) : Prop where
  entries : (Assoc.keys f.entries).Nodup
  anyOf : (Assoc.keys f.anyOf).Nodup

variable {f g : Filter} {field : String} {c : Criterion}

/-! ## One call -/

/-- A call that refuses a field changes nothing: the field is checked first. -/
theorem call_of_error {q : Call} {e : Rejection} (h : (f.call q).1 = .error e) :
    (f.call q).2 = f := by
  cases q with
  | push field c => exact Work.check_write_of_error h
  | pushAny field c => exact Work.check_write_of_error h
  | set field c => cases h

/-- An entry is added if its field has a name and is not there already. -/
theorem call_push_eq_ok :
    (f.call (.push field c)).1 = .ok () ↔
      Text.isBlank field = false ∧ field ∉ Assoc.keys f.entries := by
  rw [← checkField_eq_ok, call, push_run]
  cases checkField f.entries field <;> simp

theorem call_push_of_ok (h : (f.call (.push field c)).1 = .ok ()) :
    (f.call (.push field c)).2 = { f with entries := f.entries ++ [(field, c)] } := by
  rw [call, push_run, checkField_eq_ok.2 (call_push_eq_ok.1 h)]

/-- An alternative is added if its field has a name and is not there already. -/
theorem call_pushAny_eq_ok :
    (f.call (.pushAny field c)).1 = .ok () ↔
      Text.isBlank field = false ∧ field ∉ Assoc.keys f.anyOf := by
  rw [← checkField_eq_ok, call, pushAny_run]
  cases checkField f.anyOf field <;> simp

theorem call_pushAny_of_ok (h : (f.call (.pushAny field c)).1 = .ok ()) :
    (f.call (.pushAny field c)).2 = { f with anyOf := f.anyOf ++ [(field, c)] } := by
  rw [call, pushAny_run, checkField_eq_ok.2 (call_pushAny_eq_ok.1 h)]

/-! ## Runs of calls -/

theorem distinct_empty : Distinct empty := ⟨List.nodup_nil, List.nodup_nil⟩

theorem distinct_of_ofJson {v : Json} (h : ofJson v = .ok f) : f.Distinct :=
  ⟨(sound_of_ofJson h).entries.nodup, (sound_of_ofJson h).anyOf.nodup⟩

theorem Distinct.call (h : f.Distinct) (q : Call) : (f.call q).2.Distinct := by
  cases hq : (f.call q).1 with
  | error e =>
    rw [call_of_error hq]
    exact h
  | ok u =>
    cases q with
    | push field c =>
      rw [call_push_of_ok hq]
      exact ⟨nodup_keys_append h.entries (call_push_eq_ok.1 hq).2, h.anyOf⟩
    | pushAny field c =>
      rw [call_pushAny_of_ok hq]
      exact ⟨h.entries, nodup_keys_append h.anyOf (call_pushAny_eq_ok.1 hq).2⟩
    | set field c => exact ⟨Assoc.nodup_keys_put field c h.entries, h.anyOf⟩

theorem Distinct.afterCalls (h : f.Distinct) (calls : List Call) :
    (f.afterCalls calls).Distinct := by
  induction calls generalizing f with
  | nil => exact h
  | cons q calls ih => exact ih (h.call q)

/-! ## Filters that are read and built -/

/-- A value is read as a filter exactly if it is written as one, and the filter is the one that it
writes down.  Of a filter that is empty or was read, no run of calls makes one in which a field
stands twice in a list; a field is added to a list exactly if it has a name and is not in the list,
and then at its end; a call that refuses a field leaves the filter as it was. -/
theorem read_and_built :
    -- reading
    (∀ (v : Json) (f : Filter), v.isWellKeyed = true →
      (ofJson v = .ok f ↔ ∃ fields, v = .obj fields ∧ IsWritten fields ∧ written fields = f)) ∧
    -- building
    (∀ (start : Filter) (calls : List Call), (start = empty ∨ ∃ v, ofJson v = .ok start) →
      let f := start.afterCalls calls
      (Assoc.keys f.entries).Nodup ∧ (Assoc.keys f.anyOf).Nodup ∧
      (∀ field c, (f.call (.push field c)).1 = .ok () ↔
        Text.isBlank field = false ∧ field ∉ Assoc.keys f.entries) ∧
      (∀ field c, (f.call (.push field c)).1 = .ok () →
        (f.call (.push field c)).2 = { f with entries := f.entries ++ [(field, c)] }) ∧
      (∀ field c, (f.call (.pushAny field c)).1 = .ok () ↔
        Text.isBlank field = false ∧ field ∉ Assoc.keys f.anyOf) ∧
      (∀ field c, (f.call (.pushAny field c)).1 = .ok () →
        (f.call (.pushAny field c)).2 = { f with anyOf := f.anyOf ++ [(field, c)] }) ∧
      (∀ q e, (f.call q).1 = .error e → (f.call q).2 = f)) := by
  refine ⟨fun v f hv => ofJson_eq_ok hv, fun start calls hstart => ?_⟩
  have hdistinct : start.Distinct := by
    rcases hstart with rfl | ⟨v, hv⟩
    · exact distinct_empty
    · exact distinct_of_ofJson hv
  have hafter := hdistinct.afterCalls calls
  exact ⟨hafter.entries, hafter.anyOf, fun _ _ => call_push_eq_ok, fun _ _ => call_push_of_ok,
    fun _ _ => call_pushAny_eq_ok, fun _ _ => call_pushAny_of_ok, fun _ _ => call_of_error⟩

/-- A filter that is read, and on which a field is not asked about twice. -/
theorem read_and_built_ann :
    let v : Json := .obj [("name", .str "Ann"), ("$or", .obj [("age", .obj [(">", .ofNat 17)])])]
    let f : Filter := ⟨[("name", .scalar (.str "Ann"))],
      [("age", .operators ⟨[(.above, .ofNat 17)], []⟩)]⟩
    ofJson v = .ok f ∧ (∀ c, (f.call (.push "name" c)).1 ≠ .ok ()) ∧
      ∀ c, (f.call (.push "age" c)).1 = .ok () := by
  intro v f
  obtain ⟨hread, hbuilt⟩ := read_and_built
  have hname : WellShaped (.str "Ann") := .scalar rfl
  have hage : WellShaped (.obj [(">", .ofNat 17)]) :=
    .operators (by simp) (by simpa using .bound .above rfl) (by decide) (by decide)
  have hwritten :
      IsWritten [("name", .str "Ann"), ("$or", .obj [("age", .obj [(">", .ofNat 17)])])] :=
    ⟨by simpa [AreEntries, groupKey] using ⟨by decide, hname⟩,
      by simpa [AreEntries, groupKey] using ⟨by decide, hage⟩⟩
  have hf : ofJson v = .ok f := (hread v f (by decide)).2 ⟨_, rfl, hwritten, rfl⟩
  obtain ⟨-, -, hpush, -⟩ := hbuilt f [] (.inr ⟨v, hf⟩)
  exact ⟨hf, fun c hok => ((hpush "name" c).1 hok).2 (by decide),
    fun c => (hpush "age" c).2 ⟨by decide, by decide⟩⟩

end Polystore.Filter
