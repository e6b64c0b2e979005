import Polystore.Proofs.Column.Statements
import Polystore.Proofs.Store.Call

/-!
# Batches are atomic

A batch is accepted if and only if it has items and each of them is accepted alone, and then it does
what its items do one after the other.  A refused batch leaves the store as it was, whichever item
is to blame.  A refused statement leaves tables that later statements cannot tell from those before
it.

    (s.stage now sts).1 = .ok () ↔ every statement is a write that is accepted in s
                                                          (stage_eq_ok_iff)
    (s.executeBatch sts now).1 = .error fault → (s.executeBatch sts now).2 = s
                                                          (executeBatch_keeps_of_error)
-/

namespace Polystore

namespace Store

/-! ## Staged statements -/

section
variable {s : Store} {now : Nat}

/-- Statements can be staged if each of them alone is a write that the store accepts: none of them
changes what the checks of the others look at. -/
theorem stage_eq_ok_iff {sts : List Statement} :
    (s.stage now sts).1 = .ok () ↔
      ∀ st ∈ sts, st.isRead = false ∧ ∃ rs, (s.execute st now).1 = .ok rs := by
  induction sts generalizing s with
  | nil => simp [stage]
  | cons st sts ih =>
    rw [List.forall_mem_cons]
    simp only [stage]
    by_cases hr : st.isRead = true
    · simp [hr]
    · rw [if_neg hr]
      have hshape := sameShape_execute s st now
      rcases he : s.execute st now with ⟨result, t⟩
      rw [he] at hshape
      cases result with
      | error fault => simp
      | ok rs =>
        simp only [ih]
        refine ⟨fun h => ⟨⟨by simpa using hr, rs, rfl⟩, fun st' hst' => ?_⟩,
          fun h st' hst' => ?_⟩
        · obtain ⟨hw, rs', hrs'⟩ := h st' hst'
          exact ⟨hw, rs', by rw [← hrs', execute_write_of_sameShape hshape hw]⟩
        · obtain ⟨hw, rs', hrs'⟩ := h.2 st' hst'
          exact ⟨hw, rs', by rw [← hrs', execute_write_of_sameShape hshape hw]⟩

theorem stage_eq_foldl {sts : List Statement} (h : (s.stage now sts).1 = .ok ()) :
    (s.stage now sts).2 = sts.foldl (fun s st => (s.execute st now).2) s := by
  induction sts generalizing s with
  | nil => rfl
  | cons st sts ih =>
    simp only [stage] at h ⊢
    split at h
    · cases h
    · next hr =>
      rw [if_neg hr, List.foldl_cons]
      rcases he : s.execute st now with ⟨result, t⟩
      rw [he] at h
      cases result with
      | error fault => cases h
      | ok rs => exact ih h

theorem executeBatch_fst (s : Store) (sts : List Statement) (now : Nat) :
    (s.executeBatch sts now).1 = (s.stage now sts).1 := by
  unfold executeBatch
  rcases s.stage now sts with ⟨_ | _, t⟩ <;> rfl

theorem executeBatch_snd_of_ok {sts : List Statement} (h : (s.executeBatch sts now).1 = .ok ()) :
    (s.executeBatch sts now).2 = sts.foldl (fun s st => (s.execute st now).2) s := by
  rw [executeBatch_fst] at h
  rw [← stage_eq_foldl h]
  unfold executeBatch
  rcases he : s.stage now sts with ⟨result, t⟩
  rw [he] at h
  cases h
  rfl

/-- A refused batch changes nothing. -/
theorem executeBatch_keeps_of_error {sts : List Statement} {fault : StoreFault}
    (h : (s.executeBatch sts now).1 = .error fault) : (s.executeBatch sts now).2 = s := by
  unfold executeBatch at h ⊢
  rcases he : s.stage now sts with ⟨result, t⟩
  rw [he] at h
  cases result with
  | ok u => cases h
  | error f => rfl

/-- A batch with a read in any place is refused. -/
theorem executeBatch_of_read {sts : List Statement} {st : Statement} (hm : st ∈ sts)
    (hr : st.isRead = true) : ∃ fault, s.executeBatch sts now = (.error fault, s) := by
  have hne : ∀ u, (s.executeBatch sts now).1 ≠ .ok u := by
    intro u hu
    rw [executeBatch_fst] at hu
    have := (stage_eq_ok_iff.1 hu st hm).1
    rw [hr] at this
    cases this
  obtain ⟨fault, hf⟩ := Outcome.exists_error_of_forall_ne hne
  exact ⟨fault, Prod.ext hf (executeBatch_keeps_of_error hf)⟩

end

/-! ## Calls -/

section
variable {s : Store} {name : TableName} {now : Nat}

/-- An item alone is accepted if its statement is. -/
theorem call_alone_isOk_iff {item : BatchItem} :
    (∃ rs, (s.call name item.alone now).1 = .ok rs) ↔
      name.check = .ok () ∧ ∃ st, compileItem name item = .ok st ∧
        ∃ rs, (s.execute st now).1 = .ok rs := by
  simp only [call_eq_ok_iff, compile_alone_eq_ok]
  constructor
  · rintro ⟨rs, _, ⟨hn, st, hst, rfl⟩, hrs⟩
    exact ⟨hn, st, hst, rs, hrs⟩
  · rintro ⟨hn, st, hst, rs, hrs⟩
    exact ⟨rs, _, ⟨hn, st, hst, rfl⟩, hrs⟩

theorem call_alone_snd {item : BatchItem} {st : Statement} (hn : name.check = .ok ())
    (h : compileItem name item = .ok st) (s : Store) :
    (s.call name item.alone now).2 = (s.execute st now).2 := by
  rw [call_of_compile (compile_alone_eq_ok.2 ⟨hn, st, h, rfl⟩)]
  rfl

/-- The items of a batch, called one after the other, do what their statements do. -/
theorem foldl_call_alone {items : List BatchItem} {sts : List Statement}
    (hn : name.check = .ok ())
    (h : List.Forall₂ (fun item st => compileItem name item = .ok st) items sts) (s : Store) :
    items.foldl (fun s item => (s.call name item.alone now).2) s =
      sts.foldl (fun s st => (s.execute st now).2) s := by
  induction h generalizing s with
  | nil => rfl
  | cons hst _ ih => rw [List.foldl_cons, List.foldl_cons, call_alone_snd hn hst, ih]

theorem carryOut_batch_eq_ok {sts : List Statement} :
    (∃ rs, (s.carryOut (.batch sts) now).1 = .ok rs) ↔ (s.stage now sts).1 = .ok () := by
  have h : (s.carryOut (.batch sts) now).1 = (s.executeBatch sts now).1.map fun _ => .none := rfl
  rw [h, executeBatch_fst]
  rcases (s.stage now sts).1 with _ | _ <;> simp [Except.map]

/-- What a plan can do: it is refused and leaves a store that is alike, or it is accepted and all
its statements are executed, one after the other. -/
theorem carryOut_cases (s : Store) (p : Plan) (now : Nat) :
    (∃ fault, (s.carryOut p now).1 = .error fault ∧ (s.carryOut p now).2.Alike s) ∨
      (∃ rs, (s.carryOut p now).1 = .ok rs) ∧
        (s.carryOut p now).2 = p.statements.foldl (fun s st => (s.execute st now).2) s := by
  cases p with
  | single st =>
    rcases hx : s.execute st now with ⟨fault | rs, s'⟩
    · have hp : s.carryOut (.single st) now = (.error fault, s') := hx
      rw [hp]
      exact .inl ⟨fault, rfl, alike_of_execute_refused hx⟩
    · have hp : s.carryOut (.single st) now = (.ok rs, s') := hx
      rw [hp]
      refine .inr ⟨⟨rs, rfl⟩, ?_⟩
      show s' = (s.execute st now).2
      rw [hx]
  | batch sts =>
    have hfst : (s.carryOut (.batch sts) now).1 =
      (s.executeBatch sts now).1.map fun _ => .none := rfl
    have hsnd : (s.carryOut (.batch sts) now).2 = (s.executeBatch sts now).2 := rfl
    rw [hfst, hsnd]
    cases hx : (s.executeBatch sts now).1 with
    | error fault =>
      refine .inl ⟨fault, rfl, ?_⟩
      rw [executeBatch_keeps_of_error hx]
      exact .refl s
    | ok u => exact .inr ⟨⟨.none, rfl⟩, executeBatch_snd_of_ok hx⟩

theorem clock_stage (s : Store) (sts : List Statement) (now : Nat) :
    (s.stage now sts).2.clock = s.clock := by
  induction sts generalizing s with
  | nil => rfl
  | cons st sts ih =>
    have hclock : (s.execute st now).2.clock = s.clock := rfl
    simp only [stage]
    split
    · rfl
    · rcases he : s.execute st now with ⟨_ | rs, s'⟩
      · rwa [he] at hclock
      · rw [he] at hclock
        exact (ih s').trans hclock

/-- A store keeps its clock. -/
theorem clock_carryOut (s : Store) (p : Plan) (now : Nat) :
    (s.carryOut p now).2.clock = s.clock := by
  cases p with
  | single st => rfl
  | batch sts =>
    have hclock := clock_stage s sts now
    show (s.executeBatch sts now).2.clock = s.clock
    unfold executeBatch
    rcases he : s.stage now sts with ⟨_ | _, s'⟩
    · rfl
    · rwa [he] at hclock

/-- What every action keeps of a table, every plan keeps of every table. -/
theorem kept_carryOut {α : Type} {f : Table → α} (hf : ∀ t a now, f (Table.run t a now).2 = f t)
    (s : Store) (p : Plan) (now : Nat) (name : TableName) :
    f ((s.carryOut p now).2.table name) = f (s.table name) := by
  obtain ⟨_, -, ha⟩ | ⟨-, he⟩ := carryOut_cases s p now
  · rw [ha name]
  · rw [he]
    exact kept_foldl hf s p.statements now name

/-- A batch of one write is accepted like the write, and leaves an alike store. -/
theorem carryOut_batch_singleton (s : Store) (now : Nat) {st : Statement} (hw : st.isRead = false) :
    ((∃ rs, (s.carryOut (.single st) now).1 = .ok rs) ↔
      ∃ rs, (s.carryOut (.batch [st]) now).1 = .ok rs) ∧
    (s.carryOut (.single st) now).2.Alike (s.carryOut (.batch [st]) now).2 := by
  have hiff : (∃ rs, (s.carryOut (.single st) now).1 = .ok rs) ↔
      ∃ rs, (s.carryOut (.batch [st]) now).1 = .ok rs := by
    rw [carryOut_batch_eq_ok, stage_eq_ok_iff, List.forall_mem_singleton]
    exact ⟨fun h => ⟨hw, h⟩, fun h => h.2⟩
  refine ⟨hiff, ?_⟩
  obtain ⟨f, hf, ha⟩ | ⟨⟨rs, hrs⟩, he⟩ := carryOut_cases s (.single st) now
  · obtain ⟨-, -, ha'⟩ | ⟨hok, -⟩ := carryOut_cases s (.batch [st]) now
    · exact fun name => (ha name).trans (ha' name).symm
    · obtain ⟨rs, hrs⟩ := hiff.2 hok
      rw [hf] at hrs
      cases hrs
  · obtain ⟨f, hf, -⟩ | ⟨-, he'⟩ := carryOut_cases s (.batch [st]) now
    · obtain ⟨rs', hrs'⟩ := hiff.1 ⟨rs, hrs⟩
      rw [hf] at hrs'
      cases hrs'
    · rw [he, he']
      exact .refl _

/-- A batch is accepted if it has items and each of them alone is. -/
theorem call_batch_isOk_iff {items : List BatchItem} :
    (∃ rs, (s.call name (.batch items) now).1 = .ok rs) ↔
      items ≠ [] ∧ ∀ item ∈ items, ∃ rs, (s.call name item.alone now).1 = .ok rs := by
  simp only [call_alone_isOk_iff]
  simp only [call_eq_ok_iff, compile_batch_eq_ok]
  constructor
  · rintro ⟨rs, _, ⟨hn, hne, sts, hsts, rfl⟩, hrs⟩
    refine ⟨hne, fun item hi => ⟨hn, ?_⟩⟩
    have hst := stage_eq_ok_iff.1 (carryOut_batch_eq_ok.1 ⟨rs, hrs⟩)
    obtain ⟨st, hm, hc⟩ := exists_of_mem_left hsts hi
    exact ⟨st, hc, (hst st hm).2⟩
  · rintro ⟨hne, hall⟩
    obtain ⟨item, hi⟩ := List.exists_mem_of_ne_nil items hne
    have hn := (hall item hi).1
    obtain ⟨sts, hsts⟩ := exists_forall₂ fun item hi => (hall item hi).2
    have hok : (s.stage now sts).1 = .ok () := by
      refine stage_eq_ok_iff.2 fun st hm => ?_
      obtain ⟨item, -, hc, hrs⟩ := exists_of_mem_right hsts hm
      exact ⟨isRead_of_compileItem hc, hrs⟩
    obtain ⟨rs, hrs⟩ := carryOut_batch_eq_ok.2 hok
    exact ⟨rs, _, ⟨hn, hne, sts, hsts.imp fun _ _ h => h.1, rfl⟩, hrs⟩

/-- An accepted batch does what its items do one after the other. -/
theorem call_batch_snd_of_ok {items : List BatchItem} {rs : RowSet}
    (h : (s.call name (.batch items) now).1 = .ok rs) :
    (s.call name (.batch items) now).2 =
      items.foldl (fun s item => (s.call name item.alone now).2) s := by
  obtain ⟨plan, hc, hrs⟩ := call_eq_ok_iff.1 h
  obtain ⟨hn, -, sts, hsts, rfl⟩ := compile_batch_eq_ok.1 hc
  rw [call_of_compile hc, foldl_call_alone hn hsts]
  refine executeBatch_snd_of_ok ?_
  rw [executeBatch_fst]
  exact carryOut_batch_eq_ok.1 ⟨rs, hrs⟩

/-- A refused batch changes nothing, whether it was rejected or one of its statements refused. -/
theorem call_batch_snd_of_error {items : List BatchItem} {r : Refusal}
    (h : (s.call name (.batch items) now).1 = .error r) :
    (s.call name (.batch items) now).2 = s := by
  cases hc : compile name (.batch items) with
  | error e => rw [call_of_rejected hc]
  | ok plan =>
    obtain ⟨-, -, sts, -, rfl⟩ := compile_batch_eq_ok.1 hc
    rw [call_of_compile hc] at h ⊢
    show (s.executeBatch sts now).2 = s
    cases he : (s.executeBatch sts now).1 with
    | error fault => exact executeBatch_keeps_of_error he
    | ok u =>
      have : (s.carryOut (.batch sts) now).1 = .ok .none := by
        show (s.executeBatch sts now).1.map _ = _
        rw [he]
        rfl
      rw [this] at h
      cases h

end

/-! ## Atomicity -/

/-- Calls of batches, lists of statements and single statements are atomic.  A batch is accepted if
it has items and each of them alone is accepted; it then does what they do one after the other, and
otherwise nothing.  A list of statements that is refused does nothing, and one with a read in it is
refused.  A refused statement keeps every table, except that it may bring a table without rows into
being, and all later answers. -/
theorem calls_are_atomic (s : Store) (name : TableName) (now : Nat) :
    (∀ items : List BatchItem,
      ((∃ rs, (s.call name (.batch items) now).1 = .ok rs) ↔
        items ≠ [] ∧ ∀ item ∈ items, ∃ rs, (s.call name item.alone now).1 = .ok rs) ∧
      (∀ rs, (s.call name (.batch items) now).1 = .ok rs →
        (s.call name (.batch items) now).2 =
          items.foldl (fun s item => (s.call name item.alone now).2) s) ∧
      (∀ r, (s.call name (.batch items) now).1 = .error r →
        (s.call name (.batch items) now).2 = s)) ∧
    (∀ sts : List Statement,
      (∀ fault, (s.executeBatch sts now).1 = .error fault → (s.executeBatch sts now).2 = s) ∧
      ((∃ st ∈ sts, st.isRead = true) → ∃ fault, s.executeBatch sts now = (.error fault, s))) ∧
    (∀ (st : Statement) (fault : StoreFault) (s' : Store),
      s.execute st now = (.error fault, s') →
        (∀ other, Assoc.find? other s'.tables = Assoc.find? other s.tables ∨
          Assoc.find? other s.tables = none ∧ Assoc.find? other s'.tables =
            some (.fresh (s.registry.get other) (Assoc.find? other s.declared) s.clock)) ∧
        ∀ later, s'.answers later = s.answers later) := by
  refine ⟨fun items => ⟨call_batch_isOk_iff, ?_, ?_⟩, fun sts => ⟨?_, ?_⟩, ?_⟩
  · intro rs h
    exact call_batch_snd_of_ok h
  · intro r h
    exact call_batch_snd_of_error h
  · intro fault h
    exact executeBatch_keeps_of_error h
  · rintro ⟨st, hm, hr⟩
    exact executeBatch_of_read hm hr
  · intro st fault s' h
    exact ⟨find?_of_execute_refused h, answers_of_alike (alike_of_execute_refused h)⟩

end Store

end Polystore
