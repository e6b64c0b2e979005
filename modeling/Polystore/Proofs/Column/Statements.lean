import Mathlib.Data.List.Forall2
import Polystore.Column.Compile
import Polystore.Proofs.Outcome

/-!
# Statements of operations

What statement an accepted operation is turned into.  Every statement is on the table that the
operation was asked of (`target_of_compile`).
-/

namespace Polystore

/-! ## Lists that correspond item by item -/

section
variable {α β : Type} {R : α → β → Prop} {as : List α} {bs : List β}

theorem exists_of_mem_left (h : List.Forall₂ R as bs) {a : α} (ha : a ∈ as) :
    ∃ b ∈ bs, R a b := by
  induction h with
  | nil => cases ha
  | cons hr _ ih =>
    rcases List.mem_cons.1 ha with rfl | ha
    · exact ⟨_, List.mem_cons_self, hr⟩
    · obtain ⟨b, hb, hab⟩ := ih ha
      exact ⟨b, List.mem_cons_of_mem _ hb, hab⟩

theorem exists_of_mem_right (h : List.Forall₂ R as bs) {b : β} (hb : b ∈ bs) :
    ∃ a ∈ as, R a b := exists_of_mem_left h.flip hb

theorem exists_forall₂ (h : ∀ a ∈ as, ∃ b, R a b) : ∃ bs, List.Forall₂ R as bs := by
  induction as with
  | nil => exact ⟨[], .nil⟩
  | cons a as ih =>
    obtain ⟨b, hb⟩ := h a List.mem_cons_self
    obtain ⟨bs, hbs⟩ := ih fun a ha => h a (List.mem_cons_of_mem _ ha)
    exact ⟨b :: bs, .cons hb hbs⟩

end

/-! ## Parts -/

/-- The time to live that an operation asks for: none for zero and less. -/
def askedTtl (seconds : Int) : Option Int := if 0 < seconds then some seconds else none

theorem effectiveTtl_eq_ok {seconds : Int} {ttl : Option Int}
    (h : effectiveTtl seconds = .ok ttl) : ttl = askedTtl seconds := by
  unfold effectiveTtl at h
  split at h
  · exact absurd h Outcome.throw_ne_ok
  · exact (Outcome.pure_eq_ok.1 h).symm

theorem effectiveTtl_of_le {seconds : Int} (h : seconds ≤ maxTtl) :
    effectiveTtl seconds = .ok (askedTtl seconds) := by
  rw [effectiveTtl, if_neg (Int.not_lt.2 h)]
  rfl

theorem askedTtl_of_le {seconds : Int} (h : seconds ≤ 0) : askedTtl seconds = none :=
  if_neg (Int.not_lt.2 h)

namespace RowKey

/-- The conditions that a row has the key. -/
def equalConditions (k : RowKey) : List Condition := k.equalities.map fun p => ⟨p.1, .equals p.2⟩

theorem conditions_eq_ok {k : RowKey} {cs : List Condition} (h : k.conditions = .ok cs) :
    cs = k.equalConditions := by
  unfold conditions at h
  rw [Outcome.then_eq_ok, Outcome.pure_eq_ok] at h
  exact h.2.symm

theorem isScalar_of_checkColumns {columns : List (String × Json)}
    (h : CompositeKey.checkColumns columns = .ok ()) : ∀ p ∈ columns, p.2.isScalar = true := by
  induction columns with
  | nil => simp
  | cons p columns ih =>
    unfold CompositeKey.checkColumns at h
    rw [Outcome.then_eq_ok] at h
    obtain ⟨-, h⟩ := h
    split at h
    · next hv => exact List.forall_mem_cons.2 ⟨hv, ih h⟩
    · exact absurd h Outcome.throw_ne_ok

/-- The values of a checked key are scalars. -/
theorem isScalar_of_check {k : RowKey} (h : k.check = .ok ()) :
    ∀ p ∈ k.equalities, p.2.isScalar = true := by
  cases k with
  | id value => simp [equalities, Json.isScalar]
  | composite key =>
    simp only [check, CompositeKey.check] at h
    split at h
    · exact absurd h Outcome.throw_ne_ok
    · exact isScalar_of_checkColumns h

end RowKey

/-! ## Single statements -/

section
variable {name : TableName} {st : Statement}

theorem compileInsert_eq_ok {record : Record} {ttl : Int}
    (h : compileInsert name record ttl = .ok st) : st = ⟨name, .insert record (askedTtl ttl)⟩ := by
  unfold compileInsert at h
  split at h
  · exact absurd h Outcome.throw_ne_ok
  · rw [Outcome.then_eq_ok, Outcome.bind_eq_ok] at h
    obtain ⟨-, ttl', ht, h⟩ := h
    rw [effectiveTtl_eq_ok ht] at h
    exact (Outcome.pure_eq_ok.1 h).symm

theorem compileUpdate_eq_ok {key : RowKey} {values : Record} {ttl : Int}
    (h : compileUpdate name key values ttl = .ok st) :
    key.check = .ok () ∧
      st = ⟨name, .update (values.map fun p => .set p.1 p.2) key.equalConditions
        (askedTtl ttl)⟩ := by
  unfold compileUpdate at h
  rw [Outcome.then_eq_ok] at h
  obtain ⟨hk, h⟩ := h
  split at h
  · exact absurd h Outcome.throw_ne_ok
  · rw [Outcome.then_eq_ok, Outcome.bind_eq_ok] at h
    obtain ⟨-, conditions, hc, h⟩ := h
    rw [Outcome.bind_eq_ok] at h
    obtain ⟨ttl', ht, h⟩ := h
    rw [effectiveTtl_eq_ok ht, RowKey.conditions_eq_ok hc] at h
    exact ⟨hk, (Outcome.pure_eq_ok.1 h).symm⟩

theorem compileEntry_eq_ok {key : RowKey} {a : Assignment}
    (h : compileEntry name key a = .ok st) :
    key.check = .ok () ∧ st = ⟨name, .update [a] key.equalConditions none⟩ := by
  unfold compileEntry at h
  rw [Outcome.then_eq_ok, Outcome.then_eq_ok, Outcome.bind_eq_ok] at h
  obtain ⟨hk, -, conditions, hc, h⟩ := h
  rw [RowKey.conditions_eq_ok hc] at h
  exact ⟨hk, (Outcome.pure_eq_ok.1 h).symm⟩

theorem compileDelete_eq_ok {c : Criteria} (h : compileDelete name c = .ok st) :
    ∃ conditions, c.conditions = .ok conditions ∧ st = ⟨name, .delete conditions⟩ := by
  unfold compileDelete at h
  split at h
  · exact absurd h Outcome.throw_ne_ok
  · rw [Outcome.bind_eq_ok] at h
    obtain ⟨conditions, hc, h⟩ := h
    exact ⟨conditions, hc, (Outcome.pure_eq_ok.1 h).symm⟩

end

/-! ## Plans of single statements -/

/-- Checking the name of a table and then making one statement gives a plan if both succeed. -/
theorem single_eq_ok {name : TableName} {x : Checked Statement} {plan : Plan} :
    (do
      name.check
      return Plan.single (← x)) = .ok plan ↔
      name.check = .ok () ∧ ∃ st, x = .ok st ∧ plan = .single st := by
  rw [Outcome.then_eq_ok, Outcome.bind_eq_ok]
  simp only [Outcome.pure_eq_ok]
  constructor
  · rintro ⟨hn, st, hst, rfl⟩
    exact ⟨hn, st, hst, rfl⟩
  · rintro ⟨hn, st, hst, rfl⟩
    exact ⟨hn, st, hst, rfl⟩

theorem statement_of_single {name : TableName} {x : Checked Statement} {st : Statement}
    (h : (do
      name.check
      return Plan.single (← x)) = .ok (.single st)) : x = .ok st := by
  obtain ⟨-, st', hst, he⟩ := single_eq_ok.1 h
  obtain rfl := Plan.single.inj he
  exact hst

/-- Are the names of the table and of the projection such that they can be read? -/
def isNamed (name : TableName) (p : Projection) : Prop :=
  name.check = .ok () ∧ TtlProjection.check p.ttl = .ok () ∧
    Identifier.checkAll (p.fields.getD []) = .ok () ∧
      Identifier.checkAll (p.ttl.flatMap fun q => [q.1, q.2]) = .ok ()

theorem compileSelect_eq_ok {name : TableName} {c : Criteria} {p : Projection} {st : Statement} :
    compileSelect name c p = .ok st ↔
      (TtlProjection.check p.ttl = .ok () ∧ Identifier.checkAll (p.fields.getD []) = .ok () ∧
        Identifier.checkAll (p.ttl.flatMap fun q => [q.1, q.2]) = .ok ()) ∧
      ∃ conditions, c.conditions = .ok conditions ∧
        st = ⟨name, .select ⟨p.columns, p.ttl⟩ conditions⟩ := by
  unfold compileSelect
  simp only [Outcome.then_eq_ok]
  simp only [Outcome.bind_eq_ok, Outcome.pure_eq_ok]
  constructor
  · rintro ⟨ht, hf, hi, conditions, hc, rfl⟩
    exact ⟨⟨ht, hf, hi⟩, conditions, hc, rfl⟩
  · rintro ⟨⟨ht, hf, hi⟩, conditions, hc, rfl⟩
    exact ⟨ht, hf, hi, conditions, hc, rfl⟩

theorem compile_select_eq_ok {name : TableName} {c : Criteria} {p : Projection} {plan : Plan} :
    compile name (.select c p) = .ok plan ↔
      isNamed name p ∧ ∃ conditions, c.conditions = .ok conditions ∧
        plan = .single ⟨name, .select ⟨p.columns, p.ttl⟩ conditions⟩ := by
  refine Iff.trans single_eq_ok ?_
  simp only [compileSelect_eq_ok]
  constructor
  · rintro ⟨hn, _, ⟨hp, conditions, hc, rfl⟩, rfl⟩
    exact ⟨⟨hn, hp⟩, conditions, hc, rfl⟩
  · rintro ⟨⟨hn, hp⟩, conditions, hc, rfl⟩
    exact ⟨hn, _, ⟨hp, conditions, hc, rfl⟩, rfl⟩

/-! ## Plans of batches -/

/-- The operation that does what the item of a batch does. -/
def BatchItem.alone : BatchItem → Operation
  | insert record ttl => .insert record ttl
  | update key values => .update key values 0

section
variable {name : TableName} {item : BatchItem} {items : List BatchItem}

theorem compile_alone_eq_ok {plan : Plan} :
    compile name item.alone = .ok plan ↔
      name.check = .ok () ∧ ∃ st, compileItem name item = .ok st ∧ plan = .single st := by
  cases item with
  | insert record ttl => exact single_eq_ok
  | update key values => exact single_eq_ok

theorem compileItems_eq_ok {sts : List Statement} :
    compileItems name items = .ok sts ↔
      List.Forall₂ (fun item st => compileItem name item = .ok st) items sts := by
  induction items generalizing sts with
  | nil =>
    rw [compileItems, Outcome.pure_eq_ok, List.forall₂_nil_left_iff]
    exact eq_comm
  | cons item items ih =>
    simp only [compileItems, Outcome.bind_eq_ok, Outcome.pure_eq_ok, List.forall₂_cons_left_iff,
      ih]
    constructor
    · rintro ⟨st, hst, rest, hrest, rfl⟩
      exact ⟨st, rest, hst, hrest, rfl⟩
    · rintro ⟨st, rest, hst, hrest, rfl⟩
      exact ⟨st, hst, rest, hrest, rfl⟩

theorem compile_batch (name : TableName) (items : List BatchItem) :
    compile name (.batch items) = (do
      name.check
      if items.isEmpty then throw .emptyBatch
      else return .batch (← compileItems name items)) := rfl

theorem compile_batch_eq_ok {plan : Plan} :
    compile name (.batch items) = .ok plan ↔
      name.check = .ok () ∧ items ≠ [] ∧ ∃ sts,
        List.Forall₂ (fun item st => compileItem name item = .ok st) items sts ∧
          plan = .batch sts := by
  rw [ne_eq, ← List.isEmpty_iff, compile_batch, Outcome.bind_eq_ok]
  by_cases he : items.isEmpty = true
  · rw [if_pos he]
    simp [he]
  · rw [if_neg he]
    simp only [Outcome.bind_eq_ok, Outcome.pure_eq_ok, compileItems_eq_ok]
    constructor
    · rintro ⟨u, hn, sts, hsts, rfl⟩
      exact ⟨hn, he, sts, hsts, rfl⟩
    · rintro ⟨hn, -, sts, hsts, rfl⟩
      exact ⟨(), hn, sts, hsts, rfl⟩

/-- A batch of one item is turned into the statement of this item, or refused like it. -/
theorem compile_batch_singleton (name : TableName) (item : BatchItem) :
    (∃ r, compile name item.alone = .error r ∧ compile name (.batch [item]) = .error r) ∨
      ∃ st, compileItem name item = .ok st ∧ compile name item.alone = .ok (.single st) ∧
        compile name (.batch [item]) = .ok (.batch [st]) := by
  have halone : compile name item.alone = (do
      name.check
      return .single (← compileItem name item)) := by
    cases item with
    | insert record ttl => rfl
    | update key values => rfl
  rw [halone, compile_batch]
  cases name.check with
  | error r => exact .inl ⟨r, rfl, rfl⟩
  | ok u =>
    simp only [compileItems]
    cases compileItem name item with
    | error r => exact .inl ⟨r, rfl, rfl⟩
    | ok st => exact .inr ⟨st, rfl, rfl, rfl⟩

/-- Only a batch is turned into a batch of statements, one for each item. -/
theorem compile_eq_batch {op : Operation} {sts : List Statement}
    (h : compile name op = .ok (.batch sts)) :
    ∃ items, op = .batch items ∧ name.check = .ok () ∧
      List.Forall₂ (fun item st => compileItem name item = .ok st) items sts := by
  cases op with
  | batch items =>
    obtain ⟨hn, -, sts', hsts, he⟩ := compile_batch_eq_ok.1 h
    obtain rfl := Plan.batch.inj he
    exact ⟨items, rfl, hn, hsts⟩
  | select c p =>
    obtain ⟨-, _, -, he⟩ := compile_select_eq_ok.1 h
    cases he
  | _ =>
    obtain ⟨-, _, -, he⟩ := single_eq_ok.1 h
    cases he

/-- The items of a batch write. -/
theorem isRead_of_compileItem {st : Statement} (h : compileItem name item = .ok st) :
    st.isRead = false := by
  cases item with
  | insert record ttl =>
    rw [compileInsert_eq_ok h]
    rfl
  | update key values =>
    rw [(compileUpdate_eq_ok h).2]
    rfl

end

/-! ## Targets -/

theorem target_of_compileItem {name : TableName} {item : BatchItem} {st : Statement}
    (h : compileItem name item = .ok st) : st.target = name := by
  cases item with
  | insert record ttl => rw [compileInsert_eq_ok h]
  | update key values => rw [(compileUpdate_eq_ok h).2]

/-- Every statement of an operation is on the table that it was asked of. -/
theorem target_of_compile {name : TableName} {op : Operation} {plan : Plan}
    (h : compile name op = .ok plan) : ∀ st ∈ plan.statements, st.target = name := by
  cases op with
  | insert record ttl =>
    obtain ⟨-, st, hst, rfl⟩ := single_eq_ok.1 h
    rw [compileInsert_eq_ok hst]
    simp [Plan.statements]
  | update key values ttl =>
    obtain ⟨-, st, hst, rfl⟩ := single_eq_ok.1 h
    rw [(compileUpdate_eq_ok hst).2]
    simp [Plan.statements]
  | delete c =>
    obtain ⟨-, st, hst, rfl⟩ := single_eq_ok.1 h
    obtain ⟨conditions, -, rfl⟩ := compileDelete_eq_ok hst
    simp [Plan.statements]
  | select c p =>
    obtain ⟨-, conditions, -, rfl⟩ := compile_select_eq_ok.1 h
    simp [Plan.statements]
  | putEntry key column entry v =>
    obtain ⟨-, st, hst, rfl⟩ := single_eq_ok.1 h
    rw [(compileEntry_eq_ok hst).2]
    simp [Plan.statements]
  | removeEntry key column entry =>
    obtain ⟨-, st, hst, rfl⟩ := single_eq_ok.1 h
    rw [(compileEntry_eq_ok hst).2]
    simp [Plan.statements]
  | batch items =>
    obtain ⟨-, -, sts, hsts, rfl⟩ := compile_batch_eq_ok.1 h
    intro st hm
    obtain ⟨item, -, hc⟩ := exists_of_mem_right hsts hm
    exact target_of_compileItem hc

/-! ## Times to live -/

/-- The time to live of a write. -/
def Action.ttl? : Action → Option Int
  | insert _ ttl => ttl
  | update _ _ ttl => ttl
  | _ => none

/-- Is a time to live of the action at most the largest one? -/
def Action.EndsInTime (a : Action) : Prop := ∀ seconds, a.ttl? = some seconds → seconds ≤ maxTtl

section
variable {name : TableName} {st : Statement} {ttl : Int}

theorem le_maxTtl_of_effectiveTtl {ttl? : Option Int} (h : effectiveTtl ttl = .ok ttl?) :
    ttl ≤ maxTtl := by
  unfold effectiveTtl at h
  split at h
  · exact absurd h Outcome.throw_ne_ok
  · next hle => exact Int.not_lt.1 hle

theorem askedTtl_le (h : ttl ≤ maxTtl) (seconds : Int) (hs : askedTtl ttl = some seconds) :
    seconds ≤ maxTtl := by
  unfold askedTtl at hs
  split at hs
  · rwa [← Option.some.inj hs]
  · cases hs

theorem endsInTime_of_compileInsert {record : Record}
    (h : compileInsert name record ttl = .ok st) : st.action.EndsInTime := by
  rw [compileInsert_eq_ok h]
  refine askedTtl_le ?_
  unfold compileInsert at h
  split at h
  · exact absurd h Outcome.throw_ne_ok
  · rw [Outcome.then_eq_ok, Outcome.bind_eq_ok] at h
    obtain ⟨-, _, ht, -⟩ := h
    exact le_maxTtl_of_effectiveTtl ht

theorem endsInTime_of_compileUpdate {key : RowKey} {values : Record}
    (h : compileUpdate name key values ttl = .ok st) : st.action.EndsInTime := by
  rw [(compileUpdate_eq_ok h).2]
  refine askedTtl_le ?_
  unfold compileUpdate at h
  rw [Outcome.then_eq_ok] at h
  obtain ⟨-, h⟩ := h
  split at h
  · exact absurd h Outcome.throw_ne_ok
  · rw [Outcome.then_eq_ok, Outcome.bind_eq_ok] at h
    obtain ⟨-, _, -, h⟩ := h
    obtain ⟨_, ht, -⟩ := Outcome.bind_eq_ok.1 h
    exact le_maxTtl_of_effectiveTtl ht

/-- No operation is turned into a write that lasts longer than the largest time to live. -/
theorem endsInTime_of_compile {op : Operation} {plan : Plan} (h : compile name op = .ok plan) :
    ∀ st ∈ plan.statements, st.action.EndsInTime := by
  cases op with
  | insert record ttl =>
    obtain ⟨-, st, hst, rfl⟩ := single_eq_ok.1 h
    exact List.forall_mem_singleton.2 (endsInTime_of_compileInsert hst)
  | update key values ttl =>
    obtain ⟨-, st, hst, rfl⟩ := single_eq_ok.1 h
    exact List.forall_mem_singleton.2 (endsInTime_of_compileUpdate hst)
  | delete c =>
    obtain ⟨-, st, hst, rfl⟩ := single_eq_ok.1 h
    obtain ⟨conditions, -, rfl⟩ := compileDelete_eq_ok hst
    exact List.forall_mem_singleton.2 fun _ hs => (nomatch hs)
  | select c p =>
    obtain ⟨-, conditions, -, rfl⟩ := compile_select_eq_ok.1 h
    exact List.forall_mem_singleton.2 fun _ hs => (nomatch hs)
  | putEntry key column entry v =>
    obtain ⟨-, st, hst, rfl⟩ := single_eq_ok.1 h
    rw [(compileEntry_eq_ok hst).2]
    exact List.forall_mem_singleton.2 fun _ hs => (nomatch hs)
  | removeEntry key column entry =>
    obtain ⟨-, st, hst, rfl⟩ := single_eq_ok.1 h
    rw [(compileEntry_eq_ok hst).2]
    exact List.forall_mem_singleton.2 fun _ hs => (nomatch hs)
  | batch items =>
    obtain ⟨-, -, sts, hsts, rfl⟩ := compile_batch_eq_ok.1 h
    intro st hm
    obtain ⟨item, -, hc⟩ := exists_of_mem_right hsts hm
    cases item with
    | insert record ttl => exact endsInTime_of_compileInsert hc
    | update key values => exact endsInTime_of_compileUpdate hc

end

end Polystore
