import Polystore.Proofs.Store.History
import Polystore.Proofs.Table.Consistency

/-!
# Reachable stores are consistent

Statements that operations are turned into have sound effects, so whatever sound effects keep up
between a table and later ones holds between the tables of a store and those of every store that it
leads to (`Leads.tables`).  In particular, from a store without tables only consistent tables arise:

    s₀.tables = [] → s₀.Leads s → (s.table name).Consistent          (consistent_of_leads)
-/

namespace Polystore

/-! ## Compiled statements -/

/-- Is it a statement that an operation is turned into, which inserts only maps? -/
def Statement.IsCompiled (st : Statement) : Prop :=
  ∃ name op plan, compile name op = .ok plan ∧ op.InsertsMaps ∧ st ∈ plan.statements

theorem wellKeyed_of_compileItem {name : TableName} {item : BatchItem} {st : Statement}
    (h : compileItem name item = .ok st) (hm : item.alone.InsertsMaps) : st.action.WellKeyed := by
  cases item with
  | insert record ttl =>
    rw [compileInsert_eq_ok h]
    exact hm
  | update key values =>
    obtain ⟨hk, rfl⟩ := compileUpdate_eq_ok h
    exact wellKeyed_equalConditions hk

/-- The keys that an accepted operation addresses are well-keyed. -/
theorem wellKeyed_of_compile {name : TableName} {op : Operation} {plan : Plan}
    (h : compile name op = .ok plan) (hm : op.InsertsMaps) :
    ∀ st ∈ plan.statements, st.action.WellKeyed := by
  cases op with
  | insert record ttl =>
    obtain ⟨-, st, hst, rfl⟩ := single_eq_ok.1 h
    obtain rfl := compileInsert_eq_ok hst
    exact List.forall_mem_singleton.2 hm
  | update key values ttl =>
    obtain ⟨-, st, hst, rfl⟩ := single_eq_ok.1 h
    obtain ⟨hk, rfl⟩ := compileUpdate_eq_ok hst
    exact List.forall_mem_singleton.2 (wellKeyed_equalConditions hk)
  | delete c =>
    obtain ⟨-, st, hst, rfl⟩ := single_eq_ok.1 h
    obtain ⟨conditions, -, rfl⟩ := compileDelete_eq_ok hst
    exact List.forall_mem_singleton.2 trivial
  | select c p =>
    obtain ⟨-, conditions, -, rfl⟩ := compile_select_eq_ok.1 h
    exact List.forall_mem_singleton.2 trivial
  | putEntry key column entry v =>
    obtain ⟨-, st, hst, rfl⟩ := single_eq_ok.1 h
    obtain ⟨hk, rfl⟩ := compileEntry_eq_ok hst
    exact List.forall_mem_singleton.2 (wellKeyed_equalConditions hk)
  | removeEntry key column entry =>
    obtain ⟨-, st, hst, rfl⟩ := single_eq_ok.1 h
    obtain ⟨hk, rfl⟩ := compileEntry_eq_ok hst
    exact List.forall_mem_singleton.2 (wellKeyed_equalConditions hk)
  | batch items =>
    obtain ⟨-, -, sts, hsts, rfl⟩ := compile_batch_eq_ok.1 h
    intro st hst
    obtain ⟨item, hi, hc⟩ := exists_of_mem_right hsts hst
    refine wellKeyed_of_compileItem hc ?_
    cases item with
    | insert record ttl => exact hm record ttl hi
    | update key values => trivial

theorem Statement.IsCompiled.wellKeyed {st : Statement} (h : st.IsCompiled) :
    st.action.WellKeyed := by
  obtain ⟨name, op, plan, hc, hm, hst⟩ := h
  exact wellKeyed_of_compile hc hm st hst

namespace Store

/-! ## Stores that plans lead to -/

/-- The stores that a store leads to, by plans of compiled statements. -/
inductive Leads (s : Store) : Store → Prop where
  | refl : Leads s s
  | step {s' : Store} (h : Leads s s') {p : Plan} (hp : ∀ st ∈ p.statements, st.IsCompiled)
      (now : Nat) : Leads s (s'.carryOut p now).2

variable {s s' : Store}

theorem Leads.trans {s'' : Store} (h : s.Leads s') (h' : s'.Leads s'') : s.Leads s'' := by
  induction h' with
  | refl => exact h
  | step _ hp now ih => exact ih.step hp now

/-- A statement has its effect on its table, and none on the others. -/
theorem table_execute_effect (s : Store) (st : Statement) (now : Nat) (name : TableName) :
    (s.execute st now).2.table name =
      if name = st.target then ((s.table name).effect st.action now).apply (s.table name)
      else s.table name := by
  rw [table_execute]
  split
  · next h => rw [h, Table.run_snd]
  · rfl

section
variable {R : Table → Table → Prop} (hrefl : ∀ t, R t t)
  (htrans : ∀ {t t' t''}, R t t' → R t' t'' → R t t'')
  (hstep : ∀ {t : Table} {e : Effect}, e.Sound t → R t (e.apply t))
include hrefl hstep

theorem tables_execute (s : Store) {st : Statement} (hst : st.IsCompiled) (now : Nat)
    (name : TableName) : R (s.table name) ((s.execute st now).2.table name) := by
  rw [table_execute_effect]
  split
  · exact hstep (Table.sound_effect hst.wellKeyed now)
  · exact hrefl _

include htrans

theorem tables_foldl (s : Store) {sts : List Statement} (hsts : ∀ st ∈ sts, st.IsCompiled)
    (now : Nat) (name : TableName) :
    R (s.table name) ((sts.foldl (fun s st => (s.execute st now).2) s).table name) := by
  induction sts generalizing s with
  | nil => exact hrefl _
  | cons st sts ih =>
    rw [List.forall_mem_cons] at hsts
    exact htrans (tables_execute hrefl hstep s hsts.1 now name) (ih _ hsts.2)

/-- What is kept up by sound effects is kept up by a run of plans, in every table. -/
theorem Leads.tables (h : s.Leads s') (name : TableName) : R (s.table name) (s'.table name) := by
  induction h with
  | refl => exact hrefl _
  | @step s' _ p hp now ih =>
    refine htrans ih ?_
    rcases carryOut_cases s' p now with ⟨_, -, ha⟩ | ⟨-, he⟩
    · rw [ha name]
      exact hrefl _
    · rw [he]
      exact tables_foldl hrefl htrans hstep s' hp now name

end

/-- An invariant of tables that sound effects keep. -/
theorem Leads.invariant {P : Table → Prop} (hP : ∀ {t : Table} {e : Effect}, e.Sound t → P t →
    P (e.apply t)) (h : s.Leads s') (name : TableName) (ht : P (s.table name)) :
    P (s'.table name) :=
  h.tables (R := fun t t' => P t → P t') (fun _ ht => ht) (fun h₁ h₂ ht => h₂ (h₁ ht))
    (fun he ht => hP he ht) name ht

/-- From a store without tables, only tables arise whose rows have different keys and their key
cells. -/
theorem Leads.keyed {s₀ : Store} (h : s₀.Leads s) (hs : s₀.tables = []) (name : TableName) :
    Table.KeysDiffer (s.table name).rows ∧
      ∀ r ∈ (s.table name).rows, r.Keyed (s.table name).layout := by
  refine h.invariant (P := fun t => Table.KeysDiffer t.rows ∧ ∀ r ∈ t.rows, r.Keyed t.layout)
    (fun {t e} he ht => ?_) name ?_
  · rw [e.layout_apply]
    exact ⟨Table.keysDiffer_apply he ht.1, Table.keyed_apply he ht.2⟩
  · unfold table
    rw [hs]
    exact ⟨List.Pairwise.nil, fun r hr => absurd hr List.not_mem_nil⟩

/-- A call leads on from a store. -/
theorem leads_call {op : Operation} (hm : op.InsertsMaps) (s : Store) (name : TableName)
    (now : Nat) : s.Leads (s.call name op now).2 := by
  cases hc : compile name op with
  | error r =>
    rw [call_of_rejected hc]
    exact .refl
  | ok plan =>
    rw [call_of_compile hc]
    exact Leads.refl.step (fun st hst => ⟨name, op, plan, hc, hm, hst⟩) now

theorem Leads.sameShape (h : s.Leads s') : s.SameShape s' := by
  refine h.tables (R := fun t t' => t'.layout = t.layout ∧ t'.declared = t.declared)
    (fun _ => ⟨rfl, rfl⟩) (fun h₁ h₂ => ⟨h₂.1.trans h₁.1, h₂.2.trans h₁.2⟩) fun {t e} _ => ?_
  exact ⟨e.layout_apply t, e.declared_apply t⟩

/-- The columns of a table only ever grow at the end. -/
theorem Leads.columns_prefix (h : s.Leads s') (name : TableName) :
    (s.table name).columns <+: (s'.table name).columns :=
  h.tables (R := fun t t' => t.columns <+: t'.columns) (fun _ => List.prefix_refl _)
    (fun h₁ h₂ => h₁.trans h₂) (fun {t e} _ => Table.columns_prefix_apply e t) name

/-- From a store without tables, in which no column is declared twice for a table, only consistent
tables arise.  A table has the key of its name, knows the declared columns and no others if there
are any, and its columns only ever grow at the end. -/
theorem consistent_of_leads {s₀ : Store} (hs : s₀.tables = [])
    (hd : ∀ p ∈ s₀.declared, p.2.Nodup) (h : s₀.Leads s) (h' : s.Leads s') (name : TableName) :
    (s.table name).Consistent ∧
      (s.table name).layout = s₀.registry.get name ∧
      (s.table name).declared = Assoc.find? name s₀.declared ∧
      (s.table name).columns <+: (s'.table name).columns := by
  have htable : s₀.table name =
      .fresh (s₀.registry.get name) (Assoc.find? name s₀.declared) s₀.clock := by
    unfold table
    rw [hs]
    rfl
  have hfresh : (s₀.table name).Consistent := by
    rw [htable]
    exact Table.consistent_fresh _ _ fun columns hc => hd _ (Assoc.mem_of_find?_eq_some hc)
  refine ⟨h.invariant (fun he ht => ht.apply he) name hfresh, ?_, ?_, h'.columns_prefix name⟩
  · rw [(h.sameShape name).1, htable]
    rfl
  · rw [(h.sameShape name).2, htable]
    rfl

/-- A table with declared columns, and what is inserted there. -/
def declaredItems : Store := (empty .empty .wide).declare ⟨"shop", "items"⟩ ["id", "n", "tags"]

/-- The insertion of a record under the id `a`. -/
def insertItem : Statement :=
  ⟨⟨"shop", "items"⟩, .insert [("id", .str "a"), ("n", .ofNat 5)] none⟩

theorem isCompiled_insertItem : insertItem.IsCompiled := by
  refine ⟨⟨"shop", "items"⟩, .insert [("id", .str "a"), ("n", .ofNat 5)] 0, .single insertItem,
    rfl, ?_, List.mem_singleton_self _⟩
  simp [Operation.InsertsMaps, Json.isWellKeyed, Json.fieldsAreWellKeyed, Assoc.keys, Json.ofNat]

theorem consistent_of_leads_insertItem :
    let t := (declaredItems.carryOut (.single insertItem) 0).2.table ⟨"shop", "items"⟩
    t.rows.length = 1 ∧ t.Consistent ∧ t.declared = some ["id", "n", "tags"] ∧
      t.columns = ["id", "n", "tags"] := by
  intro t
  have hp : ∀ st ∈ (Plan.single insertItem).statements, st.IsCompiled :=
    List.forall_mem_singleton.2 isCompiled_insertItem
  have hd : ∀ p ∈ declaredItems.declared, p.2.Nodup := by
    simp [declaredItems, declare, empty, Assoc.put]
  obtain ⟨hc, -, hdeclared, -⟩ :=
    consistent_of_leads rfl hd (Leads.refl.step hp 0) .refl ⟨"shop", "items"⟩
  exact ⟨by decide +kernel, hc, hdeclared, hc.declared _ hdeclared⟩

end Store

end Polystore
