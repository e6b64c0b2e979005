import Polystore.Proofs.Store.Consistency
import Polystore.Proofs.Table.Independence

/-!
# Independent writes commute

Whether a write is accepted depends on the keys and the declared columns of tables, not on what is
stored.  Two writes are independent if they are on different tables, or neither writes a row that
the other writes or deletes.  In every reachable store such writes can be executed in either order:

    s.Independent st st' now →
      ((s.execute st now).2.execute st' now).2.SameUpToOrder
        ((s.execute st' now).2.execute st now).2                  (execute_comm_of_independent)
-/

namespace Polystore.Store

/-! ## Independent statements -/

/-- Are the statements on different tables, or are their effects independent? -/
def Independent (s : Store) (st st' : Statement) (now : Nat) : Prop :=
  st.target ≠ st'.target ∨
    Effect.Independent (s.table st.target).layout ((s.table st.target).effect st.action now)
      ((s.table st'.target).effect st'.action now)

/-- Do the stores have the same declarations and the same tables, up to the order of rows and of
columns in each? -/
structure SameUpToOrder (s s' : Store) : Prop where
  registry : s.registry = s'.registry
  declared : s.declared = s'.declared
  tables : ∀ name, Option.Rel Table.SameUpToOrder (Assoc.find? name s.tables)
    (Assoc.find? name s'.tables)

variable {s s' : Store} {st st' : Statement} {now : Nat}

/-! ## Two statements -/

theorem find?_execute (s : Store) (st : Statement) (now : Nat) (name : TableName) :
    Assoc.find? name (s.execute st now).2.tables =
      if name = st.target then
        some (((s.table st.target).effect st.action now).apply (s.table st.target))
      else Assoc.find? name s.tables := by
  rw [execute_eq, ← Table.run_snd]
  exact Assoc.find?_put _ _ _ _

/-- After two statements on one table it has both effects. -/
theorem find?_execute_execute (h : st.target = st'.target) (name : TableName) :
    Assoc.find? name ((s.execute st now).2.execute st' now).2.tables =
      if name = st'.target then
        some (((s.table st'.target).effect st'.action now).apply
          (((s.table st.target).effect st.action now).apply (s.table st.target)))
      else Assoc.find? name s.tables := by
  rw [find?_execute]
  split
  · have ht : (s.execute st now).2.table st'.target =
        ((s.table st.target).effect st.action now).apply (s.table st.target) := by
      rw [table_execute_effect, if_pos h.symm, h]
    rw [ht, Table.effect_congr (Effect.layout_apply _ _) (Effect.declared_apply _ _)
      (Effect.clock_apply _ _), h]
  · next hn => rw [find?_execute, if_neg fun e => hn (e.trans h)]

/-- After two statements on different tables each table has the effect of its own. -/
theorem find?_execute_execute_of_ne (h : st.target ≠ st'.target) (name : TableName) :
    Assoc.find? name ((s.execute st now).2.execute st' now).2.tables =
      if name = st'.target then
        some (((s.table st'.target).effect st'.action now).apply (s.table st'.target))
      else if name = st.target then
        some (((s.table st.target).effect st.action now).apply (s.table st.target))
      else Assoc.find? name s.tables := by
  rw [find?_execute, find?_execute, table_execute_effect, if_neg h.symm]

theorem optionRel_refl (t? : Option Table) : Option.Rel Table.SameUpToOrder t? t? := by
  cases t? with
  | none => exact .none
  | some t => exact .some (.refl t)

/-- Statements with sound effects commute if they are independent, on tables whose rows have their
key cells. -/
theorem execute_comm (hk : ∀ r ∈ (s.table st.target).rows, r.Keyed (s.table st.target).layout)
    (hst : st.action.WellKeyed) (hst' : st'.action.WellKeyed) (hi : s.Independent st st' now) :
    ((s.execute st now).2.execute st' now).2.SameUpToOrder
      ((s.execute st' now).2.execute st now).2 := by
  refine ⟨rfl, rfl, fun name => ?_⟩
  by_cases h : st.target = st'.target
  · rw [find?_execute_execute h, find?_execute_execute h.symm, h]
    split
    · have hi := hi.resolve_left fun hne => hne h
      rw [h] at hk hi
      exact .some (Table.apply_comm hk (Table.sound_effect hst' now) (Table.sound_effect hst now)
        hi.symm)
    · exact optionRel_refl _
  · rw [find?_execute_execute_of_ne h, find?_execute_execute_of_ne (Ne.symm h)]
    by_cases hn : name = st'.target
    · rw [if_pos hn, if_neg fun e => h (e.symm.trans hn), if_pos hn]
      exact optionRel_refl _
    · rw [if_neg hn, if_neg hn]
      exact optionRel_refl _

/-- In a store that compiled plans lead to, from one without tables, it does not depend on what is
stored whether a write that was compiled is accepted: all stores with the same keys and declared
columns accept it, or all refuse it for the same reason.  Independent writes, executed at one
instant, leave the same tables in either order, up to the order of rows and of columns. -/
theorem execute_comm_of_independent {s₀ : Store} (hs : s₀.tables = []) (h : s₀.Leads s)
    (hst : st.IsCompiled) (hst' : st'.IsCompiled) (hw : st.isRead = false)
    (hw' : st'.isRead = false) (now : Nat) :
    (∀ u : Store, s.SameShape u → (u.execute st now).1 = (s.execute st now).1 ∧
      (u.execute st' now).1 = (s.execute st' now).1) ∧
    (s.Independent st st' now →
      ((s.execute st now).2.execute st' now).2.SameUpToOrder
        ((s.execute st' now).2.execute st now).2) := by
  refine ⟨fun u hu => ?_, fun hi => ?_⟩
  · exact ⟨execute_write_of_sameShape hu hw now, execute_write_of_sameShape hu hw' now⟩
  · exact execute_comm (h.keyed hs st.target).2 hst.wellKeyed hst'.wellKeyed hi

/-- The insertion of a record under the id `b`. -/
def insertOther : Statement := ⟨⟨"shop", "items"⟩, .insert [("id", .str "b")] none⟩

/-- The deletion of the row with the id `a`. -/
def deleteItem : Statement := ⟨⟨"shop", "items"⟩, .delete [⟨"id", .equals (.str "a")⟩]⟩

theorem execute_comm_insertOther_deleteItem :
    let s := (declaredItems.carryOut (.single insertItem) 0).2
    (s.table ⟨"shop", "items"⟩).rows.length = 1 ∧
      ((s.execute insertOther 2000).2.execute deleteItem 2000).2.SameUpToOrder
        ((s.execute deleteItem 2000).2.execute insertOther 2000).2 := by
  intro s
  have hp : ∀ st ∈ (Plan.single insertItem).statements, st.IsCompiled :=
    List.forall_mem_singleton.2 isCompiled_insertItem
  have hinsert : insertOther.IsCompiled := by
    refine ⟨⟨"shop", "items"⟩, .insert [("id", .str "b")] 0, .single insertOther, rfl, ?_,
      List.mem_singleton_self _⟩
    simp [Operation.InsertsMaps, Json.isWellKeyed, Json.fieldsAreWellKeyed, Assoc.keys]
  have hdelete : deleteItem.IsCompiled :=
    ⟨⟨"shop", "items"⟩, .delete (.key (.id "a")), .single deleteItem, rfl, trivial,
      List.mem_singleton_self _⟩
  have hi : s.Independent insertOther deleteItem 2000 := by
    have hwritten : ((s.table insertOther.target).effect insertOther.action 2000).written? =
        some [.str "b"] := rfl
    have hnone : ((s.table deleteItem.target).effect deleteItem.action 2000).written? = none := rfl
    refine .inr ⟨fun key hkey => ?_, fun key hkey => ?_⟩
    · obtain rfl := Option.some.inj (hwritten.symm.trans hkey)
      decide +kernel
    · rw [hnone] at hkey
      cases hkey
  exact ⟨by decide +kernel, (execute_comm_of_independent rfl (Leads.refl.step hp 0) hinsert
    hdelete rfl rfl 2000).2 hi⟩

end Polystore.Store
