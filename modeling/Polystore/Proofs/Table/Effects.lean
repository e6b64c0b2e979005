import Polystore.Proofs.Table.Columns

/-!
# Effects of actions

What an action does to a table is one of three things: nothing, a change of the row with one key, or
the removal of rows.  Which one it is, the key, the declared columns and the clock of the table
decide; its rows have no say.

    (t.run a now).2 = (t.effect a now).apply t                                     (run_snd)
    t'.layout = t.layout → t'.declared = t.declared → t'.clock = t.clock →
      t'.effect a now = t.effect a now                                             (effect_congr)

An action whose keys are made of well-keyed values has a sound effect (`sound_effect`): a changed
row keeps its key and gets its key cells, what is written is not null, and rows are removed by
conditions on the key alone.  Proofs about runs of such actions need no more than that.
-/

namespace Polystore

/-! ## Filled rows -/

/-- Does every cell outside the key hold a value that is not null, in one of these columns? -/
def Row.Filled (l : KeyLayout) (columns : List String) (r : Row) : Prop :=
  ∀ p ∈ r.cells, l.isKey p.1 = false → p.2.value.isNull = false ∧ p.1 ∈ columns

namespace Row

variable {l : KeyLayout} {columns columns' : List String} {r : Row}

theorem Filled.mono (h : r.Filled l columns) (hs : ∀ c ∈ columns, c ∈ columns') :
    r.Filled l columns' := by
  intro p hp hk
  obtain ⟨hv, hc⟩ := h p hp hk
  exact ⟨hv, hs _ hc⟩

theorem Filled.write (h : r.Filled l columns) {column : String} {cell : Cell}
    (hc : l.isKey column = false → cell.value.isNull = false ∧ column ∈ columns) :
    (r.write column cell).Filled l columns := by
  intro p hp
  rcases Assoc.mem_of_mem_put hp with rfl | hp
  · exact hc
  · exact h p hp

theorem Filled.store (h : r.Filled l columns) {column : String} (hc : column ∈ columns) (v : Json)
    (d : Deadline) : (r.store column v d).Filled l columns := by
  unfold Row.store
  split
  · intro p hp
    exact h p (List.mem_of_mem_filter hp)
  · next hv => exact h.write fun _ => ⟨by simpa using hv, hc⟩

theorem Filled.assign (h : r.Filled l columns) {a : Assignment} (hc : a.column ∈ columns)
    (now : Nat) (d : Deadline) : (r.assign now d a).Filled l columns := by
  cases a with
  | set column v => exact h.store hc v d
  | put column entry v => exact h.write fun _ => ⟨rfl, hc⟩
  | remove column entry =>
    unfold Row.assign
    dsimp only
    split
    · exact h.write fun _ => ⟨rfl, hc⟩
    · exact h

theorem filled_foldl {α : Type} {f : Row → α → Row} {as : List α} (h : r.Filled l columns)
    (hf : ∀ r, ∀ a ∈ as, r.Filled l columns → (f r a).Filled l columns) :
    (as.foldl f r).Filled l columns := by
  induction as generalizing r with
  | nil => exact h
  | cons a as ih =>
    exact ih (hf r a List.mem_cons_self h) fun r b hb => hf r b (List.mem_cons_of_mem _ hb)

theorem Filled.insertCells (h : r.Filled l columns) {values : List (String × Json)}
    (hv : ∀ c ∈ values.map Prod.fst, c ∈ columns) (d : Deadline) :
    (Table.insertCells l d r values).Filled l columns := by
  refine filled_foldl h fun r p hp hr => ?_
  split
  · next hk =>
    refine hr.write fun hn => ?_
    rw [hk] at hn
    cases hn
  · exact hr.store (hv p.1 (List.mem_map_of_mem hp)) p.2 d

theorem Filled.updateCells (h : r.Filled l columns) {assignments : List Assignment}
    (ha : ∀ c ∈ assignments.map Assignment.column, c ∈ columns) (key : List Json) (now : Nat)
    (d : Deadline) : (Table.updateCells l key now d r assignments).Filled l columns := by
  refine filled_foldl (filled_foldl h fun r p hp hr => ?_) fun r a hm hr => ?_
  · refine hr.write fun hn => ?_
    rw [KeyLayout.isKey_iff.2 (List.of_mem_zip hp).1] at hn
    cases hn
  · exact hr.assign (ha a.column (List.mem_map_of_mem hm)) now d

end Row

/-! ## Keys that actions address -/

/-- Are the values that make up the key of the action well-keyed, and is what it inserts a map? -/
def Action.WellKeyed : Action → Prop
  | insert columns _ => (Json.obj columns).isWellKeyed = true
  | update _ conditions _ =>
    ∀ column v, Table.equalityOn? column conditions = some v → v.isWellKeyed = true
  | _ => True

namespace Table

variable {t t' : Table} {key : List Json}

/-- A full key is as long as the list of key columns, and as well-keyed as what it is made of. -/
theorem wellKeyed_of_fullKey {lookup : String → Option Json} {names : List String}
    (h : fullKey lookup names = .ok key)
    (hw : ∀ name v, lookup name = some v → v.isWellKeyed = true) :
    key.length = names.length ∧ Json.areWellKeyed key = true := by
  obtain ⟨rfl, hall⟩ := fullKey_eq_ok h
  refine ⟨List.length_map _, ?_⟩
  rw [Json.areWellKeyed_iff, List.forall_mem_map]
  intro name hm
  obtain ⟨v, hv⟩ := hall name hm
  rw [hv]
  exact hw name v hv

theorem insertKey_eq_ok {columns : List (String × Json)} (h : t.insertKey columns = .ok key) :
    (∀ c ∈ columns.map Prod.fst, t.allows c = true) ∧
      fullKey (fun name => Assoc.find? name columns) t.layout.names = .ok key := by
  rw [insertKey, Outcome.then_eq_ok, checkColumns_eq_ok] at h
  exact h

theorem updateKey_eq_ok {assignments : List Assignment} {conditions : List Condition}
    (h : t.updateKey assignments conditions = .ok key) :
    (∀ a ∈ assignments, t.allows a.column = true ∧ t.layout.isKey a.column = false) ∧
      fullKey (fun name => equalityOn? name conditions) t.layout.names = .ok key := by
  rw [updateKey, Outcome.then_eq_ok, Outcome.then_eq_ok, checkAssignments_eq_ok] at h
  exact ⟨h.1, h.2.2⟩

theorem isKey_of_deleteCheck {conditions : List Condition}
    (h : t.deleteCheck conditions = .ok ()) : ∀ d ∈ conditions, t.layout.isKey d.column = true := by
  unfold deleteCheck at h
  split at h
  · exact absurd h Outcome.throw_ne_ok
  · exact fun d hd => (checkKeyConditions_eq_ok.1 h d hd).2

end Table

/-! ## Effects -/

/-- What an action does to a table. -/
inductive Effect where
  | nothing
  /-- Changes the row with a key, and notes columns. -/
  | change (key : List Json) (f : Row → Row) (columns : List String)
  /-- Removes the rows that satisfy all conditions. -/
  | remove (conditions : List Condition) (now : Nat)

/-- The table after the effect. -/
def Effect.apply (e : Effect) (t : Table) : Table :=
  match e with
  | nothing => t
  | change key f columns =>
    { t with
      columns := Table.noteColumns t.columns columns
      rows := Table.changeRow key f t.rows }
  | remove conditions now => t.deleted conditions now

namespace Table

/-- The effect of an action on a table with the key, the declared columns and the clock of this
one. -/
def effect (t : Table) (a : Action) (now : Nat) : Effect :=
  match a with
  | .insert columns ttl =>
    match t.insertKey columns with
    | .ok key =>
      .change key
        (fun r => insertCells t.layout (.after t.clock now ttl)
          { r with inserted := some (.after t.clock now ttl) } columns)
        (columns.map Prod.fst)
    | .error _ => .nothing
  | .update assignments conditions ttl =>
    match t.updateKey assignments conditions with
    | .ok key =>
      .change key (fun r => updateCells t.layout key now (.after t.clock now ttl) r assignments)
        (assignments.map Assignment.column)
    | .error _ => .nothing
  | .delete conditions =>
    match t.deleteCheck conditions with
    | .ok () => .remove conditions now
    | .error _ => .nothing
  | .select _ _ => .nothing

variable {t t' : Table}

/-- A run has the effect of its action. -/
theorem run_snd (t : Table) (a : Action) (now : Nat) :
    (t.run a now).2 = (t.effect a now).apply t := by
  unfold effect
  cases a with
  | insert columns ttl =>
    rw [run_insert]
    dsimp only
    cases t.insertKey columns <;> rfl
  | update assignments conditions ttl =>
    rw [run_update]
    dsimp only
    cases t.updateKey assignments conditions <;> rfl
  | delete conditions =>
    rw [run_delete]
    dsimp only
    cases t.deleteCheck conditions <;> rfl
  | select s conditions => rfl

/-- Rows and known columns do not matter for what an action does. -/
theorem effect_congr (hl : t'.layout = t.layout) (hd : t'.declared = t.declared)
    (hc : t'.clock = t.clock) (a : Action) (now : Nat) : t'.effect a now = t.effect a now := by
  unfold effect
  cases a with
  | insert columns ttl => simp only [insertKey_congr hl hd, hl, hc]
  | update assignments conditions ttl => simp only [updateKey_congr hl hd, hl, hc]
  | delete conditions => simp only [deleteCheck_congr hl hd]
  | select s conditions => rfl

end Table

namespace Effect

theorem layout_apply (e : Effect) (t : Table) : (e.apply t).layout = t.layout := by cases e <;> rfl

theorem declared_apply (e : Effect) (t : Table) : (e.apply t).declared = t.declared := by
  cases e <;> rfl

theorem clock_apply (e : Effect) (t : Table) : (e.apply t).clock = t.clock := by cases e <;> rfl

/-- A change of the row with a key that keeps up what holds of the rows of a table. -/
structure Keeps (l : KeyLayout) (key : List Json) (f : Row → Row) (columns : List String) :
    Prop where
  length : key.length = l.names.length
  wellKeyed : Json.areWellKeyed key = true
  key_eq : ∀ r, (f r).key = r.key
  keyed : ∀ r : Row, r.Proper l → Json.sameItems r.key key = true → (f r).Keyed l
  filled : ∀ known : List String, (∀ c ∈ columns, c ∈ known) →
    ∀ r : Row, r.Filled l known → (f r).Filled l known

/-- Does the effect suit the table: does it change a row as it should and note allowed columns, or
remove rows by their keys? -/
def Sound (t : Table) : Effect → Prop
  | nothing => True
  | change key f columns => Keeps t.layout key f columns ∧ ∀ c ∈ columns, t.allows c = true
  | remove conditions _ => ∀ d ∈ conditions, t.layout.isKey d.column = true

end Effect

namespace Table

variable {t : Table} {key : List Json}

theorem keeps_insertCells {columns : List (String × Json)}
    (hc : (Json.obj columns).isWellKeyed = true)
    (hk : fullKey (fun name => Assoc.find? name columns) t.layout.names = .ok key) (d : Deadline) :
    Effect.Keeps t.layout key
      (fun r => insertCells t.layout d { r with inserted := some d } columns)
      (columns.map Prod.fst) := by
  obtain ⟨hn, hv⟩ := (Json.isWellKeyed_obj_iff columns).1 hc
  obtain ⟨hl, hw⟩ :=
    wellKeyed_of_fullKey hk fun name v hf => hv _ (Assoc.mem_of_find?_eq_some hf)
  refine ⟨hl, hw, fun r => key_insertCells _ _ _ _, fun r hr hs => ?_, fun known hs r hr => ?_⟩
  · have hr' : ({ r with inserted := some d } : Row).Proper t.layout :=
      ⟨hr.length, hr.wellKeyed, hr.nodup⟩
    exact keyed_insertCells hr' hn hk hs d
  · exact Row.Filled.insertCells (r := { r with inserted := some d }) hr hs d

theorem keeps_updateCells {assignments : List Assignment} {conditions : List Condition}
    (hc : ∀ column v, equalityOn? column conditions = some v → v.isWellKeyed = true)
    (ha : ∀ a ∈ assignments, t.layout.isKey a.column = false)
    (hk : fullKey (fun name => equalityOn? name conditions) t.layout.names = .ok key) (now : Nat)
    (d : Deadline) :
    Effect.Keeps t.layout key (fun r => updateCells t.layout key now d r assignments)
      (assignments.map Assignment.column) := by
  obtain ⟨hl, hw⟩ := wellKeyed_of_fullKey hk hc
  refine ⟨hl, hw, fun r => key_updateCells _ _ _ _ _ _, fun r hr hs => ?_, fun known hs r hr => ?_⟩
  · exact keyed_updateCells hr ha hs now d
  · exact hr.updateCells hs key now d

/-- The effect of an action is sound if the keys that it addresses are well-keyed. -/
theorem sound_effect {a : Action} (ha : a.WellKeyed) (now : Nat) : (t.effect a now).Sound t := by
  unfold effect
  cases a with
  | insert columns ttl =>
    dsimp only
    split
    · next key hk =>
      obtain ⟨hc, hk⟩ := insertKey_eq_ok hk
      exact ⟨keeps_insertCells ha hk _, hc⟩
    · trivial
  | update assignments conditions ttl =>
    dsimp only
    split
    · next key hk =>
      obtain ⟨has, hk⟩ := updateKey_eq_ok hk
      refine ⟨keeps_updateCells ha (fun b hb => (has b hb).2) hk now _, ?_⟩
      rw [List.forall_mem_map]
      exact fun b hb => (has b hb).1
    · trivial
  | delete conditions =>
    dsimp only
    split
    · next hd => exact isKey_of_deleteCheck hd
    · trivial
  | select s conditions => trivial

end Table

end Polystore
