import Polystore.Proofs.Store.Consistency
import Polystore.Proofs.Table.MapEntries

/-!
# Entries of a map after an edit

What a read by key shows of the other entries of a map, after one entry was edited.  A removal, and
an edit that is refused, make no difference to them at any instant.  An accepted addition fixes
them: whatever is shown at its instant is shown for good, also after the map would have run out.

    (s.call name (.removeEntry key column entry) now).2.ShowsEntry name key column other v later ↔
      s.ShowsEntry name key column other v later
    (s.call name (.putEntry key column entry w) now).2.ShowsEntry name key column other v later ↔
      s.ShowsEntry name key column other v now                         (showsEntry_of_edit)
-/

namespace Polystore.Store

variable {s : Store} {name : TableName} {key : RowKey} {column entry other : String} {v w : Json}
  {now later : Nat}

/-- Does a read of the row with a key show the value under an entry of a map? -/
def ShowsEntry (s : Store) (name : TableName) (key : RowKey) (column entry : String) (v : Json)
    (now : Nat) : Prop :=
  ∃ rs, s.read name (.key key) (.ofFields (some [column]) []) now = .ok rs ∧
    ∃ row ∈ rs.rows, ∃ fields,
      Assoc.find? column row = some (.obj fields) ∧ Assoc.find? entry fields = some v

/-- Can the row with a key be read with one column? -/
def Reads (t : Table) (name : TableName) (key : RowKey) (column : String) : Prop :=
  (isNamed name (.ofFields (some [column]) []) ∧ t.permits (.ofFields (some [column]) [])) ∧
    (Criteria.key key).IsAskedOf t

theorem reads_congr {t t' : Table} (hd : t'.declared = t.declared) :
    Reads t' name key column ↔ Reads t name key column := by
  have hallows : t'.allows = t.allows := by
    funext c
    rw [Table.allows, Table.allows, hd]
  have hpermits : t'.permits (.ofFields (some [column]) []) ↔
      t.permits (.ofFields (some [column]) []) := by
    rw [Table.permits, Table.permits, hallows]
    rfl
  rw [Reads, Reads, hpermits, Criteria.IsAskedOf, Criteria.IsAskedOf, hallows]

/-- A read by key returns the visible rows whose own keys meet the conditions of the key. -/
theorem mem_live_key {t : Table} {r : Row} (hr : r.Keyed t.layout)
    (hkey : ∀ d ∈ key.equalConditions, t.layout.isKey d.column = true)
    {conditions : List Condition} (hc : (Criteria.key key).conditions = .ok conditions) :
    r ∈ t.live now (Criteria.key key).admits ↔
      r ∈ t.rows ∧ r.isVisible t.layout now = true ∧
        key.equalConditions.all (·.holdsIn (t.layout.valueIn? r.key)) = true := by
  have he : conditions = key.equalConditions := by
    rw [Criteria.conditions, Outcome.then_eq_ok] at hc
    exact RowKey.conditions_eq_ok hc.2
  have hadmits : (Criteria.key key).admits (fun c => r.value? c now) =
      key.equalConditions.all (·.holdsIn (t.layout.valueIn? r.key)) := by
    rw [← Criteria.all_conditions _ hc, he, ← hr.all_conditions hkey now]
    simp only [Condition.holds_eq_holdsIn]
  rw [Table.live, List.mem_filter, Bool.and_eq_true, ← hadmits]

theorem find?_project_column (r : Row) (now : Nat) :
    Assoc.find? column (Table.project [column] [] r now) =
      some ((r.value? column now).getD .null) := by
  rw [Table.find?_project, if_pos (List.mem_singleton_self column)]

theorem value?_of_find?_project {r : Row} {fields : Record}
    (h : Assoc.find? column (Table.project [column] [] r now) = some (.obj fields)) :
    r.value? column now = some (.obj fields) := by
  rw [find?_project_column] at h
  cases hv : r.value? column now with
  | none =>
    rw [hv] at h
    cases h
  | some u =>
    rw [hv] at h
    exact h

/-- A read shows an entry of a column outside the key if a row whose key meets the conditions of the
key has it. -/
theorem showsEntry_iff (hk : ∀ r ∈ (s.table name).rows, r.Keyed (s.table name).layout)
    (hkey : ∀ d ∈ key.equalConditions, (s.table name).layout.isKey d.column = true)
    (hc : (s.table name).layout.isKey column = false) :
    s.ShowsEntry name key column entry v now ↔
      Reads (s.table name) name key column ∧
        (s.table name).ShowsEntry key.equalConditions column entry v now := by
  constructor
  · rintro ⟨rs, hread, row, hrow, fields, hfields, hv⟩
    obtain ⟨hp, ⟨conditions, hcs, ha⟩, rfl⟩ := read_eq_ok.1 hread
    obtain ⟨r, hr, rfl⟩ := List.mem_map.1 hrow
    have hmem : r ∈ (s.table name).rows := List.mem_of_mem_filter hr
    obtain ⟨-, -, hadmits⟩ := (mem_live_key (hk r hmem) hkey hcs).1 hr
    refine ⟨⟨hp, conditions, hcs, ha⟩, r, hmem, hadmits, ?_⟩
    exact Row.entryValue?_eq_some.2 ⟨fields, value?_of_find?_project hfields, hv⟩
  · rintro ⟨⟨hp, conditions, hcs, ha⟩, r, hr, hadmits, hv⟩
    obtain ⟨fields, hvalue, hf⟩ := Row.entryValue?_eq_some.1 hv
    have hvisible := Row.isVisible_of_entryValue? hc hv
    have hlive := (mem_live_key (hk r hr) hkey hcs).2 ⟨hr, hvisible, hadmits⟩
    refine ⟨_, read_eq_ok.2 ⟨hp, ⟨conditions, hcs, ha⟩, rfl⟩, _, List.mem_map_of_mem hlive, fields,
      ?_, hf⟩
    exact (find?_project_column r now).trans (by rw [hvalue]; rfl)

/-- What can be read of a row at an instant could be read before. -/
theorem ShowsEntry.of_later (h : now ≤ later)
    (hv : s.ShowsEntry name key column entry v later) :
    s.ShowsEntry name key column entry v now := by
  obtain ⟨rs, hread, row, hrow, fields, hfields, hv⟩ := hv
  obtain ⟨hp, hasked, rfl⟩ := read_eq_ok.1 hread
  obtain ⟨r, hr, rfl⟩ := List.mem_map.1 hrow
  obtain ⟨hr, hlive⟩ := List.mem_filter.1 hr
  obtain ⟨hvisible, hadmits⟩ := Bool.and_eq_true_iff.1 hlive
  have hlive' : r ∈ (s.table name).live now (Criteria.key key).admits := by
    refine List.mem_filter.2 ⟨hr, Bool.and_eq_true_iff.2 ⟨Row.isVisible_of_later h hvisible, ?_⟩⟩
    refine List.all_eq_true.2 fun p hp => ?_
    obtain ⟨u, hu, hsame⟩ := (Option.any_eq_true _ _).1 (List.all_eq_true.1 hadmits p hp)
    exact (Option.any_eq_true _ _).2 ⟨u, Row.value?_of_later h hu, hsame⟩
  refine ⟨_, read_eq_ok.2 ⟨hp, hasked, rfl⟩, _, List.mem_map_of_mem hlive', fields, ?_, hv⟩
  have hvalue := value?_of_find?_project hfields
  exact (find?_project_column r now).trans (by rw [Row.value?_of_later h hvalue]; rfl)

/-! ## Edits -/

/-- An accepted edit updates its table. -/
theorem table_of_edit {op : Operation} {a : Assignment}
    (hop : compile name op = do
      name.check
      return Plan.single (← compileEntry name key a))
    {rs : RowSet} (hok : (s.call name op now).1 = .ok rs) :
    key.check = .ok () ∧ ∃ kv, (s.table name).updateKey [a] key.equalConditions = .ok kv ∧
      (s.call name op now).2.table name = (s.table name).updated kv [a] none now := by
  obtain ⟨plan, hplan, hrs⟩ := call_eq_ok_iff.1 hok
  obtain ⟨-, st, hst, rfl⟩ := single_eq_ok.1 (hop ▸ hplan)
  obtain ⟨hkey, rfl⟩ := compileEntry_eq_ok hst
  obtain ⟨kv, hkv, htable⟩ := Table.run_update_of_ok hrs
  refine ⟨hkey, kv, hkv, ?_⟩
  rw [call_of_compile hplan, ← htable]
  exact (table_execute s _ now name).trans (if_pos rfl)

/-- The tables tell what a read shows after an accepted edit, and what it shows without the edit. -/
theorem showsEntry_of_accepted {s₀ : Store} (hs : s₀.tables = []) (h : s₀.Leads s)
    (op : Operation) (hm : op.InsertsMaps) (a : Assignment) (column : String)
    (ha : a.column = column) (entry : String) (v : Json)
    (hop : compile name op = do
      name.check
      return Plan.single (← compileEntry name key a))
    {rs : RowSet} (hok : (s.call name op now).1 = .ok rs) :
    key.check = .ok () ∧ ∃ kv, (s.table name).updateKey [a] key.equalConditions = .ok kv ∧
      (∀ t, (s.call name op now).2.ShowsEntry name key column entry v t ↔
        Reads (s.table name) name key column ∧
          ((s.table name).updated kv [a] none now).ShowsEntry key.equalConditions column entry v
            t) ∧
      ∀ t, s.ShowsEntry name key column entry v t ↔
        Reads (s.table name) name key column ∧
          (s.table name).ShowsEntry key.equalConditions column entry v t := by
  obtain ⟨hcheck, kv, hkv, htable⟩ := table_of_edit hop hok
  have hcolumn : (s.table name).layout.isKey column = false :=
    ha ▸ ((Table.updateKey_eq_ok hkv).1 a List.mem_cons_self).2
  have hkey := Table.isKey_of_updateKey hkv
  refine ⟨hcheck, kv, hkv, fun t => ?_, fun t => showsEntry_iff (h.keyed hs name).2 hkey hcolumn⟩
  have hafter := ((h.trans (leads_call hm s name now)).keyed hs name).2
  have hlayout : ((s.call name op now).2.table name).layout = (s.table name).layout := by
    rw [htable]
    rfl
  have hkey' : ∀ d ∈ key.equalConditions,
      ((s.call name op now).2.table name).layout.isKey d.column = true := by
    rw [hlayout]
    exact hkey
  have hcolumn' : ((s.call name op now).2.table name).layout.isKey column = false := by
    rw [hlayout]
    exact hcolumn
  refine (showsEntry_iff hafter hkey' hcolumn').trans ?_
  rw [htable]
  exact and_congr_left fun _ => reads_congr rfl

/-- Alike stores show the same entries. -/
theorem showsEntry_of_alike {s' : Store} (h : s'.Alike s) :
    s'.ShowsEntry name key column entry v now ↔ s.ShowsEntry name key column entry v now := by
  simp only [ShowsEntry, read_eq_ok, h name]

/-- The other entries of a map after an edit of one of its entries. -/
theorem showsEntry_of_edit {s₀ : Store} (hs : s₀.tables = []) (h : s₀.Leads s)
    (hne : other ≠ entry) (hlater : now ≤ later) :
    ((s.call name (.removeEntry key column entry) now).2.ShowsEntry name key column other v later ↔
      s.ShowsEntry name key column other v later) ∧
    ((∃ r, (s.call name (.putEntry key column entry w) now).1 = .error r) →
      ((s.call name (.putEntry key column entry w) now).2.ShowsEntry name key column other v later ↔
        s.ShowsEntry name key column other v later)) ∧
    ((∃ rs, (s.call name (.putEntry key column entry w) now).1 = .ok rs) →
      ((s.call name (.putEntry key column entry w) now).2.ShowsEntry name key column other v later ↔
        s.ShowsEntry name key column other v now)) ∧
    (s.ShowsEntry name key column other v later → s.ShowsEntry name key column other v now) := by
  obtain ⟨ho, hk⟩ := h.keyed hs name
  refine ⟨?_, ?_, ?_, fun hv => hv.of_later hlater⟩
  · cases hr : (s.call name (.removeEntry key column entry) now).1 with
    | error r => exact showsEntry_of_alike (alike_of_call_error hr)
    | ok rs =>
      obtain ⟨hcheck, kv, hkv, hafter, hbefore⟩ := showsEntry_of_accepted hs h
        (.removeEntry key column entry) trivial (.remove column entry) column rfl other v rfl hr
      rw [hafter later, hbefore later, Table.showsEntry_removed ho hk
        (wellKeyed_equalConditions hcheck) hne hkv]
  · rintro ⟨r, hr⟩
    exact showsEntry_of_alike (alike_of_call_error hr)
  · rintro ⟨rs, hr⟩
    obtain ⟨hcheck, kv, hkv, hafter, hbefore⟩ := showsEntry_of_accepted hs h
      (.putEntry key column entry w) trivial (.put column entry w) column rfl other v rfl hr
    rw [hafter later, hbefore now, Table.showsEntry_put ho hk
      (wellKeyed_equalConditions hcheck) hne hkv]

/-- The table of the example. -/
def shopItems : TableName := ⟨"shop", "items"⟩

/-- A store with one row, whose map runs out after ten seconds. -/
def tenSeconds : Store :=
  ((empty .empty .wide).call shopItems
    (.insert [("id", .str "a"), ("m", .obj [("x", .ofNat 1)])] 10) 0).2

theorem leads_tenSeconds : (empty .empty .wide).Leads tenSeconds := by
  refine leads_call ?_ (empty .empty .wide) shopItems 0
  simp [Operation.InsertsMaps, Json.isWellKeyed, Json.fieldsAreWellKeyed, Assoc.keys, Json.ofNat]

theorem showsEntry_tenSeconds :
    tenSeconds.ShowsEntry shopItems (.id "a") "m" "x" (.ofNat 1) 0 :=
  ⟨_, rfl, _, List.mem_singleton_self _, [("x", .ofNat 1)], rfl, rfl⟩

theorem not_showsEntry_tenSeconds :
    ¬ tenSeconds.ShowsEntry shopItems (.id "a") "m" "x" (.ofNat 1) (11 * Clock.second) := by
  rintro ⟨rs, hread, row, hrow, -⟩
  have hnone : tenSeconds.read shopItems (.key (.id "a")) (.ofFields (some ["m"]) [])
      (11 * Clock.second) = .ok ⟨["m"], []⟩ := rfl
  rw [hnone] at hread
  cases hread
  cases hrow

/-- An entry that is added keeps the other one of the map, and the removal of one that is not there
does not. -/
theorem showsEntry_of_edit_tenSeconds :
    (tenSeconds.call shopItems (.putEntry (.id "a") "m" "y" (.ofNat 2)) 0).2.ShowsEntry
        shopItems (.id "a") "m" "x" (.ofNat 1) (11 * Clock.second) ∧
      ¬ (tenSeconds.call shopItems (.removeEntry (.id "a") "m" "y") 0).2.ShowsEntry
        shopItems (.id "a") "m" "x" (.ofNat 1) (11 * Clock.second) := by
  have hput : (tenSeconds.call shopItems (.putEntry (.id "a") "m" "y" (.ofNat 2)) 0).2.ShowsEntry
      shopItems (.id "a") "m" "x" (.ofNat 1) (11 * Clock.second) ↔
        tenSeconds.ShowsEntry shopItems (.id "a") "m" "x" (.ofNat 1) 0 :=
    (showsEntry_of_edit rfl leads_tenSeconds (by decide) (by decide)).2.2.1 ⟨_, rfl⟩
  have hremoved : (tenSeconds.call shopItems (.removeEntry (.id "a") "m" "y") 0).2.ShowsEntry
      shopItems (.id "a") "m" "x" (.ofNat 1) (11 * Clock.second) ↔
        tenSeconds.ShowsEntry shopItems (.id "a") "m" "x" (.ofNat 1) (11 * Clock.second) :=
    (showsEntry_of_edit (w := .null) rfl leads_tenSeconds (by decide) (by decide)).1
  exact ⟨hput.2 showsEntry_tenSeconds, fun h => not_showsEntry_tenSeconds (hremoved.1 h)⟩

/-- The edit of one entry makes a difference to the other: without it the map has run out. -/
theorem not_showsEntry_iff_put :
    ¬ ((tenSeconds.call shopItems (.putEntry (.id "a") "m" "y" (.ofNat 2)) 0).2.ShowsEntry
          shopItems (.id "a") "m" "x" (.ofNat 1) (11 * Clock.second) ↔
        tenSeconds.ShowsEntry shopItems (.id "a") "m" "x" (.ofNat 1) (11 * Clock.second)) := by
  intro h
  refine not_showsEntry_tenSeconds (h.1 ?_)
  exact ⟨_, rfl, _, List.mem_singleton_self _, [("x", .ofNat 1), ("y", .ofNat 2)], rfl, rfl⟩

end Polystore.Store
