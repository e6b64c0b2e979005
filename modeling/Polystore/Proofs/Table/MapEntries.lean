import Polystore.Proofs.Table.History

/-!
# Edits of map entries

An edit of one entry rewrites the whole cell of the map.  It keeps the other entries, and an entry
that is removed leaves the cell its deadline.  But an entry that is added has no time to live, and
the cell is written with the deadline of the statement, so the other entries of the live map stay
for good.  With `t` the table and `kv` the key of the row:

    (t.updated kv [.remove column entry] none now).ShowsEntry conditions column other v later ↔
      t.ShowsEntry conditions column other v later                      (showsEntry_removed)
    (t.updated kv [.put column entry w] none now).ShowsEntry conditions column other v later ↔
      t.ShowsEntry conditions column other v now                        (showsEntry_put)
-/

namespace Polystore

/-! ## What runs out -/

theorem Deadline.isOpen_of_later {d : Deadline} {now later : Nat} (h : now ≤ later)
    (hd : d.isOpen later = true) : d.isOpen now = true := by
  cases d with
  | never => rfl
  | moment m =>
    have hm : later < m := of_decide_eq_true hd
    exact decide_eq_true (by omega)

namespace Row

variable {r : Row} {column : String} {now later : Nat} {v : Json}

theorem cell?_of_later (h : now ≤ later) {cell : Cell} (hc : r.cell? column later = some cell) :
    r.cell? column now = some cell := by
  obtain ⟨hfind, hlive⟩ := Option.filter_eq_some_iff.1 hc
  exact Option.filter_eq_some_iff.2 ⟨hfind, Deadline.isOpen_of_later h hlive⟩

theorem value?_of_later (h : now ≤ later) (hv : r.value? column later = some v) :
    r.value? column now = some v := by
  obtain ⟨cell, hcell, hvalue⟩ := Option.map_eq_some_iff.1 hv
  rw [value?, cell?_of_later h hcell, ← hvalue]
  rfl

theorem isVisible_of_later {l : KeyLayout} (h : now ≤ later) (hv : r.isVisible l later = true) :
    r.isVisible l now = true := by
  unfold isVisible at hv ⊢
  rw [Bool.or_eq_true] at hv ⊢
  refine hv.imp (fun hi => ?_) fun hc => ?_
  · obtain ⟨d, hd, hopen⟩ := (Option.any_eq_true _ _).1 hi
    exact (Option.any_eq_true _ _).2 ⟨d, hd, Deadline.isOpen_of_later h hopen⟩
  · obtain ⟨p, hp, hlive⟩ := List.any_eq_true.1 hc
    rw [Bool.and_eq_true] at hlive
    refine List.any_eq_true.2 ⟨p, hp, Bool.and_eq_true_iff.2 ⟨hlive.1, ?_⟩⟩
    exact Deadline.isOpen_of_later h hlive.2

end Row

/-! ## Entries of a row -/

namespace Row

variable {r r' : Row} {column entry other : String} {now later : Nat} {v w : Json}

/-- The value under an entry of the live map of a column. -/
def entryValue? (r : Row) (column entry : String) (now : Nat) : Option Json :=
  Assoc.find? entry (r.map column now)

theorem cell?_congr (h : Assoc.find? column r.cells = Assoc.find? column r'.cells) :
    r.cell? column now = r'.cell? column now := by
  unfold cell?
  rw [h]

theorem map_congr (h : Assoc.find? column r.cells = Assoc.find? column r'.cells) :
    r.map column now = r'.map column now := by
  unfold map value?
  rw [cell?_congr h]

theorem entryValue?_congr (h : Assoc.find? column r.cells = Assoc.find? column r'.cells) :
    r.entryValue? column entry now = r'.entryValue? column entry now := by
  unfold entryValue?
  rw [map_congr h]

/-- The cell of a map shows its fields until its deadline. -/
theorem map_of_find? {fields : Record} {d : Deadline}
    (h : Assoc.find? column r.cells = some ⟨.obj fields, d⟩) :
    r.map column now = if d.isOpen now then fields else [] := by
  unfold map value? cell? Cell.isLive
  rw [h]
  by_cases hd : d.isOpen now = true
  · rw [if_pos hd, Option.filter_some, if_pos hd]
    rfl
  · rw [if_neg hd, Option.filter_some, if_neg hd]
    rfl

theorem entryValue?_fresh (key : List Json) : (fresh key).entryValue? column entry now = none := rfl

/-- An entry can be read if the live value of its column is a map that has it. -/
theorem entryValue?_eq_some :
    r.entryValue? column entry now = some v ↔
      ∃ fields, r.value? column now = some (.obj fields) ∧ Assoc.find? entry fields = some v := by
  unfold entryValue? map
  constructor
  · intro h
    split at h
    · next fields hf => exact ⟨fields, hf, h⟩
    · cases h
  · rintro ⟨fields, hf, h⟩
    rw [hf]
    exact h

/-- A row with an entry outside its key is visible. -/
theorem isVisible_of_entryValue? {l : KeyLayout} (hc : l.isKey column = false)
    (h : r.entryValue? column entry now = some v) : r.isVisible l now = true := by
  obtain ⟨fields, hv, -⟩ := entryValue?_eq_some.1 h
  obtain ⟨cell, hcell, -⟩ := Option.map_eq_some_iff.1 hv
  obtain ⟨hf, hlive⟩ := Option.filter_eq_some_iff.1 hcell
  refine Bool.or_eq_true_iff.2 (.inr (List.any_eq_true.2 ⟨(column, cell), ?_, ?_⟩))
  · exact Assoc.mem_of_find?_eq_some hf
  · rw [hc, hlive]
    rfl

/-! ## One edit -/

/-- An added entry leaves the others as they are at that instant, and they do not run out. -/
theorem entryValue?_put (hne : other ≠ entry) :
    (r.assign now .never (.put column entry w)).entryValue? column other later =
      r.entryValue? column other now := by
  have hcell : Assoc.find? column (r.assign now .never (.put column entry w)).cells =
      some ⟨.obj (Assoc.put entry w (r.map column now)), .never⟩ := by
    rw [assign, find?_write, if_pos rfl]
  rw [entryValue?, map_of_find? hcell]
  exact Assoc.find?_put_of_ne hne w _

/-- A removed entry leaves the others and the deadline of the map. -/
theorem entryValue?_remove (hne : other ≠ entry) (d : Deadline) :
    (r.assign now d (.remove column entry)).entryValue? column other later =
      r.entryValue? column other later := by
  unfold assign
  dsimp only
  split
  · next fields deadline hcell =>
    obtain ⟨hfind, -⟩ := Option.filter_eq_some_iff.1 hcell
    have hfind' : Assoc.find? column
        (r.write column ⟨.obj (Assoc.erase entry fields), deadline⟩).cells =
        some ⟨.obj (Assoc.erase entry fields), deadline⟩ := by
      rw [find?_write, if_pos rfl]
    rw [entryValue?, entryValue?, map_of_find? hfind, map_of_find? hfind']
    split
    · rw [Assoc.find?_erase, if_neg hne]
    · rfl
  · rfl

/-- An edit outside the key reads the cells that were there before the key was written. -/
theorem find?_keyed {l : KeyLayout} (hc : l.isKey column = false) (key : List Json) :
    Assoc.find? column
        ((l.names.zip key).foldl (fun r p => r.write p.1 ⟨p.2, .never⟩) r).cells =
      Assoc.find? column r.cells := by
  refine find?_foldl_of_keeps fun r p hp => ?_
  rw [find?_write, if_neg]
  rintro rfl
  rw [KeyLayout.isKey_iff.2 (List.of_mem_zip hp).1] at hc
  cases hc

theorem entryValue?_updateCells_put {l : KeyLayout} (hc : l.isKey column = false)
    (hne : other ≠ entry) (key : List Json) :
    (Table.updateCells l key now .never r [.put column entry w]).entryValue? column other later =
      r.entryValue? column other now :=
  (entryValue?_put hne).trans (entryValue?_congr (find?_keyed hc key))

theorem entryValue?_updateCells_remove {l : KeyLayout} (hc : l.isKey column = false)
    (hne : other ≠ entry) (key : List Json) (d : Deadline) :
    (Table.updateCells l key now d r [.remove column entry]).entryValue? column other later =
      r.entryValue? column other later :=
  (entryValue?_remove hne d).trans (entryValue?_congr (find?_keyed hc key))

end Row

/-! ## Edits of a table -/

namespace Table

variable {t : Table} {kv : List Json} {conditions : List Condition} {column entry other : String}
  {now later : Nat} {v w : Json}

/-- Rows with different keys are different, and rows whose keys are the same are one. -/
theorem KeysDiffer.eq_of_same {rows : List Row} (h : KeysDiffer rows)
    (hw : ∀ r ∈ rows, Json.areWellKeyed r.key = true) {a b : Row} (ha : a ∈ rows) (hb : b ∈ rows)
    (hs : Json.sameItems a.key b.key = true) : a = b := by
  induction rows with
  | nil => cases ha
  | cons r rows ih =>
    obtain ⟨hr, hrows⟩ := List.pairwise_cons.1 h
    obtain ⟨hwr, hwrows⟩ := List.forall_mem_cons.1 hw
    rcases List.mem_cons.1 ha with rfl | ha' <;> rcases List.mem_cons.1 hb with rfl | hb'
    · rfl
    · rw [hr b hb'] at hs
      cases hs
    · have hba := Json.sameItems_symm (hwrows a ha') hs
      rw [hr a ha'] at hba
      cases hba
    · exact ih hrows hwrows ha' hb'

/-- A key with the values of another one in every column is the same. -/
theorem forall₂_of_find?_zip {names : List String} (hn : names.Nodup) {key : List Json}
    (hl : key.length = names.length) {g : String → Json}
    (h : ∀ n ∈ names, ∀ u, Assoc.find? n (names.zip key) = some u → u.same (g n) = true) :
    List.Forall₂ (fun u w => u.same w = true) key (names.map g) := by
  induction names generalizing key with
  | nil =>
    rw [List.eq_nil_of_length_eq_zero hl]
    exact .nil
  | cons n names ih =>
    obtain ⟨hnew, hnames⟩ := List.nodup_cons.1 hn
    cases key with
    | nil => cases hl
    | cons u key =>
      refine .cons (h n List.mem_cons_self u (if_pos rfl)) (ih hnames (by simpa using hl) ?_)
      intro m hm x hx
      refine h m (List.mem_cons_of_mem _ hm) x ?_
      rw [List.zip_cons_cons, Assoc.find?_cons, if_neg]
      · exact hx
      · rintro rfl
        exact hnew hm

/-- A row whose key meets the conditions of a full key has that key. -/
theorem sameItems_of_conditions {l : KeyLayout} {r : Row} (hr : r.Keyed l)
    (hk : fullKey (fun name => equalityOn? name conditions) l.names = .ok kv)
    (h : conditions.all (·.holdsIn (l.valueIn? r.key)) = true) :
    Json.sameItems r.key kv = true := by
  obtain ⟨rfl, hall⟩ := fullKey_eq_ok hk
  refine (Json.sameItems_iff _ _).2 (forall₂_of_find?_zip l.nodup_names hr.length ?_)
  intro n hn u hu
  obtain ⟨x, hx⟩ := hall n hn
  have hcond := List.all_eq_true.1 h _ (mem_of_equalityOn? hx)
  have hvalue : l.valueIn? r.key n = some u := hu
  rw [Condition.holdsIn] at hcond
  simp only [hvalue, Option.any_some, Relation.holds] at hcond
  rw [hx]
  exact hcond

/-- Does a row whose key meets the conditions have the value under the entry? -/
def ShowsEntry (t : Table) (conditions : List Condition) (column entry : String) (v : Json)
    (now : Nat) : Prop :=
  ∃ r ∈ t.rows, conditions.all (·.holdsIn (t.layout.valueIn? r.key)) = true ∧
    r.entryValue? column entry now = some v

/-- A change of the row with a key shows the entries that the change gives to that row. -/
theorem showsEntry_changeRow (ho : KeysDiffer t.rows) (hk : ∀ r ∈ t.rows, r.Keyed t.layout)
    (hw : Json.areWellKeyed kv = true)
    (hfull : fullKey (fun name => equalityOn? name conditions) t.layout.names = .ok kv)
    {f : Row → Row} (hkey : ∀ r, (f r).key = r.key)
    (hf : ∀ r, (f r).entryValue? column other later = r.entryValue? column other now)
    (columns : List String) :
    ShowsEntry { t with columns := columns, rows := changeRow kv f t.rows } conditions column other
        v later ↔
      t.ShowsEntry conditions column other v now := by
  have hwell : ∀ r ∈ t.rows, Json.areWellKeyed r.key = true := fun r hr => (hk r hr).wellKeyed
  obtain ⟨r, hrk, hr, hmem⟩ := exists_changed ho hwell hw f
  unfold ShowsEntry
  constructor
  · rintro ⟨b, hb, hcond, he⟩
    obtain rfl | ⟨hb, hs⟩ := (hmem b).1 hb
    · rw [hf] at he
      rw [hkey] at hcond
      obtain hr | ⟨rfl, -⟩ := hr
      · exact ⟨r, hr, hcond, he⟩
      · rw [Row.entryValue?_fresh] at he
        cases he
    · rw [sameItems_of_conditions (hk b hb) hfull hcond] at hs
      cases hs
  · rintro ⟨b, hb, hcond, he⟩
    have hs := sameItems_of_conditions (hk b hb) hfull hcond
    obtain hr | ⟨-, hnone⟩ := hr
    · have hrb : b = r := ho.eq_of_same hwell hb hr
        (Json.sameItems_trans hs (Json.sameItems_symm (hwell r hr) hrk))
      subst hrb
      exact ⟨f b, (hmem _).2 (.inl rfl), by rw [hkey]; exact hcond, by rw [hf]; exact he⟩
    · rw [hnone b hb] at hs
      cases hs

/-- An update has conditions on the key only. -/
theorem isKey_of_updateKey {assignments : List Assignment}
    (hu : t.updateKey assignments conditions = .ok kv) :
    ∀ d ∈ conditions, t.layout.isKey d.column = true := by
  rw [updateKey, Outcome.then_eq_ok, Outcome.then_eq_ok] at hu
  exact fun d hd => (checkKeyConditions_eq_ok.1 hu.2.1 d hd).2

section
variable (ho : KeysDiffer t.rows) (hk : ∀ r ∈ t.rows, r.Keyed t.layout)
  (hc : ∀ c x, equalityOn? c conditions = some x → x.isWellKeyed = true) (hne : other ≠ entry)
include ho hk hc hne

/-- After an entry was added, the others are shown as they were at that instant. -/
theorem showsEntry_put (hu : t.updateKey [.put column entry w] conditions = .ok kv) :
    (t.updated kv [.put column entry w] none now).ShowsEntry conditions column other v later ↔
      t.ShowsEntry conditions column other v now := by
  obtain ⟨ha, hfull⟩ := updateKey_eq_ok hu
  have hcolumn : t.layout.isKey column = false := (ha _ List.mem_cons_self).2
  exact showsEntry_changeRow ho hk (wellKeyed_of_fullKey hfull hc).2 hfull
    (fun r => key_updateCells _ _ _ _ _ _)
    (fun r => Row.entryValue?_updateCells_put hcolumn hne kv) _

/-- After an entry was removed, the others are shown as without the removal. -/
theorem showsEntry_removed (hu : t.updateKey [.remove column entry] conditions = .ok kv) :
    (t.updated kv [.remove column entry] none now).ShowsEntry conditions column other v later ↔
      t.ShowsEntry conditions column other v later := by
  obtain ⟨ha, hfull⟩ := updateKey_eq_ok hu
  have hcolumn : t.layout.isKey column = false := (ha _ List.mem_cons_self).2
  exact showsEntry_changeRow ho hk (wellKeyed_of_fullKey hfull hc).2 hfull
    (fun r => key_updateCells _ _ _ _ _ _)
    (fun r => Row.entryValue?_updateCells_remove hcolumn hne kv _) _

end

end Table

end Polystore
