import Polystore.Proofs.Column.Statements
import Polystore.Proofs.Table.MapEntries

/-!
# Deadlines and the writes they come from

A cell runs out when its deadline comes.  Outside the key the deadline is that of the last write of
the column: of the last accepted insertion or update that gave the column a value, or a map a new
entry.  An entry that is dropped from a map leaves the deadline alone.  The columns of the key never
run out, whatever time to live they were written with.  What the last write was is read off the
accepted actions on the table alone (`Log.lastWrite?`), and every accepted action keeps the cells in
step with it:

    t.Dated log → t.run a now = (.ok rs, t') → t'.Dated ((now, a) :: log)              (Dated.run)
-/

namespace Polystore

/-! ## Last writes -/

/-- Does the assignment give its column a value, or a map in it a new entry? -/
def Assignment.isWrite : Assignment → Bool
  | remove _ _ => false
  | _ => true

namespace KeyLayout

/-- The key that conditions ask for; a column that they do not ask for counts as null. -/
def keyAsked (l : KeyLayout) (conditions : List Condition) : List Json :=
  l.names.map fun name => (Table.equalityOn? name conditions).getD .null

end KeyLayout

namespace Action

/-- Does the action, if it is accepted, write the column of the row with the key? -/
def writes (l : KeyLayout) (key : List Json) (column : String) : Action → Bool
  | insert columns _ =>
    Json.sameItems key (l.keyIn columns) && columns.any fun p => p.1 == column
  | update assignments conditions _ =>
    Json.sameItems key (l.keyAsked conditions) &&
      assignments.any fun a => a.column == column && a.isWrite
  | _ => false

/-- Are the values well-keyed that the action gives for a key? -/
def GivesKeys : Action → Prop
  | insert columns _ => ∀ c v, Assoc.find? c columns = some v → v.isWellKeyed = true
  | update _ conditions _ =>
    ∀ c v, Table.equalityOn? c conditions = some v → v.isWellKeyed = true
  | _ => True

theorem givesKeys_insert {columns : List (String × Json)}
    (h : ∀ p ∈ columns, p.2.isWellKeyed = true) (ttl : Option Int) :
    (insert columns ttl).GivesKeys :=
  fun _ _ hv => h _ (Assoc.mem_of_find?_eq_some hv)

end Action

/-- The accepted actions on a table with their instants, newest first. -/
abbrev Log := List (Nat × Action)

/-- The instant and the time to live of the last write of a column in the row with a key. -/
def Log.lastWrite? (log : Log) (l : KeyLayout) (key : List Json) (column : String) :
    Option (Nat × Option Int) :=
  (log.find? fun e => e.2.writes l key column).map fun e => (e.1, e.2.ttl?)

theorem Log.lastWrite?_cons (now : Nat) (a : Action) (log : Log) (l : KeyLayout) (key : List Json)
    (column : String) :
    Log.lastWrite? ((now, a) :: log) l key column =
      if a.writes l key column then some (now, a.ttl?) else log.lastWrite? l key column := by
  rw [lastWrite?, List.find?_cons]
  cases a.writes l key column with
  | true => rfl
  | false => rfl

theorem Log.exists_mem_of_lastWrite? {log : Log} {l : KeyLayout} {key : List Json}
    {column : String} {w : Nat} {ttl : Option Int}
    (h : log.lastWrite? l key column = some (w, ttl)) :
    ∃ e ∈ log, e.1 = w ∧ e.2.ttl? = ttl := by
  obtain ⟨e, he, hw⟩ := Option.map_eq_some_iff.1 h
  obtain ⟨hw, ht⟩ := Prod.mk.inj hw
  exact ⟨e, List.mem_of_find?_eq_some he, hw, ht⟩

/-! ## Deadlines after writes -/

namespace Row

variable {r : Row} {c : String} {d : Deadline} {now : Nat}

/-- After several changes, some of which write a column, its cell has the deadline of these, or of
the cell before if there are none. -/
theorem deadline_foldl {α : Type} {f : Row → α → Row} (hits : α → Prop)
    (hf : ∀ r a cell, Assoc.find? c (f r a).cells = some cell →
      (hits a ∧ cell.deadline = d) ∨
        ¬ hits a ∧ ∃ old, Assoc.find? c r.cells = some old ∧ cell.deadline = old.deadline)
    {as : List α} {cell : Cell} (h : Assoc.find? c (as.foldl f r).cells = some cell) :
    ((∃ a ∈ as, hits a) ∧ cell.deadline = d) ∨
      (∀ a ∈ as, ¬ hits a) ∧
        ∃ old, Assoc.find? c r.cells = some old ∧ cell.deadline = old.deadline := by
  induction as generalizing r with
  | nil => exact .inr ⟨by simp, cell, h, rfl⟩
  | cons a as ih =>
    obtain ⟨⟨b, hb, hh⟩, hd⟩ | ⟨hnone, mid, hmid, hd⟩ := ih h
    · exact .inl ⟨⟨b, List.mem_cons_of_mem a hb, hh⟩, hd⟩
    · obtain ⟨ha, hm⟩ | ⟨ha, old, hold, hm⟩ := hf r a mid hmid
      · exact .inl ⟨⟨a, List.mem_cons_self, ha⟩, hd.trans hm⟩
      · exact .inr ⟨List.forall_mem_cons.2 ⟨ha, hnone⟩, old, hold, hd.trans hm⟩

theorem deadline_insertCells (l : KeyLayout) {columns : List (String × Json)} {cell : Cell}
    (h : Assoc.find? c (Table.insertCells l d r columns).cells = some cell) :
    ((∃ p ∈ columns, p.1 = c) ∧ cell.deadline = if l.isKey c then .never else d) ∨
      (∀ p ∈ columns, p.1 ≠ c) ∧
        ∃ old, Assoc.find? c r.cells = some old ∧ cell.deadline = old.deadline := by
  refine deadline_foldl (fun p => p.1 = c) (fun r p cell h => ?_) h
  by_cases hp : p.1 = c
  · refine .inl ⟨hp, ?_⟩
    rw [← hp] at h ⊢
    split at h
    · next hk =>
      rw [find?_write, if_pos rfl] at h
      rw [if_pos hk, ← Option.some.inj h]
    · next hk =>
      rw [find?_store, if_pos rfl] at h
      split at h
      · cases h
      · rw [if_neg hk, ← Option.some.inj h]
  · refine .inr ⟨hp, cell, ?_, rfl⟩
    split at h
    · rwa [find?_write, if_neg (Ne.symm hp)] at h
    · rwa [find?_store, if_neg (Ne.symm hp)] at h

theorem deadline_assign {a : Assignment} {cell : Cell}
    (h : Assoc.find? c (r.assign now d a).cells = some cell) :
    ((a.column = c ∧ a.isWrite = true) ∧ cell.deadline = d) ∨
      ¬ (a.column = c ∧ a.isWrite = true) ∧
        ∃ old, Assoc.find? c r.cells = some old ∧ cell.deadline = old.deadline := by
  by_cases hc : c = a.column
  · subst hc
    cases a with
    | set column v =>
      refine .inl ⟨⟨rfl, rfl⟩, ?_⟩
      have hcell := (find?_store r column v d column).symm.trans h
      rw [if_pos rfl] at hcell
      split at hcell
      · cases hcell
      · rw [← Option.some.inj hcell]
    | put column entry v =>
      refine .inl ⟨⟨rfl, rfl⟩, ?_⟩
      have hcell := (find?_write r column _ column).symm.trans h
      rw [if_pos rfl] at hcell
      rw [← Option.some.inj hcell]
    | remove column entry =>
      refine .inr ⟨fun hw => Bool.false_ne_true hw.2, ?_⟩
      unfold assign at h
      dsimp only at h
      split at h
      · next fields deadline hlive =>
        obtain ⟨hold, -⟩ := Option.filter_eq_some_iff.1 hlive
        have hcell := (find?_write r column _ column).symm.trans h
        rw [if_pos rfl] at hcell
        exact ⟨_, hold, by rw [← Option.some.inj hcell]⟩
      · exact ⟨cell, h, rfl⟩
  · rw [find?_assign_of_ne r hc] at h
    exact .inr ⟨fun hw => hc hw.1.symm, cell, h, rfl⟩

theorem deadline_updateCells {l : KeyLayout} {key : List Json} {assignments : List Assignment}
    (hc : l.isKey c = false) {cell : Cell}
    (h : Assoc.find? c (Table.updateCells l key now d r assignments).cells = some cell) :
    ((∃ a ∈ assignments, a.column = c ∧ a.isWrite = true) ∧ cell.deadline = d) ∨
      (∀ a ∈ assignments, ¬ (a.column = c ∧ a.isWrite = true)) ∧
        ∃ old, Assoc.find? c r.cells = some old ∧ cell.deadline = old.deadline := by
  have hassigned := deadline_foldl (fun a => a.column = c ∧ a.isWrite = true)
    (fun _ _ _ hcell => deadline_assign hcell) h
  rwa [find?_keyed hc] at hassigned

/-! ## Rows whose deadlines tell of the last writes -/

/-- Have the cells of the key no deadline, and all others that of the last write of their
column? -/
structure Dated (clock : Clock) (l : KeyLayout) (log : Log) (r : Row) : Prop where
  key : ∀ c cell, l.isKey c = true → Assoc.find? c r.cells = some cell → cell.deadline = .never
  cell : ∀ c cell, l.isKey c = false → Assoc.find? c r.cells = some cell →
    ∃ w ttl, log.lastWrite? l r.key c = some (w, ttl) ∧ cell.deadline = .after clock w ttl

variable {clock : Clock} {l : KeyLayout} {log : Log} {ttl : Option Int}

theorem dated_fresh (clock : Clock) (l : KeyLayout) (log : Log) (key : List Json) :
    (fresh key).Dated clock l log :=
  ⟨fun _ _ _ h => (nomatch h), fun _ _ _ h => (nomatch h)⟩

/-- An action that does not write the row keeps it dated. -/
theorem Dated.cons (h : r.Dated clock l log) {a : Action}
    (ha : ∀ c, a.writes l r.key c = false) : r.Dated clock l ((now, a) :: log) where
  key := h.key
  cell c cell hc hcell := by
    rw [Log.lastWrite?_cons, ha, if_neg Bool.false_ne_true]
    exact h.cell c cell hc hcell

theorem Dated.insertCells (h : r.Dated clock l log) {columns : List (String × Json)}
    (hk : Json.sameItems r.key (l.keyIn columns) = true) :
    (Table.insertCells l (.after clock now ttl) r columns).Dated clock l
      ((now, .insert columns ttl) :: log) where
  key c cell hc hcell := by
    obtain ⟨-, hd⟩ | ⟨-, old, hold, hd⟩ := deadline_insertCells l hcell
    · rw [hd, if_pos hc]
    · exact hd.trans (h.key c old hc hold)
  cell c cell hc hcell := by
    rw [Table.key_insertCells, Log.lastWrite?_cons, Action.writes, hk, Bool.true_and]
    obtain ⟨⟨p, hp, hpc⟩, hd⟩ | ⟨hnone, old, hold, hd⟩ := deadline_insertCells l hcell
    · have hany : (columns.any fun p => p.1 == c) = true :=
        List.any_eq_true.2 ⟨p, hp, beq_iff_eq.2 hpc⟩
      rw [if_pos hany, hd, hc]
      exact ⟨now, ttl, rfl, rfl⟩
    · have hany : ¬ (columns.any fun p => p.1 == c) = true := fun hany => by
        obtain ⟨p, hp, hpc⟩ := List.any_eq_true.1 hany
        exact hnone p hp (beq_iff_eq.1 hpc)
      rw [if_neg hany, hd]
      exact h.cell c old hc hold

theorem Dated.updateCells (h : r.Dated clock l log) {key : List Json}
    {assignments : List Assignment} {conditions : List Condition}
    (hl : key = l.keyAsked conditions) (ha : ∀ a ∈ assignments, l.isKey a.column = false)
    (hk : Json.sameItems r.key key = true) :
    (Table.updateCells l key now (.after clock now ttl) r assignments).Dated clock l
      ((now, .update assignments conditions ttl) :: log) where
  key c cell hc hcell := by
    have hlength : key.length = l.names.length := by rw [hl, KeyLayout.keyAsked, List.length_map]
    obtain ⟨v, hv⟩ := KeyLayout.exists_valueIn? hlength hc
    rw [Table.find?_updateCells_of_key ha now _ hv] at hcell
    rw [← Option.some.inj hcell]
  cell c cell hc hcell := by
    rw [Table.key_updateCells, Log.lastWrite?_cons, Action.writes, ← hl, hk, Bool.true_and]
    obtain ⟨⟨a, hm, hw⟩, hd⟩ | ⟨hnone, old, hold, hd⟩ := deadline_updateCells hc hcell
    · have hany : (assignments.any fun a => a.column == c && a.isWrite) = true :=
        List.any_eq_true.2 ⟨a, hm, by simpa using hw⟩
      rw [if_pos hany]
      exact ⟨now, ttl, rfl, hd⟩
    · have hany : ¬ (assignments.any fun a => a.column == c && a.isWrite) = true := by
        simpa using hnone
      rw [if_neg hany, hd]
      exact h.cell c old hc hold

end Row

/-! ## Tables -/

namespace Table

/-- Have the rows different, well-keyed keys, and their cells the deadlines that they should? -/
structure Dated (t : Table) (log : Log) : Prop where
  keysDiffer : KeysDiffer t.rows
  wellKeyed : ∀ r ∈ t.rows, Json.areWellKeyed r.key = true
  dated : ∀ r ∈ t.rows, r.Dated t.clock t.layout log

variable {t t' : Table} {log : Log} {now : Nat}

theorem dated_of_nil (h : t.rows = []) (log : Log) : t.Dated log := by
  refine ⟨?_, ?_, ?_⟩ <;> simp [h, KeysDiffer]

/-- A write to the row with a key keeps a table dated if it keeps that row dated, and writes no
other. -/
theorem Dated.change (h : t.Dated log) {key : List Json} (hw : Json.areWellKeyed key = true)
    {f : Row → Row} (hkey : ∀ r, (f r).key = r.key) {a : Action}
    (hf : ∀ r : Row, Json.sameItems r.key key = true → r.Dated t.clock t.layout log →
      (f r).Dated t.clock t.layout ((now, a) :: log))
    (hother : ∀ k c, Json.sameItems k key = false → a.writes t.layout k c = false)
    (columns : List String) :
    Dated { t with columns := columns, rows := changeRow key f t.rows } ((now, a) :: log) := by
  obtain ⟨r, hrk, hr, hmem⟩ := exists_changed h.keysDiffer h.wellKeyed hw f
  have hrow : Json.areWellKeyed r.key = true ∧ r.Dated t.clock t.layout log := by
    obtain hm | ⟨rfl, -⟩ := hr
    · exact ⟨h.wellKeyed r hm, h.dated r hm⟩
    · exact ⟨hw, Row.dated_fresh t.clock t.layout log key⟩
  refine ⟨keysDiffer_changeRow hkey h.keysDiffer, fun b hb => ?_, fun b hb => ?_⟩
  · obtain rfl | ⟨hb, -⟩ := (hmem b).1 hb
    · rw [hkey]
      exact hrow.1
    · exact h.wellKeyed b hb
  · obtain rfl | ⟨hb, hs⟩ := (hmem b).1 hb
    · exact hf r hrk hrow.2
    · exact (h.dated b hb).cons fun c => hother b.key c hs

theorem Dated.inserted (h : t.Dated log) {key : List Json} {columns : List (String × Json)}
    {ttl : Option Int} (hk : t.insertKey columns = .ok key)
    (ha : (Action.insert columns ttl).GivesKeys) :
    (t.inserted key columns ttl now).Dated ((now, .insert columns ttl) :: log) := by
  obtain ⟨-, hk⟩ := insertKey_eq_ok hk
  obtain ⟨-, hw⟩ := wellKeyed_of_fullKey hk ha
  have hkey : key = t.layout.keyIn columns := (fullKey_eq_ok hk).1
  refine h.change hw (fun r => ?_) (fun r hs hr => ?_) (fun k c hs => ?_) _
  · rw [key_insertCells]
  · rw [hkey] at hs
    have hr' : ({ r with inserted := some (.after t.clock now ttl) } : Row).Dated t.clock t.layout
        log := ⟨hr.key, hr.cell⟩
    exact hr'.insertCells hs
  · rw [Action.writes, ← hkey, hs, Bool.false_and]

theorem Dated.updated (h : t.Dated log) {key : List Json} {assignments : List Assignment}
    {conditions : List Condition} {ttl : Option Int}
    (hk : t.updateKey assignments conditions = .ok key)
    (ha : (Action.update assignments conditions ttl).GivesKeys) :
    (t.updated key assignments ttl now).Dated
      ((now, .update assignments conditions ttl) :: log) := by
  obtain ⟨has, hk⟩ := updateKey_eq_ok hk
  obtain ⟨-, hw⟩ := wellKeyed_of_fullKey hk ha
  have hkey : key = t.layout.keyAsked conditions := (fullKey_eq_ok hk).1
  refine h.change hw (fun r => ?_) (fun r hs hr => ?_) (fun k c hs => ?_) _
  · rw [key_updateCells]
  · exact hr.updateCells hkey (fun a hm => (has a hm).2) hs
  · rw [Action.writes, ← hkey, hs, Bool.false_and]

/-- Every accepted action keeps a table dated. -/
theorem Dated.run (h : t.Dated log) {a : Action} (ha : a.GivesKeys) {rs : RowSet}
    (hr : t.run a now = (.ok rs, t')) : t'.Dated ((now, a) :: log) := by
  obtain ⟨_, he, -⟩ | ⟨_, _, _, rfl, hk, -, rfl⟩ | ⟨_, _, _, _, rfl, hk, -, rfl⟩ |
    ⟨conditions, rfl, -, -, rfl⟩ | ⟨_, _, _, rfl, -, -, rfl⟩ := run_cases hr
  · cases he
  · exact h.inserted hk ha
  · exact h.updated hk ha
  · exact ⟨h.keysDiffer.filter _, fun r hm => h.wellKeyed r (List.mem_of_mem_filter hm),
      fun r hm => (h.dated r (List.mem_of_mem_filter hm)).cons fun _ => rfl⟩
  · exact ⟨h.keysDiffer, h.wellKeyed, fun r hm => (h.dated r hm).cons fun _ => rfl⟩

end Table

end Polystore
