import Polystore.Proofs.Key.Splitting
import Polystore.Proofs.Store.History
import Polystore.Proofs.Table.Marks

/-!
# Insertions and updates of one record

An insertion marks its row, and an update does not.  Apart from that, the insertion of a record that
does not expire and the update of the row with its key by its other columns do the same: they write
the same cells and note the same columns, although in different orders.  With `t` the table and `k`
the values of the key:

    t.layout.split record = .ok (key, rest) →
      (t.inserted k record none now).SameButMark k (t.updated k (sets rest) none now)
                                                                          (sameButMark_of_split)

Calls with either of them are accepted, alone or in a batch, and later reads find the same rows but
for one (`insert_and_update_agree`).
-/

namespace Polystore

namespace Table

variable {t : Table} {k : List Json} {now : Nat}

/-! ## The two writes -/

/-- Noting columns that are known already makes no difference. -/
theorem noteColumns_filter {columns new : List String} {p : String → Bool}
    (h : ∀ c ∈ new, p c = false → c ∈ columns) :
    noteColumns columns new = noteColumns columns (new.filter p) := by
  unfold noteColumns
  induction new generalizing columns with
  | nil => rfl
  | cons c new ih =>
    obtain ⟨hc, hnew⟩ := List.forall_mem_cons.1 h
    have hnew' : ∀ d ∈ new, p d = false → d ∈ noteColumn columns c := fun d hd hp =>
      mem_noteColumn.2 (.inl (hnew d hd hp))
    rw [List.foldl_cons, ih hnew']
    cases hp : p c with
    | true => rw [List.filter_cons_of_pos hp, List.foldl_cons]
    | false =>
      have hknown : noteColumn columns c = columns := if_pos (List.contains_iff_mem.2 (hc hp))
      rw [List.filter_cons_of_neg (by simp [hp]), hknown]

/-- All changes of the row with a key change one row, in one place. -/
theorem exists_changeRow (hw : Json.areWellKeyed k = true) (rows : List Row) :
    ∃ before r after, Json.sameItems r.key k = true ∧
      ∀ f, changeRow k f rows = before ++ f r :: after := by
  induction rows with
  | nil => exact ⟨[], .fresh k, [], Json.sameItems_refl hw, fun f => rfl⟩
  | cons r rows ih =>
    by_cases hk : Json.sameItems r.key k = true
    · refine ⟨[], r, rows, hk, fun f => ?_⟩
      rw [changeRow, if_pos hk]
      rfl
    · obtain ⟨before, r', after, hk', hf⟩ := ih
      refine ⟨r :: before, r', after, hk', fun f => ?_⟩
      rw [changeRow, if_neg hk, hf]
      rfl

theorem fullKey_of_forall₂ {lookup : String → Option Json} {names : List String}
    (h : List.Forall₂ (fun c v => lookup c = some v) names k) :
    fullKey lookup names = .ok k := by
  induction h with
  | nil => rfl
  | cons hv _ ih =>
    rw [fullKey, hv]
    show (fullKey lookup _ >>= _) = _
    rw [ih]
    rfl

theorem inserted_insertCells (l : KeyLayout) (d : Deadline) (r : Row)
    (columns : List (String × Json)) : (insertCells l d r columns).inserted = r.inserted := by
  unfold insertCells
  induction columns generalizing r with
  | nil => rfl
  | cons p columns ih =>
    rw [List.foldl_cons, ih]
    split
    · rfl
    · exact Row.inserted_store r p.1 p.2 d

/-- The assignments that set columns to values. -/
def sets (values : Record) : List Assignment := values.map fun p => .set p.1 p.2

/-- An update sets the columns outside the key that it is given, and removes those that are null. -/
theorem find?_updateCells_sets {l : KeyLayout} {r : Row} {values : Record}
    (hn : (Assoc.keys values).Nodup) {c : String} (hc : l.isKey c = false) (d : Deadline) :
    Assoc.find? c (updateCells l k now d r (sets values)).cells =
      (Assoc.find? c values).elim (Assoc.find? c r.cells) fun v =>
        if v.isNull then none else some ⟨v, d⟩ := by
  rw [updateCells, sets, List.foldl_map]
  conv => rhs; rw [← Row.find?_keyed (r := r) hc k]
  refine Row.find?_foldl_cells (fun r v => ?_) (fun r p hpc => ?_) hn
  · exact (Row.find?_store r c v d c).trans (if_pos rfl)
  · exact (Row.find?_store r p.1 p.2 d c).trans (if_neg (Ne.symm hpc))

section
variable {record rest : Record} {key : CompositeKey} (hr : (Assoc.keys record).Nodup)
  (h : t.layout.split record = .ok (key, rest))
include hr h

/-- Both writes leave the same cells in a row. -/
theorem sameCells_of_split (r : Row) (now : Nat) (d : Deadline) :
    Row.SameCells (insertCells t.layout d { r with inserted := some d } record)
      (updateCells t.layout (key.columns.map Prod.snd) now d r (sets rest)) where
  key := by rw [key_insertCells, key_updateCells]
  cell c := by
    obtain ⟨hzip, hvalues⟩ := KeyLayout.values_of_split h
    have hparts := KeyLayout.parts_of_split hr h
    have hrest : (Assoc.keys rest).Nodup := (hparts.sublist.map Prod.fst).nodup hr
    rw [find?_insertCells hr]
    cases hc : t.layout.isKey c with
    | true =>
      obtain ⟨v, hv⟩ := t.layout.exists_valueIn? hvalues.length_eq.symm hc
      have hassigned : ∀ a ∈ sets rest, t.layout.isKey a.column = false :=
        List.forall_mem_map.2 fun p hp => KeyLayout.not_isKey_iff.2 ((hparts.mem_rest p).1 hp).2
      have hfind := (List.forall₂_iff_zip.1 hvalues).2 (Assoc.mem_of_find?_eq_some hv)
      rw [find?_updateCells_of_key hassigned now d hv, hfind.1]
      rfl
    | false =>
      rw [find?_updateCells_sets hrest hc, KeyLayout.find?_rest_of_split h hc]
      rfl

variable (ha : ∀ p ∈ record, t.allows p.1 = true)
include ha

omit hr in
theorem insertKey_of_split : t.insertKey record = .ok (key.columns.map Prod.snd) := by
  have hkey : fullKey (fun c => Assoc.find? c record) t.layout.names = _ :=
    fullKey_of_forall₂ ((KeyLayout.values_of_split h).2.imp fun _ _ hv => hv.1)
  rw [insertKey, checkColumns_eq_ok.2 (List.forall_mem_map.2 ha)]
  exact hkey

theorem updateKey_of_split :
    t.updateKey (sets rest) (RowKey.composite key).equalConditions =
      .ok (key.columns.map Prod.snd) := by
  obtain ⟨hzip, hvalues⟩ := KeyLayout.values_of_split h
  have hparts := KeyLayout.parts_of_split hr h
  have hsets : t.checkAssignments (sets rest) = .ok () := by
    refine checkAssignments_eq_ok.2 (List.forall_mem_map.2 fun p hp => ?_)
    obtain ⟨hm, hc⟩ := (hparts.mem_rest p).1 hp
    exact ⟨ha p hm, KeyLayout.not_isKey_iff.2 hc⟩
  have hconditions : t.checkKeyConditions (RowKey.composite key).equalConditions = .ok () := by
    refine checkKeyConditions_eq_ok.2 (List.forall_mem_map.2 fun p hp => ⟨?_, ?_⟩)
    · exact ha p (hparts.perm.subset (List.mem_append_left _ hp))
    · rw [KeyLayout.isKey_iff, ← hparts.keys]
      exact List.mem_map_of_mem hp
  have hkey : fullKey (fun c => equalityOn? c (RowKey.composite key).equalConditions)
      t.layout.names = .ok (key.columns.map Prod.snd) := by
    refine fullKey_of_forall₂ (List.forall₂_iff_zip.2 ⟨hvalues.length_eq, fun hm => ?_⟩)
    rw [equalityOn?_equalConditions]
    show Assoc.find? _ key.columns = _
    rw [hzip]
    exact Assoc.find?_eq_some_of_mem (KeyLayout.nodup_keys_zip t.layout.nodup_names _) hm
  rw [updateKey, hsets]
  show (t.checkKeyConditions _ >>= fun _ => _) = _
  rw [hconditions]
  exact hkey

/-- The insertion of a record and the update of the row with its key by the rest of it leave tables
that differ in the mark of that row at most. -/
theorem sameButMark_of_split (ht : t.Noted) (now : Nat) :
    (t.inserted (key.columns.map Prod.snd) record none now).SameButMark
      (key.columns.map Prod.snd)
      (t.updated (key.columns.map Prod.snd) (sets rest) none now) where
  layout := rfl
  declared := rfl
  columns := by
    obtain ⟨values, -, -, -, hrest⟩ := KeyLayout.split_eq_ok.1 h
    have hnames : (sets rest).map Assignment.column =
        (record.map Prod.fst).filter fun c => !t.layout.isKey c := by
      rw [sets, List.map_map, hrest, List.filter_map]
      rfl
    show noteColumns _ _ = noteColumns _ _
    rw [hnames]
    refine noteColumns_filter (List.forall_mem_map.2 fun p hp hkey => ?_)
    rw [Bool.not_eq_false', KeyLayout.isKey_iff] at hkey
    exact ht.mem_columns_of_key hkey (ha p hp)
  rows := by
    have hw : Json.areWellKeyed (key.columns.map Prod.snd) = true := by
      rw [Json.areWellKeyed_iff]
      intro v hv
      obtain ⟨c, -, hcv⟩ := exists_of_mem_right (KeyLayout.values_of_split h).2 hv
      exact Json.isWellKeyed_of_isScalar hcv.2
    obtain ⟨before, r, after, hk, hf⟩ := exists_changeRow hw t.rows
    refine ⟨before, _, _, after, hf _, hf _, sameCells_of_split hr h r now _, ?_, ?_⟩
    · rw [key_insertCells]
      exact hk
    · exact inserted_insertCells t.layout _ _ record

end

end Table

/-! ## Calls -/

namespace Store

variable {s : Store} {name : TableName} {now : Nat}

/-- Two stores answer reads alike if they have the same tables, but for one in which a mark may
differ. -/
theorem execute_select_of_sameButMark {s₁ s₂ : Store} {k : List Json}
    (hother : ∀ other, other ≠ name → s₁.table other = s₂.table other)
    (h : (s₁.table name).SameButMark k (s₂.table name)) (other : TableName)
    (selection : Selection) (conditions : List Condition) (later : Nat) :
    Table.MayMiss
      (fun row => other = name ∧ (s₁.table name).ShowsBare k selection later row)
      (s₁.execute ⟨other, .select selection conditions⟩ later).1
      (s₂.execute ⟨other, .select selection conditions⟩ later).1 := by
  show Table.MayMiss _ ((s₁.table other).select selection conditions later)
    ((s₂.table other).select selection conditions later)
  by_cases hn : other = name
  · subst hn
    exact (Table.select_of_sameButMark h selection conditions later).mono fun row hrow =>
      ⟨rfl, hrow⟩
  · rw [hother other hn]
    exact .same _

theorem read_of_execute_select {s₁ s₂ : Store} {P : Record → Prop} {c : Criteria} {p : Projection}
    {later : Nat}
    (h : ∀ conditions, Table.MayMiss P
      (s₁.execute ⟨name, .select ⟨p.columns, p.ttl⟩ conditions⟩ later).1
      (s₂.execute ⟨name, .select ⟨p.columns, p.ttl⟩ conditions⟩ later).1) :
    Table.MayMiss P (s₁.read name c p later) (s₂.read name c p later) := by
  unfold read
  cases hc : compile name (.select c p) with
  | error r =>
    rw [call_of_rejected hc, call_of_rejected hc]
    exact .same _
  | ok plan =>
    rw [call_of_compile hc, call_of_compile hc]
    obtain ⟨-, conditions, -, rfl⟩ := compile_select_eq_ok.1 hc
    exact (h conditions).mapError _

/-- A call that is turned into a write which its table accepts, alone or as the only one of a batch,
changes that table as the write does. -/
theorem call_of_write {op : Operation} {a : Action}
    (hc : compile name op = .ok (.single ⟨name, a⟩) ∨ compile name op = .ok (.batch [⟨name, a⟩]))
    (hw : (Statement.mk name a).isRead = false) {rs : RowSet} {t : Table}
    (hrun : (s.table name).run a now = (.ok rs, t)) :
    (∃ rs, (s.call name op now).1 = .ok rs) ∧
      ∀ other, (s.call name op now).2.table other =
        if other = name then t else s.table other := by
  have hrs : (s.carryOut (.single ⟨name, a⟩) now).1 = .ok rs := congrArg Prod.fst hrun
  have htable (other : TableName) : (s.carryOut (.single ⟨name, a⟩) now).2.table other =
      if other = name then t else s.table other := by
    show (s.execute ⟨name, a⟩ now).2.table other = _
    rw [table_execute, hrun]
  obtain hc | hc := hc
  · rw [call_of_compile hc]
    exact ⟨⟨rs, Outcome.mapError_eq_ok.2 hrs⟩, htable⟩
  · obtain ⟨hiff, halike⟩ := carryOut_batch_singleton s now hw
    obtain ⟨rs', hrs'⟩ := hiff.1 ⟨rs, hrs⟩
    rw [call_of_compile hc]
    exact ⟨⟨rs', Outcome.mapError_eq_ok.2 hrs'⟩, fun other => halike other ▸ htable other⟩

theorem compileInsert_of_identifiers {record : Record} (hne : record ≠ [])
    (hnames : ∀ p ∈ record, Identifier.holds p.1 = true) (name : TableName) {ttl : Int}
    (httl : ttl ≤ maxTtl) :
    compileInsert name record ttl = .ok ⟨name, .insert record (askedTtl ttl)⟩ := by
  have hcheck : Identifier.checkAll (record.map Prod.fst) = .ok () :=
    Identifier.checkAll_eq_ok.2 (List.forall_mem_map.2 hnames)
  rw [compileInsert, if_neg (by rwa [List.isEmpty_iff]), hcheck]
  show (effectiveTtl ttl >>= _) = _
  rw [effectiveTtl_of_le httl]
  rfl

section
variable {record rest : Record} {key : CompositeKey} (hname : name.check = .ok ())
  (hr : (Assoc.keys record).Nodup) (h : (s.table name).layout.split record = .ok (key, rest))
  (hrest : rest ≠ [])
  (hcolumns : ∀ p ∈ record, Identifier.holds p.1 = true ∧ (s.table name).allows p.1 = true)
include hname hr h hrest hcolumns

/-- The insertion of a record that is split, alone or in a batch. -/
theorem call_insert_of_split {ttl : Int} (httl : ttl ≤ 0) {op : Operation}
    (hop : op = .insert record ttl ∨ op = .batch [.insert record ttl]) (now : Nat) :
    (∃ rs, (s.call name op now).1 = .ok rs) ∧
      ∀ other, (s.call name op now).2.table other =
        if other = name then (s.table name).inserted (key.columns.map Prod.snd) record none now
        else s.table other := by
  have hne : record ≠ [] := by
    rintro rfl
    exact hrest (List.sublist_nil.1 (KeyLayout.parts_of_split hr h).sublist)
  have hst : compileInsert name record ttl = .ok ⟨name, .insert record none⟩ := by
    have hmax : ttl ≤ maxTtl := Int.le_trans httl (by decide)
    have hcompile :=
      compileInsert_of_identifiers hne (fun p hp => (hcolumns p hp).1) name hmax
    rwa [askedTtl_of_le httl] at hcompile
  have hrun := Table.run_insert (t := s.table name) record none now
  rw [Table.insertKey_of_split h fun p hp => (hcolumns p hp).2] at hrun
  refine call_of_write ?_ rfl hrun
  obtain rfl | rfl := hop
  · exact .inl (single_eq_ok.2 ⟨hname, _, hst, rfl⟩)
  · exact .inr (compile_batch_eq_ok.2 ⟨hname, by simp, _, .cons hst .nil, rfl⟩)

/-- The update of the row with the key by the rest of the record, alone or in a batch. -/
theorem call_update_of_split {ttl : Int} (httl : ttl ≤ 0) {op : Operation}
    (hop : op = .update (.composite key) rest ttl ∨
      op = .batch [.update (.composite key) rest]) (now : Nat) :
    (∃ rs, (s.call name op now).1 = .ok rs) ∧
      ∀ other, (s.call name op now).2.table other =
        if other = name then
          (s.table name).updated (key.columns.map Prod.snd) (Table.sets rest) none now
        else s.table other := by
  have hst {ttl : Int} (httl : ttl ≤ 0) : compileUpdate name (.composite key) rest ttl =
      .ok ⟨name, .update (Table.sets rest) (RowKey.composite key).equalConditions none⟩ := by
    have hmax : ttl ≤ maxTtl := Int.le_trans httl (by decide)
    have hcompile := KeyLayout.compileUpdate_of_split hr h hrest (fun p hp => (hcolumns p hp).1)
      name hmax
    rwa [askedTtl_of_le httl] at hcompile
  have hrun := Table.run_update (t := s.table name) (Table.sets rest)
    (RowKey.composite key).equalConditions none now
  rw [Table.updateKey_of_split hr h fun p hp => (hcolumns p hp).2] at hrun
  refine call_of_write ?_ rfl hrun
  obtain rfl | rfl := hop
  · exact .inl (single_eq_ok.2 ⟨hname, _, hst httl, rfl⟩)
  · exact .inr (compile_batch_eq_ok.2 ⟨hname, by simp, _, .cons (hst (Int.le_refl 0)) .nil, rfl⟩)

/-- A record that a table can split is written in two ways: it is inserted, without a time to live,
or the row with its key is updated by the rest of it, each alone or in a batch.  Both calls are
accepted, and they leave the same tables, but for the mark of the row with that key.  So every later
read gives the same answer, except that it may miss that row after the update if no column outside
its key has a live value. -/
theorem insert_and_update_agree (hs : s.Reachable) {ttl ttl' : Int} (httl : ttl ≤ 0)
    (httl' : ttl' ≤ 0) {insertion update : Operation}
    (hi : insertion = .insert record ttl ∨ insertion = .batch [.insert record ttl])
    (hu : update = .update (.composite key) rest ttl' ∨
      update = .batch [.update (.composite key) rest]) (now : Nat) :
    let s₁ := (s.call name insertion now).2
    let s₂ := (s.call name update now).2
    let k := key.columns.map Prod.snd
    ((∃ rs, (s.call name insertion now).1 = .ok rs) ∧
      ∃ rs, (s.call name update now).1 = .ok rs) ∧
    (∀ other, other ≠ name → s₁.table other = s₂.table other) ∧
    (s₁.table name).SameButMark k (s₂.table name) ∧
    (∀ other selection conditions later, Table.MayMiss
      (fun row => other = name ∧ (s₁.table name).ShowsBare k selection later row)
      (s₁.execute ⟨other, .select selection conditions⟩ later).1
      (s₂.execute ⟨other, .select selection conditions⟩ later).1) ∧
    ∀ other c p later, Table.MayMiss
      (fun row => other = name ∧ (s₁.table name).ShowsBare k ⟨p.columns, p.ttl⟩ later row)
      (s₁.read other c p later) (s₂.read other c p later) := by
  intro s₁ s₂ k
  obtain ⟨hok₁, htable₁⟩ := call_insert_of_split hname hr h hrest hcolumns httl hi now
  obtain ⟨hok₂, htable₂⟩ := call_update_of_split hname hr h hrest hcolumns httl' hu now
  have hother : ∀ other, other ≠ name → s₁.table other = s₂.table other := fun other hne => by
    rw [htable₁, htable₂, if_neg hne, if_neg hne]
  have hsame : (s₁.table name).SameButMark k (s₂.table name) := by
    rw [htable₁, htable₂, if_pos rfl, if_pos rfl]
    exact Table.sameButMark_of_split hr h (fun p hp => (hcolumns p hp).2)
      (hs.table Table.invariant_noted name) now
  have hselect := execute_select_of_sameButMark hother hsame
  refine ⟨⟨hok₁, hok₂⟩, hother, hsame, hselect, fun other c p later => ?_⟩
  exact read_of_execute_select fun conditions => hselect other _ conditions later

end

/-- An item without any value outside its key. -/
def bareItem : Record := [("id", .str "a"), ("n", .null)]

theorem insert_and_update_agree_bareItem :
    let s₁ := ((empty .empty .wide).call ⟨"shop", "items"⟩ (.insert bareItem 0) 0).2
    let s₂ := ((empty .empty .wide).call ⟨"shop", "items"⟩
      (.batch [.update (.composite ⟨[("id", .str "a")]⟩) [("n", .null)]]) 0).2
    s₁.read ⟨"shop", "items"⟩ .all .all 2000 =
        .ok ⟨["id", "n"], [[("id", .str "a"), ("n", .null)]]⟩ ∧
      s₂.read ⟨"shop", "items"⟩ .all .all 2000 = .ok ⟨["id", "n"], []⟩ ∧
      (s₁.table ⟨"shop", "items"⟩).SameButMark [.str "a"] (s₂.table ⟨"shop", "items"⟩) := by
  intro s₁ s₂
  have hs : (empty .empty .wide).Reachable := .start _ _
  have hname : TableName.check ⟨"shop", "items"⟩ = .ok () := rfl
  have hnodup : (Assoc.keys bareItem).Nodup := by decide
  have hsplit : ((empty .empty .wide).table ⟨"shop", "items"⟩).layout.split bareItem =
      .ok (⟨[("id", .str "a")]⟩, [("n", .null)]) := rfl
  have hnames : ∀ p ∈ bareItem, Identifier.holds p.1 = true ∧
      ((empty .empty .wide).table ⟨"shop", "items"⟩).allows p.1 = true := by decide
  obtain ⟨-, -, hsame, -⟩ := insert_and_update_agree hname hnodup hsplit (List.cons_ne_nil _ _)
    hnames hs (Int.le_refl 0) (Int.le_refl 0) (.inl rfl) (.inr rfl) 0
  exact ⟨rfl, rfl, hsame⟩

end Store

end Polystore
