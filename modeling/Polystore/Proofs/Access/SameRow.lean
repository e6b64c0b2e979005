import Polystore.Proofs.Access.TableCalls
import Polystore.Proofs.Store.Batch
import Polystore.Proofs.Table.Effects

/-!
# The row that the id of a record addresses

Records of a table keyed by `id` are updated one at a time, by their id as a text, or in a batch, by
the value of their key column.  For an id that is a text both address the same row.  An id that is a
number counts as its decimal text when a record is updated alone, but an insertion and a batch keep
the number, so the row that was inserted under the number stays as it is and a second one appears
under the text.

    (a.after st (.table name (.updateRecord r))).backend.store.Alike
      (a.after st (.table name (.updateRecords [r.withId s]))).backend.store
                                                                  (updateRecord_by_text)
-/

namespace Polystore

/-! ## Records with an id -/

/-- The record with a text as its id. -/
def Record.withId (r : Record) (s : String) : Record := Assoc.put idColumn (.str s) r

/-- The key of a table keyed by `id`. -/
def CompositeKey.ofId (v : Json) : CompositeKey := ⟨[(idColumn, v)]⟩

section
variable {r values : Record} {key : RowKey} {s : String} {v : Json}

theorem splitId_eq_ok (h : splitId r = .ok (key, values)) :
    ∃ s, recordId? r = some s ∧ Text.isBlank s = false ∧ key = .id s ∧
      values = Assoc.erase idColumn r := by
  unfold splitId at h
  cases hs : recordId? r with
  | none =>
    rw [hs] at h
    exact absurd h Outcome.throw_ne_ok
  | some s =>
    rw [hs] at h
    obtain ⟨ht, h⟩ := Outcome.then_eq_ok.1 h
    obtain ⟨rfl, rfl⟩ := Prod.mk.inj (Outcome.pure_eq_ok.1 h)
    refine ⟨s, rfl, ?_, rfl, rfl⟩
    unfold requireText at ht
    split at ht
    · exact absurd ht Outcome.throw_ne_ok
    · next hb => simpa using hb

/-- The layout of a table keyed by `id` takes any scalar as the key. -/
theorem split_byId (hf : Assoc.find? idColumn r = some v) (hv : v.isScalar = true) :
    KeyLayout.byId.split r = .ok (.ofId v, Assoc.erase idColumn r) := by
  have hnull : v.isNull = false := by
    cases v with
    | null => cases hv
    | _ => rfl
  have hvalue : KeyLayout.value? r idColumn = some v := by
    rw [KeyLayout.value?, hf, Option.filter_some, hnull]
    rfl
  have hcollect : KeyLayout.collect r .empty KeyLayout.byId.names = .ok (.ofId v) := by
    show KeyLayout.collect r .empty [idColumn] = _
    rw [KeyLayout.collect, hvalue]
    rfl
  have hcheck : (CompositeKey.ofId v).check = .ok () := by
    have hname : requireText .keyColumnName idColumn = .ok () := by decide +kernel
    show CompositeKey.checkColumns [(idColumn, v)] = _
    rw [CompositeKey.checkColumns, hname, hv]
    rfl
  have herase : r.filter (fun p => !KeyLayout.byId.isKey p.1) = Assoc.erase idColumn r := by
    refine List.filter_congr fun p _ => ?_
    have hk : KeyLayout.byId.isKey p.1 = (idColumn == p.1) := Bool.or_false _
    rw [hk]
    by_cases hp : idColumn = p.1
    · simp [hp]
    · simp [hp, Ne.symm hp]
  rw [KeyLayout.split, hcollect]
  show (CompositeKey.check _ >>= fun _ => _) = _
  rw [hcheck, herase]
  rfl

theorem updatesOf_byId (hf : Assoc.find? idColumn r = some v) (hv : v.isScalar = true) :
    TableCall.updatesOf .byId [r] =
      .ok [.update (.composite (.ofId v)) (Assoc.erase idColumn r)] := by
  rw [TableCall.updatesOf, TableCall.updateOf, split_byId hf hv]
  rfl

/-! ## Compiling updates by id -/

theorem checkValueColumns_congr {key' : RowKey} (h : ∀ c, key.binds c = key'.binds c)
    (columns : List String) : checkValueColumns key columns = checkValueColumns key' columns := by
  induction columns with
  | nil => rfl
  | cons c columns ih => rw [checkValueColumns, checkValueColumns, h c, ih]

theorem binds_ofId (v : Json) (c : String) :
    (RowKey.composite (.ofId v)).binds c = (RowKey.id s).binds c := by
  show (Assoc.find? c [(idColumn, v)]).isSome = (c == idColumn)
  rw [Assoc.find?_cons, Assoc.find?_nil]
  by_cases hc : idColumn = c
  · simp [hc]
  · simp [hc, Ne.symm hc]

/-- An id that is no blank text addresses a row like a key of one column. -/
theorem compileUpdate_ofId (name : TableName) (hs : Text.isBlank s = false) (values : Record)
    (ttl : Int) :
    compileUpdate name (.composite (.ofId (.str s))) values ttl =
      compileUpdate name (.id s) values ttl := by
  have hid : (RowKey.id s).check = .ok () := by
    show requireText .recordId s = _
    rw [requireText, hs]
    rfl
  have hkey : (RowKey.composite (.ofId (.str s))).check = .ok () := by
    have hname : requireText .keyColumnName idColumn = .ok () := by decide +kernel
    show CompositeKey.checkColumns [(idColumn, .str s)] = _
    rw [CompositeKey.checkColumns, hname]
    rfl
  unfold compileUpdate
  rw [hid, hkey, checkValueColumns_congr (binds_ofId (.str s))]
  rfl

end

/-! ## Rows under a key -/

/-- A write under a key: the row with the key is changed, or one is added at the end if there is
none, and rows with other keys stay. -/
structure WritesUnder (key : List Json) (rows rows' : List Row) : Prop where
  present : key ∈ rows'.map Row.key
  changed : key ∈ rows.map Row.key → rows'.map Row.key = rows.map Row.key
  added : key ∉ rows.map Row.key → ∃ row, row.key = key ∧ rows' = rows ++ [row]
  others : ∀ row ∈ rows, row.key ≠ key → row ∈ rows'

namespace Table

theorem sameItems_text {key : List Json} {s : String} :
    Json.sameItems key [.str s] = true ↔ key = [.str s] := by
  rw [Json.sameItems_iff, List.forall₂_cons_right_iff]
  simp only [List.forall₂_nil_right_iff]
  constructor
  · rintro ⟨v, vs, hv, rfl, rfl⟩
    cases v with
    | str t => rw [beq_iff_eq.1 hv]
    | _ => cases hv
  · rintro rfl
    exact ⟨.str s, [], beq_self_eq_true s, rfl, rfl⟩

variable {key : List Json} {f : Row → Row} {rows : List Row} {s : String}

/-- A key that is a text is the same as no other one. -/
theorem writesUnder_changeRow (hf : ∀ r, (f r).key = r.key) :
    WritesUnder [.str s] rows (changeRow [.str s] f rows) := by
  obtain ⟨before, r, after, rfl, hr, -, he⟩ | ⟨hn, he⟩ := changeRow_cases [.str s] f rows
  · have hk : r.key = [.str s] := sameItems_text.1 hr
    have hkeys : (changeRow [.str s] f (before ++ r :: after)).map Row.key =
        (before ++ r :: after).map Row.key := by
      rw [he, List.map_append, List.map_append, List.map_cons, List.map_cons, hf]
    have hmem : [.str s] ∈ (before ++ r :: after).map Row.key :=
      List.mem_map.2 ⟨r, by simp, hk⟩
    refine ⟨hkeys ▸ hmem, fun _ => hkeys, fun h => absurd hmem h, fun row hm hne => ?_⟩
    rw [he]
    rcases List.mem_append.1 hm with hm | hm
    · exact List.mem_append_left _ hm
    · rcases List.mem_cons.1 hm with rfl | hm
      · exact absurd hk hne
      · exact List.mem_append_right _ (List.mem_cons_of_mem _ hm)
  · have hnot : [.str s] ∉ rows.map Row.key := by
      intro h
      obtain ⟨r, hr, hk⟩ := List.mem_map.1 h
      have := hn r hr
      rw [sameItems_text.2 hk] at this
      cases this
    have hk : (f (.fresh [.str s])).key = [.str s] := hf _
    rw [he]
    refine ⟨List.mem_map.2 ⟨_, List.mem_append_right _ List.mem_cons_self, hk⟩,
      fun h => absurd h hnot, fun _ => ⟨_, hk, rfl⟩, fun row hm _ => List.mem_append_left _ hm⟩

theorem mem_keys_of_mem_changeRow (hf : ∀ r, (f r).key = r.key) {key' : List Json}
    (h : key' ∈ (changeRow key f rows).map Row.key) : key' ∈ rows.map Row.key ∨ key' = key := by
  obtain ⟨before, r, after, rfl, -, -, he⟩ | ⟨-, he⟩ := changeRow_cases key f rows
  · rw [he, List.map_append, List.map_cons, hf] at h
    rw [List.map_append, List.map_cons]
    exact .inl h
  · rw [he, List.map_append, List.map_singleton, hf, List.mem_append, List.mem_singleton] at h
    exact h

variable {t : Table} {now : Nat} {rs : RowSet} {v : Json}

theorem fullKey_byId {lookup : String → Option Json} (hl : t.layout = .byId)
    (hv : lookup idColumn = some v) (h : fullKey lookup t.layout.names = .ok key) : key = [v] := by
  rw [(fullKey_eq_ok h).1, hl]
  show [(lookup idColumn).getD .null] = [v]
  rw [hv]
  rfl

/-- An accepted update of a table keyed by `id` changes the row under the id. -/
theorem rows_update_ofId (hl : t.layout = .byId) {assignments : List Assignment}
    {ttl : Option Int}
    (h : (t.run (.update assignments [⟨idColumn, .equals v⟩] ttl) now).1 = .ok rs) :
    ∃ f : Row → Row, (∀ r, (f r).key = r.key) ∧
      (t.run (.update assignments [⟨idColumn, .equals v⟩] ttl) now).2.rows =
        changeRow [v] f t.rows := by
  obtain ⟨key, hk, he⟩ := run_update_of_ok h
  obtain rfl := fullKey_byId hl rfl (updateKey_eq_ok hk).2
  exact ⟨_, fun r => key_updateCells _ _ _ _ _ _, by rw [he]; rfl⟩

/-- An update, accepted or not, adds no row but one under the id. -/
theorem mem_keys_update_ofId (hl : t.layout = .byId) {assignments : List Assignment}
    {ttl : Option Int}
    (h : key ∈ (t.run (.update assignments [⟨idColumn, .equals v⟩] ttl) now).2.rows.map Row.key) :
    key ∈ t.rows.map Row.key ∨ key = [v] := by
  rcases hr : t.run (.update assignments [⟨idColumn, .equals v⟩] ttl) now with ⟨fault | rs, t'⟩
  · rw [hr, run_of_refused hr] at h
    exact .inl h
  · obtain ⟨f, hf, he⟩ := rows_update_ofId hl (congrArg Prod.fst hr)
    rw [he] at h
    exact mem_keys_of_mem_changeRow hf h

/-- An accepted insertion into a table keyed by `id` changes the row under the id. -/
theorem rows_insert_ofId (hl : t.layout = .byId) {columns : Record} {ttl : Option Int}
    (hv : Assoc.find? idColumn columns = some v)
    (h : (t.run (.insert columns ttl) now).1 = .ok rs) :
    ∃ f : Row → Row, (∀ r, (f r).key = r.key) ∧
      (t.run (.insert columns ttl) now).2.rows = changeRow [v] f t.rows := by
  obtain ⟨key, hk, he⟩ := run_insert_of_ok h
  obtain rfl := fullKey_byId hl hv (insertKey_eq_ok hk).2
  refine ⟨fun r => insertCells t.layout (.after t.clock now ttl)
    { r with inserted := some (.after t.clock now ttl) } columns,
    fun r => key_insertCells _ _ _ _, ?_⟩
  rw [he]
  rfl

end Table

/-! ## Calls -/

namespace Access

/-- Calls go to the store in memory, and the table is keyed by `id` on both sides. -/
structure KeyedById (a : Access Memory) (st : AccessState Memory) (name : TableName) : Prop where
  memory : a.backend = Memory.backend
  registered : a.registry.get name = .byId
  layout : (st.backend.store.table name).layout = .byId

/-- The rows of a table. -/
def rowsOf (st : AccessState Memory) (name : TableName) : List Row :=
  (st.backend.store.table name).rows

/-- Both requests are answered, or none of them is, and they leave alike stores. -/
def SameEffect (a : Access Memory) (st : AccessState Memory) (request request' : Request) : Prop :=
  ((∃ answer, a.outcome st request = .ok answer) ↔
    ∃ answer, a.outcome st request' = .ok answer) ∧
  (a.after st request).backend.store.Alike (a.after st request').backend.store

variable {a : Access Memory} {st : AccessState Memory} {name : TableName}

/-- A call for one item has the effect of a call for a batch of this item. -/
theorem sameEffect_of_singleton (hb : a.backend = Memory.backend) {call call' : TableCall}
    (item : BatchItem) {op : Operation}
    (ho : call.toOperation (a.registry.get name) = .ok item.alone)
    (ho' : call'.toOperation (a.registry.get name) = .ok op)
    (hc : compile name op = compile name (.batch [item])) :
    a.SameEffect st (.table name call) (.table name call') := by
  obtain ⟨r, hr, hr'⟩ | ⟨s, hs, hp, hp'⟩ := compile_batch_singleton name item
  · have hrun : (a.run (.table name call)).run.run st = (.error (.refused r), st) :=
      run_table_of_rejected (by rw [ho]; exact hr) st
    have hrun' : (a.run (.table name call')).run.run st = (.error (.refused r), st) :=
      run_table_of_rejected (by rw [ho']; exact hc.trans hr') st
    unfold SameEffect outcome after
    rw [hrun, hrun']
    exact ⟨.rfl, .refl _⟩
  · obtain ⟨hiff, halike⟩ := Store.carryOut_batch_singleton st.backend.store st.backend.now
      (isRead_of_compileItem hs)
    refine ⟨?_, ?_⟩
    · rw [outcome_isOk_iff ho hp hb, outcome_isOk_iff ho' (hc.trans hp') hb]
      exact hiff
    · rw [backend_after_table ho hp hb, backend_after_table ho' (hc.trans hp') hb]
      exact halike

/-- A call that was answered was compiled and carried out. -/
theorem exists_plan_of_outcome (hb : a.backend = Memory.backend) {call : TableCall}
    {op : Operation} (ho : call.toOperation (a.registry.get name) = .ok op)
    (h : ∃ answer, a.outcome st (.table name call) = .ok answer) :
    ∃ plan rs, compile name op = .ok plan ∧
      (st.backend.store.carryOut plan st.backend.now).1 = .ok rs := by
  cases hp : compile name op with
  | error r =>
    obtain ⟨answer, ha⟩ := h
    rw [outcome, run_table_of_rejected (by rw [ho]; exact hp) st] at ha
    cases ha
  | ok plan =>
    obtain ⟨rs, hrs⟩ := (outcome_isOk_iff ho hp hb).1 h
    exact ⟨plan, rs, rfl, hrs⟩

/-- A plan of one statement leaves the table as the statement does. -/
theorem table_after_single (hb : a.backend = Memory.backend) {call : TableCall} {op : Operation}
    (ho : call.toOperation (a.registry.get name) = .ok op) {action : Action}
    (hp : compile name op = .ok (.single ⟨name, action⟩)) :
    (a.after st (.table name call)).backend.store.table name =
      ((st.backend.store.table name).run action st.backend.now).2 := by
  rw [backend_after_table ho hp hb]
  show (st.backend.store.execute ⟨name, action⟩ st.backend.now).2.table name = _
  rw [Store.table_execute, if_pos rfl]

section
variable {r : Record} {s : String} {values : Record}

theorem toOperation_updateRecord (hs : splitId r = .ok (.id s, values)) (layout : KeyLayout) :
    (TableCall.updateRecord r).toOperation layout = .ok (.update (.id s) values 0) := by
  rw [TableCall.toOperation, hs]
  rfl

variable (h : a.KeyedById st name)
include h

/-- An accepted update of a record writes under its id as a text. -/
theorem KeyedById.writesUnder_updateRecord (hs : splitId r = .ok (.id s, values))
    (hok : ∃ answer, a.outcome st (.table name (.updateRecord r)) = .ok answer) :
    WritesUnder [.str s] (rowsOf st name)
      (rowsOf (a.after st (.table name (.updateRecord r))) name) := by
  have ho := toOperation_updateRecord hs (a.registry.get name)
  obtain ⟨plan, rs, hp, hrs⟩ := exists_plan_of_outcome h.memory ho hok
  obtain ⟨-, stmt, hstmt, rfl⟩ := single_eq_ok.1 hp
  obtain ⟨-, rfl⟩ := compileUpdate_eq_ok hstmt
  obtain ⟨f, hf, he⟩ := Table.rows_update_ofId h.layout hrs
  unfold rowsOf
  rw [table_after_single h.memory ho hp]
  exact he ▸ Table.writesUnder_changeRow hf

/-- An accepted insertion of a record whose id is a text writes under it. -/
theorem KeyedById.writesUnder_insert (hid : Assoc.find? idColumn r = some (.str s))
    (hok : ∃ answer, a.outcome st (.table name (.insert r)) = .ok answer) :
    WritesUnder [.str s] (rowsOf st name)
      (rowsOf (a.after st (.table name (.insert r))) name) := by
  have ho : (TableCall.insert r).toOperation (a.registry.get name) = .ok (.insert r 0) := rfl
  obtain ⟨plan, rs, hp, hrs⟩ := exists_plan_of_outcome h.memory ho hok
  obtain ⟨-, stmt, hstmt, rfl⟩ := single_eq_ok.1 hp
  obtain rfl := compileInsert_eq_ok hstmt
  obtain ⟨f, hf, he⟩ := Table.rows_insert_ofId h.layout hid hrs
  unfold rowsOf
  rw [table_after_single h.memory ho hp]
  exact he ▸ Table.writesUnder_changeRow hf

/-- The table stays keyed by `id`. -/
theorem KeyedById.after_insert
    (hok : ∃ answer, a.outcome st (.table name (.insert r)) = .ok answer) :
    a.KeyedById (a.after st (.table name (.insert r))) name := by
  have ho : (TableCall.insert r).toOperation (a.registry.get name) = .ok (.insert r 0) := rfl
  obtain ⟨plan, rs, hp, -⟩ := exists_plan_of_outcome h.memory ho hok
  obtain ⟨-, stmt, -, rfl⟩ := single_eq_ok.1 hp
  refine ⟨h.memory, h.registered, ?_⟩
  rw [backend_after_table ho hp h.memory]
  exact ((Store.sameShape_execute st.backend.store stmt st.backend.now) name).1.trans h.layout

theorem KeyedById.toOperation_updateRecords {v : Json} (hf : Assoc.find? idColumn r = some v)
    (hv : v.isScalar = true) :
    (TableCall.updateRecords [r]).toOperation (a.registry.get name) =
      .ok (.batch [.update (.composite (.ofId v)) (Assoc.erase idColumn r)]) := by
  rw [h.registered, TableCall.toOperation, updatesOf_byId hf hv]
  rfl

/-- A batch with one record adds no row but one under the value of its key column. -/
theorem KeyedById.mem_keys_updateRecords {v : Json} (hf : Assoc.find? idColumn r = some v)
    (hv : v.isScalar = true) {key : List Json}
    (hm : key ∈ (rowsOf (a.after st (.table name (.updateRecords [r]))) name).map Row.key) :
    key ∈ (rowsOf st name).map Row.key ∨ key = [v] := by
  have ho := h.toOperation_updateRecords hf hv
  obtain ⟨e, -, he⟩ | ⟨stmt, hstmt, -, hp⟩ :=
    compile_batch_singleton name (.update (.composite (.ofId v)) (Assoc.erase idColumn r))
  · rw [after, run_table_of_rejected (by rw [ho]; exact he) st] at hm
    exact .inl hm
  · obtain ⟨-, rfl⟩ := compileUpdate_eq_ok hstmt
    have halike := (Store.carryOut_batch_singleton st.backend.store st.backend.now
      (isRead_of_compileItem hstmt)).2
    unfold rowsOf at hm
    rw [backend_after_table ho hp h.memory] at hm
    dsimp only at hm
    rw [← halike name] at hm
    change key ∈ ((st.backend.store.execute ⟨name, _⟩ st.backend.now).2.table name).rows.map
      Row.key at hm
    rw [Store.table_execute, if_pos rfl] at hm
    exact Table.mem_keys_update_ofId h.layout hm

/-- Updating a record alone does what a batch does with the record whose id is a text. -/
theorem KeyedById.sameEffect_withId (hs : splitId r = .ok (.id s, values)) :
    a.SameEffect st (.table name (.updateRecord r))
      (.table name (.updateRecords [r.withId s])) := by
  obtain ⟨_, -, hblank, he, rfl⟩ := splitId_eq_ok hs
  obtain rfl := RowKey.id.inj he
  have hf : Assoc.find? idColumn (r.withId s) = some (.str s) := Assoc.find?_put_self _ _ _
  have ho := toOperation_updateRecord hs (a.registry.get name)
  have ho' := h.toOperation_updateRecords hf rfl
  rw [Record.withId, Assoc.erase_put] at ho'
  refine sameEffect_of_singleton h.memory (.update (.id s) (Assoc.erase idColumn r)) ho ho' ?_
  simp only [compile_batch, compileItems, compileItem, compileUpdate_ofId name hblank]
  rfl

/-- On a table keyed by `id`, updating a record alone does what a batch does with the record whose
id is a text, so the two agree on a record whose id is a text.  An accepted update writes under that
text; a record that was inserted under it is changed and no row is added.  But if the id is a number
and no row is under its text, the update adds one, and the store differs from that which a batch
leaves. -/
theorem updateRecord_by_text (hs : splitId r = .ok (.id s, values)) :
    a.SameEffect st (.table name (.updateRecord r))
      (.table name (.updateRecords [r.withId s])) ∧
    (∀ text, Assoc.find? idColumn r = some (.str text) →
      a.SameEffect st (.table name (.updateRecord r)) (.table name (.updateRecords [r]))) ∧
    (∀ r₀, Assoc.find? idColumn r₀ = some (.str s) →
      (∃ answer, a.outcome st (.table name (.insert r₀)) = .ok answer) →
      (∃ answer, a.outcome (a.after st (.table name (.insert r₀)))
        (.table name (.updateRecord r)) = .ok answer) →
      (rowsOf (a.after (a.after st (.table name (.insert r₀)))
          (.table name (.updateRecord r))) name).map Row.key =
        (rowsOf (a.after st (.table name (.insert r₀))) name).map Row.key) ∧
    ((∃ answer, a.outcome st (.table name (.updateRecord r)) = .ok answer) →
      WritesUnder [.str s] (rowsOf st name)
        (rowsOf (a.after st (.table name (.updateRecord r))) name) ∧
      ∀ n, Assoc.find? idColumn r = some (.num n) → [.str s] ∉ (rowsOf st name).map Row.key →
        ¬ (a.after st (.table name (.updateRecord r))).backend.store.Alike
          (a.after st (.table name (.updateRecords [r]))).backend.store) := by
  refine ⟨h.sameEffect_withId hs, fun text ht => ?_, fun r₀ hid hins hupd => ?_, fun hok => ?_⟩
  · obtain ⟨s', hs', -, he, -⟩ := splitId_eq_ok hs
    obtain rfl := RowKey.id.inj he
    have hid : recordId? r = some text := by rw [recordId?, ht]
    obtain rfl := Option.some.inj (hid.symm.trans hs')
    have hsame : r.withId text = r := Assoc.put_of_find?_eq_some ht
    have heffect := h.sameEffect_withId hs
    rwa [hsame] at heffect
  · have hkeyed := h.after_insert hins
    exact (hkeyed.writesUnder_updateRecord hs hupd).changed (h.writesUnder_insert hid hins).present
  · have hw := h.writesUnder_updateRecord hs hok
    refine ⟨hw, fun n hn hnot halike => ?_⟩
    have hpresent := hw.present
    unfold rowsOf at hpresent
    rw [halike name] at hpresent
    rcases h.mem_keys_updateRecords hn rfl hpresent with hm | he
    · exact hnot hm
    · cases he

end

/-! ### A text and a number as the id -/

/-- Access with the usual settings, in which every table is keyed by `id`. -/
def usualAccess : Access Memory := ⟨{}, .empty, Memory.backend⟩

/-- An empty memory. -/
def noRows : AccessState Memory := .fresh (.empty .empty .wide ".raw")

/-- A record with an id and a column. -/
def numbered (id : Json) (n : Nat) : Record := [("id", id), ("n", .ofNat n)]

theorem keyedById_noRows : usualAccess.KeyedById noRows ⟨"app", "items"⟩ := ⟨rfl, rfl, rfl⟩

/-- A record that was inserted under a text is the one that an update changes. -/
theorem keys_updateRecord_of_text :
    let st := usualAccess.after noRows (.table ⟨"app", "items"⟩ (.insert (numbered (.str "a") 1)))
    (rowsOf st ⟨"app", "items"⟩).map Row.key = [[.str "a"]] ∧
      (rowsOf (usualAccess.after st
        (.table ⟨"app", "items"⟩ (.updateRecord (numbered (.str "a") 2))))
          ⟨"app", "items"⟩).map Row.key = [[.str "a"]] := by
  intro st
  have hkeys : (rowsOf st ⟨"app", "items"⟩).map Row.key = [[.str "a"]] := rfl
  have hsplit : splitId (numbered (.str "a") 2) = .ok (.id "a", [("n", .ofNat 2)]) := rfl
  have hthen := (updateRecord_by_text keyedById_noRows hsplit).2.2.1 (numbered (.str "a") 1) rfl
    ⟨_, rfl⟩ ⟨_, rfl⟩
  exact ⟨hkeys, hthen.trans hkeys⟩

/-- A record that was inserted under a number gets a second row if it is updated alone, and none if
it is updated in a batch. -/
theorem not_sameEffect_of_number :
    let st := usualAccess.after noRows (.table ⟨"app", "items"⟩ (.insert (numbered (.ofNat 7) 1)))
    (rowsOf st ⟨"app", "items"⟩).map Row.key = [[.ofNat 7]] ∧
      (∃ answer, usualAccess.outcome st
        (.table ⟨"app", "items"⟩ (.updateRecord (numbered (.ofNat 7) 2))) = .ok answer) ∧
      (rowsOf (usualAccess.after st
        (.table ⟨"app", "items"⟩ (.updateRecord (numbered (.ofNat 7) 2))))
          ⟨"app", "items"⟩).map Row.key = [[.ofNat 7], [.str "7"]] ∧
      ¬ usualAccess.SameEffect st
        (.table ⟨"app", "items"⟩ (.updateRecord (numbered (.ofNat 7) 2)))
        (.table ⟨"app", "items"⟩ (.updateRecords [numbered (.ofNat 7) 2])) := by
  intro st
  have halone : (rowsOf (usualAccess.after st
      (.table ⟨"app", "items"⟩ (.updateRecord (numbered (.ofNat 7) 2))))
        ⟨"app", "items"⟩).map Row.key = [[.ofNat 7], [.str "7"]] := rfl
  have hbatch : (rowsOf (usualAccess.after st
      (.table ⟨"app", "items"⟩ (.updateRecords [numbered (.ofNat 7) 2])))
        ⟨"app", "items"⟩).map Row.key = [[.ofNat 7]] := rfl
  refine ⟨rfl, ⟨_, rfl⟩, halone, fun h => ?_⟩
  unfold rowsOf at halone hbatch
  rw [h.2 ⟨"app", "items"⟩, hbatch] at halone
  exact absurd (congrArg List.length halone) (by decide)

end Access

end Polystore
