import Polystore.Proofs.Store.Selection
import Polystore.Proofs.Table.History

/-!
# Reads tell what was written

`Store.journal` is the history of a table in a run of calls: what each accepted call on the table
told it.  It is made of operations and never looks at rows.  A read of all columns returns one row
for each key that the journal says is visible, with the values that it says the columns read
(`select_all_tells_journal`).
-/

namespace Polystore

/-! ## What operations tell -/

/-- What assignments to the row with a key tell, in order. -/
def RowKey.told (key : RowKey) (l : KeyLayout) (as : List Assignment) (ttl : Option Int) :
    List Event := assignments (l.keyIn key.equalities) as ttl

/-- What a write of a batch tells; an update in a batch has no time to live. -/
def BatchItem.events (l : KeyLayout) : BatchItem → List Event
  | insert record ttl => insertion l record (askedTtl ttl)
  | update key values => key.told l (values.map fun p => .set p.1 p.2) none

/-- What an accepted operation tells its table. -/
def Operation.events (l : KeyLayout) : Operation → List Event
  | insert record ttl => insertion l record (askedTtl ttl)
  | update key values ttl => key.told l (values.map fun p => .set p.1 p.2) (askedTtl ttl)
  | delete c => [.deleted c]
  | select _ _ => []
  | putEntry key column entry v => key.told l [.put column entry v] none
  | removeEntry key column entry => key.told l [.remove column entry] none
  | batch items => items.flatMap (BatchItem.events l)

/-- Are the records that the operation inserts maps, which hold no key twice? -/
def Operation.InsertsMaps : Operation → Prop
  | insert record _ => (Json.obj record).isWellKeyed = true
  | batch items => ∀ record ttl, .insert record ttl ∈ items → (Json.obj record).isWellKeyed = true
  | _ => True

theorem BatchItem.events_alone (l : KeyLayout) (item : BatchItem) :
    item.alone.events l = item.events l := by
  cases item <;> rfl

theorem equalityOn?_equalConditions (k : RowKey) (column : String) :
    Table.equalityOn? column k.equalConditions = Assoc.find? column k.equalities := by
  unfold RowKey.equalConditions
  induction k.equalities with
  | nil => rfl
  | cons p ps ih =>
    simp only [List.map_cons, Table.equalityOn?, ih]
    rfl

theorem wellKeyed_equalConditions {key : RowKey} (h : key.check = .ok ()) (column : String)
    (v : Json) (hv : Table.equalityOn? column key.equalConditions = some v) :
    v.isWellKeyed = true := by
  rw [equalityOn?_equalConditions] at hv
  exact Json.isWellKeyed_of_isScalar (RowKey.isScalar_of_check h _ (Assoc.mem_of_find?_eq_some hv))

namespace Store

/-! ## Runs -/

/-- A call on a store. -/
structure Request where
  name : TableName
  op : Operation
  now : Nat

/-- The store after calls. -/
def after (s : Store) (qs : List Request) : Store :=
  qs.foldl (fun s q => (s.call q.name q.op q.now).2) s

/-- The history of a table after one more call: it is told if it is on the table and accepted. -/
def told (s : Store) (name : TableName) (q : Request) (h : History) : History :=
  match (s.call q.name q.op q.now).1 with
  | .ok _ => if q.name = name then h.add q.now (q.op.events (s.table name).layout) else h
  | .error _ => h

/-- The history of a table in a run of calls, after an earlier one. -/
def journal (s : Store) (name : TableName) : List Request → History → History
  | [], h => h
  | q :: qs, h => journal (s.call q.name q.op q.now).2 name qs (s.told name q h)

/-! ## One statement -/

variable {s : Store} {name : TableName} {h : History} {now : Nat}

theorem orderly_call (hs : s.Orderly) (op : Operation) : (s.call name op now).2.Orderly := by
  cases hc : compile name op with
  | error r =>
    rw [call_of_rejected hc]
    exact hs
  | ok plan =>
    rw [call_of_compile hc]
    exact hs.carryOut plan now

/-- An update of the row with a key tells of its assignments. -/
theorem tells_update (ht : (s.table name).Tells h) (hs : s.Orderly)
    (hnow : now ≤ (s.table name).clock.latest) {key : RowKey} (hk : key.check = .ok ())
    {as : List Assignment} {ttl : Option Int} {rs : RowSet}
    (hr : (s.execute ⟨name, .update as key.equalConditions ttl⟩ now).1 = .ok rs) :
    ((s.execute ⟨name, .update as key.equalConditions ttl⟩ now).2.table name).Tells
      (h.add now (key.told (s.table name).layout as ttl)) := by
  rw [table_execute, if_pos rfl]
  obtain ⟨values, hu, ht'⟩ := Table.run_update_of_ok hr
  have hvalues : values = (s.table name).layout.keyIn key.equalities := by
    rw [(Table.fullKey_eq_ok (Table.updateKey_eq_ok hu).2).1]
    simp only [equalityOn?_equalConditions]
    rfl
  show Table.Tells ((s.table name).run (.update as key.equalConditions ttl) now).2 _
  rw [ht', RowKey.told, ← hvalues]
  exact ht.updated (hs.table name) hnow (wellKeyed_equalConditions hk) hu ttl

/-- An operation that is turned into one statement tells its events if that is accepted. -/
theorem tells_single (ht : (s.table name).Tells h) (hs : s.Orderly)
    (hnow : now ≤ (s.table name).clock.latest) {op : Operation} {st : Statement}
    (hc : compile name op = .ok (.single st)) (hm : op.InsertsMaps) {rs : RowSet}
    (hr : (s.execute st now).1 = .ok rs) :
    ((s.execute st now).2.table name).Tells
      (h.add now (op.events (s.table name).layout)) := by
  cases op with
  | insert record ttl =>
    have hst := statement_of_single hc
    obtain rfl := compileInsert_eq_ok hst
    rw [table_execute, if_pos rfl]
    obtain ⟨key, hk, ht'⟩ := Table.run_insert_of_ok hr
    show Table.Tells ((s.table name).run (.insert record (askedTtl ttl)) now).2 _
    rw [ht']
    exact ht.inserted (hs.table name) hnow hm hk (askedTtl ttl)
  | update key values ttl =>
    have hst := statement_of_single hc
    obtain ⟨hk, rfl⟩ := compileUpdate_eq_ok hst
    exact tells_update ht hs hnow hk hr
  | delete c =>
    have hst := statement_of_single hc
    obtain ⟨conditions, hcs, rfl⟩ := compileDelete_eq_ok hst
    rw [table_execute, if_pos rfl]
    obtain ⟨hd, ht'⟩ := Table.run_delete_of_ok hr
    show Table.Tells ((s.table name).run (.delete conditions) now).2 _
    rw [ht']
    exact ht.deleted hcs hd now
  | select c p =>
    obtain ⟨-, conditions, -, he⟩ := compile_select_eq_ok.1 hc
    obtain rfl := Plan.single.inj he
    rw [table_execute, if_pos rfl]
    exact ht
  | putEntry key column entry v =>
    have hst := statement_of_single hc
    obtain ⟨hk, rfl⟩ := compileEntry_eq_ok hst
    exact tells_update ht hs hnow hk hr
  | removeEntry key column entry =>
    have hst := statement_of_single hc
    obtain ⟨hk, rfl⟩ := compileEntry_eq_ok hst
    exact tells_update ht hs hnow hk hr
  | batch items =>
    obtain ⟨-, -, sts, -, he⟩ := compile_batch_eq_ok.1 hc
    cases he

/-! ## One call -/

/-- A batch tells what its items tell, one after the other. -/
theorem tells_stage (hn : name.check = .ok ()) (ht : (s.table name).Tells h) (hs : s.Orderly)
    (hnow : now ≤ (s.table name).clock.latest) {items : List BatchItem} {sts : List Statement}
    (hsts : List.Forall₂ (fun item st => compileItem name item = .ok st) items sts)
    (hm : ∀ item ∈ items, item.alone.InsertsMaps) (hok : (s.stage now sts).1 = .ok ()) :
    ((s.stage now sts).2.table name).Tells
      (h.add now (items.flatMap (BatchItem.events (s.table name).layout))) := by
  induction hsts generalizing s h with
  | nil => exact ht
  | @cons item st items sts hst _ ih =>
    have hr := isRead_of_compileItem hst
    rw [List.forall_mem_cons] at hm
    have hc := compile_alone_eq_ok.2 ⟨hn, st, hst, rfl⟩
    have hlayout := kept_execute Table.layout_run s st now name
    have hclock := kept_execute Table.clock_run s st now name
    have hs' := hs.execute st now
    have hsingle := fun rs (hrs : (s.execute st now).1 = .ok rs) =>
      tells_single ht hs hnow hc hm.1 hrs
    rw [stage, if_neg (by simp [hr])] at hok ⊢
    rcases he : s.execute st now with ⟨_ | rs, s'⟩
    · rw [he] at hok
      cases hok
    · rw [he] at hok hlayout hclock hs' hsingle
      have ht' := hsingle rs rfl
      rw [BatchItem.events_alone] at ht'
      have := ih ht' hs' (hclock ▸ hnow) hm.2 hok
      rw [hlayout] at this
      rw [List.flatMap_cons, History.add_append]
      exact this

/-- A refused call leaves a store that is alike. -/
theorem alike_of_call_error {op : Operation} {r : Refusal}
    (he : (s.call name op now).1 = .error r) :
    (s.call name op now).2.Alike s := by
  cases hc : compile name op with
  | error e =>
    rw [call_of_rejected hc]
    exact .refl s
  | ok plan =>
    rw [call_of_compile hc] at he ⊢
    rcases carryOut_cases s plan now with ⟨fault, -, ha⟩ | ⟨⟨rs, hrs⟩, -⟩
    · exact ha
    · rw [hrs] at he
      cases he

theorem table_foldl_of_forall_ne {sts : List Statement} {other : TableName}
    (hsts : ∀ st ∈ sts, st.target ≠ other) :
    (sts.foldl (fun s st => (s.execute st now).2) s).table other = s.table other := by
  induction sts generalizing s with
  | nil => rfl
  | cons st sts ih =>
    rw [List.forall_mem_cons] at hsts
    rw [List.foldl_cons, ih hsts.2, table_execute, if_neg (Ne.symm hsts.1)]

/-- A plan leaves the tables alone that its statements are not on. -/
theorem table_carryOut_of_forall_ne {p : Plan} {other : TableName}
    (hp : ∀ st ∈ p.statements, st.target ≠ other) :
    (s.carryOut p now).2.table other = s.table other := by
  rcases carryOut_cases s p now with ⟨_, -, ha⟩ | ⟨-, he⟩
  · exact ha other
  · rw [he]
    exact table_foldl_of_forall_ne hp

/-- A batch that is accepted tells what its items tell. -/
theorem tells_batch (ht : (s.table name).Tells h) (hs : s.Orderly)
    (hnow : now ≤ (s.table name).clock.latest) {op : Operation} {sts : List Statement}
    (hc : compile name op = .ok (.batch sts)) (hm : op.InsertsMaps) {rs : RowSet}
    (hrs : (s.carryOut (.batch sts) now).1 = .ok rs) :
    ((s.carryOut (.batch sts) now).2.table name).Tells
      (h.add now (op.events (s.table name).layout)) := by
  obtain ⟨items, rfl, hn, hsts⟩ := compile_eq_batch hc
  have hok := carryOut_batch_eq_ok.1 ⟨rs, hrs⟩
  have hx : (s.executeBatch sts now).1 = .ok () := by rw [executeBatch_fst, hok]
  show ((s.executeBatch sts now).2.table name).Tells _
  rw [executeBatch_snd_of_ok hx, ← stage_eq_foldl hok]
  refine tells_stage hn ht hs hnow hsts (fun item hi => ?_) hok
  cases item with
  | insert record ttl => exact hm record ttl hi
  | update key values => trivial

/-- What one call does to the history of a table. -/
theorem tells_call (ht : (s.table name).Tells h) (hs : s.Orderly) (q : Request)
    (hnow : q.now ≤ (s.table name).clock.latest) (hm : q.op.InsertsMaps) :
    ((s.call q.name q.op q.now).2.table name).Tells (s.told name q h) := by
  unfold told
  cases he : (s.call q.name q.op q.now).1 with
  | error r =>
    rw [alike_of_call_error he]
    exact ht
  | ok rs =>
    obtain ⟨plan, hc, hrs⟩ := call_eq_ok_iff.1 he
    rw [call_of_compile hc]
    dsimp only
    split
    · next hq =>
      subst hq
      cases plan with
      | single st => exact tells_single ht hs hnow hc hm hrs
      | batch sts => exact tells_batch ht hs hnow hc hm hrs
    · next hq =>
      rw [table_carryOut_of_forall_ne fun st hst => ?_]
      · exact ht
      · rw [target_of_compile hc st hst]
        exact hq

/-! ## Runs of calls -/

section
variable {α : Type} {f : Table → α} (hf : ∀ t a now, f (Table.run t a now).2 = f t)
include hf

/-- What every action keeps of a table, every call keeps of every table. -/
theorem kept_call (s : Store) (name : TableName) (op : Operation) (now : Nat) (other : TableName) :
    f ((s.call name op now).2.table other) = f (s.table other) := by
  cases hc : compile name op with
  | error r => rw [call_of_rejected hc]
  | ok plan =>
    rw [call_of_compile hc]
    exact kept_carryOut hf s plan now other

theorem kept_after (s : Store) (qs : List Request) (name : TableName) :
    f ((s.after qs).table name) = f (s.table name) := by
  induction qs generalizing s with
  | nil => rfl
  | cons q qs ih => exact (ih _).trans (kept_call hf s q.name q.op q.now name)

end

theorem orderly_after (hs : s.Orderly) (qs : List Request) : (s.after qs).Orderly := by
  induction qs generalizing s with
  | nil => exact hs
  | cons q qs ih => exact ih (orderly_call hs q.op)

theorem tells_journal (ht : (s.table name).Tells h) (hs : s.Orderly) {qs : List Request}
    (hnow : ∀ q ∈ qs, q.now ≤ (s.table name).clock.latest)
    (hm : ∀ q ∈ qs, q.op.InsertsMaps) :
    ((s.after qs).table name).Tells (s.journal name qs h) := by
  induction qs generalizing s h with
  | nil => exact ht
  | cons q qs ih =>
    rw [List.forall_mem_cons] at hnow hm
    refine ih (tells_call ht hs q hnow.1 hm.1) (orderly_call hs q.op) (fun q' hq' => ?_) hm.2
    rw [kept_call Table.clock_run]
    exact hnow.2 q' hq'

/-! ## Reads of all columns -/

section
variable {t : Table}

theorem mem_live_all {r : Row} : r ∈ t.live now Criteria.all.admits ↔
    r ∈ t.rows ∧ r.isVisible t.layout now = true := by
  unfold Table.live
  rw [List.mem_filter, Bool.and_eq_true]
  exact and_congr_right fun _ => and_iff_left rfl

/-- A key is visible if a visible row has it. -/
theorem isVisible_iff_exists_row (ht : t.Tells h) (hnow : now ≤ t.clock.latest)
    (key : List Json) :
    (h.of t.layout key).IsVisible t.layout now ↔
      ∃ k ∈ (t.live now Criteria.all.admits).map Row.key, Json.sameItems k key = true := by
  have hrow : ∀ r ∈ t.rows, Json.sameItems r.key key = true →
      (r.isVisible t.layout now = true ↔ (h.of t.layout key).IsVisible t.layout now) := by
    intro r hm hs
    rw [(ht.shows r hm).isVisible_iff (ht.keyed r hm).nodup hnow,
      History.of_congr (ht.keyed r hm).wellKeyed hs]
  constructor
  · intro hv
    by_contra hnone
    refine History.not_isVisible_nil t.layout now ?_
    rw [← ht.complete key fun r hm => ?_]
    · exact hv
    · rw [Bool.eq_false_iff]
      intro hs
      exact hnone ⟨r.key, List.mem_map_of_mem (mem_live_all.2 ⟨hm, (hrow r hm hs).2 hv⟩), hs⟩
  · rintro ⟨k, hk, hs⟩
    obtain ⟨r, hm, rfl⟩ := List.mem_map.1 hk
    obtain ⟨hm, hv⟩ := mem_live_all.1 hm
    exact (hrow r hm hs).1 hv

/-- A row is returned with the values of its key and with what its columns read. -/
theorem project_tells (ht : t.Tells h) (hnow : now ≤ t.clock.latest) {r : Row}
    (hm : r ∈ t.rows) (columns : List String) (c : String) :
    (c ∉ columns → Assoc.find? c (Table.project columns [] r now) = none) ∧
    (c ∈ columns → t.layout.isKey c = true → SameValue (t.layout.valueIn? r.key c)
      (Assoc.find? c (Table.project columns [] r now))) ∧
    (c ∈ columns → t.layout.isKey c = false →
      Assoc.find? c (Table.project columns [] r now) =
        some (((h.of t.layout r.key).reading c now).getD .null)) := by
  rw [Table.find?_project]
  refine ⟨fun hc => if_neg hc, fun hc hk => ?_, fun hc hk => ?_⟩
  · rw [if_pos hc]
    obtain ⟨v, hv⟩ := KeyLayout.exists_valueIn? (ht.keyed r hm).length hk
    have hs := (ht.keyed r hm).sameValue hk now
    rw [hv] at hs ⊢
    cases hr : r.value? c now with
    | none =>
      rw [hr] at hs
      cases hs
    | some w =>
      rw [hr] at hs
      exact hs
  · rw [if_pos hc, (ht.shows r hm).value? hnow hk]

/-- A column that reads a value is known. -/
theorem mem_columns_of_reading (ht : t.Tells h) {key : List Json} {c : String} {v : Json}
    (hv : (h.of t.layout key).reading c now = some v) : c ∈ t.columns := by
  unfold History.reading at hv
  simp only [Option.map_eq_some_iff, Option.filter_eq_some_iff] at hv
  obtain ⟨w, ⟨hw, -⟩, -⟩ := hv
  obtain ⟨e, he, k, a, ttl, hea, rfl⟩ := History.exists_assigned_of_lastWrite hw
  exact ht.known e (History.mem_of_mem_of he) k a ttl hea

end

/-- A store starts without tables; its history is read back by a read of all columns, at an instant
that a clock can show and that no call comes after.  The read returns rows for keys that differ
from each other, one for each key that is visible.  In the columns of the key a row holds its
values, in all others what the history says that the column reads, or null.  A column that reads a
value is among those that are returned. -/
theorem select_all_tells_journal (hs : s.tables = []) {qs : List Request} {t : Nat}
    (hn : name.check = .ok ()) (hm : ∀ q ∈ qs, q.op.InsertsMaps) (hq : ∀ q ∈ qs, q.now ≤ t)
    (ht : t ≤ s.clock.latest) :
    let l := s.registry.get name
    let h := s.journal name qs []
    ∃ rs keys, (s.after qs).read name .all .all t = .ok rs ∧
      keys.Pairwise (fun k k' => Json.sameItems k k' = false) ∧
      (∀ key, (h.of l key).IsVisible l t ↔ ∃ k ∈ keys, Json.sameItems k key = true) ∧
      List.Forall₂ (fun key row => ∀ c,
        (c ∉ rs.columns → Assoc.find? c row = none) ∧
        (c ∈ rs.columns → l.isKey c = true → SameValue (l.valueIn? key c) (Assoc.find? c row)) ∧
        (c ∈ rs.columns → l.isKey c = false →
          Assoc.find? c row = some (((h.of l key).reading c t).getD .null))) keys rs.rows ∧
      ∀ key c v, (h.of l key).reading c t = some v → c ∈ rs.columns := by
  intro l h
  have htable : ∀ other,
      s.table other = .fresh (s.registry.get other) (Assoc.find? other s.declared) s.clock := by
    intro other
    unfold table
    rw [hs]
    rfl
  have ho : s.Orderly := by simp [Orderly, hs]
  have htells₀ : (s.table name).Tells [] := by
    rw [htable]
    exact Table.tells_fresh _ _ _
  have hclock : (s.table name).clock = s.clock := by
    rw [htable]
    rfl
  have hnow : ∀ q ∈ qs, q.now ≤ (s.table name).clock.latest := by
    intro q hm
    rw [hclock]
    exact Nat.le_trans (hq q hm) ht
  have htells : ((s.after qs).table name).Tells h := tells_journal htells₀ ho hnow hm
  have ho' := (orderly_after ho qs).table name
  have hl : ((s.after qs).table name).layout = l := by
    rw [kept_after Table.layout_run, htable]
    rfl
  have ht' : t ≤ ((s.after qs).table name).clock.latest := by
    rw [kept_after Table.clock_run, hclock]
    exact ht
  have hread : ∃ rs, (s.after qs).read name .all .all t = .ok rs :=
    read_all_isOk.2 ⟨⟨hn, rfl, rfl, rfl⟩, ho'.allowed, by simp [Projection.all]⟩
  obtain ⟨rs, hrs⟩ := hread
  have he := (read_eq_ok.1 hrs).2.2
  rw [Table.answer_all] at he
  refine ⟨rs, (((s.after qs).table name).live t Criteria.all.admits).map Row.key, hrs, ?_, ?_, ?_,
    ?_⟩
  · exact List.pairwise_map.2 (ho'.keysDiffer.filter _)
  · rw [← hl]
    exact isVisible_iff_exists_row htells ht'
  · rw [he, ← hl]
    refine List.forall₂_map_left_iff.2 (List.forall₂_map_right_iff.2 (List.forall₂_same.2 ?_))
    intro r hr c
    exact project_tells htells ht' (mem_live_all.1 hr).1 _ c
  · intro key c v hv
    rw [← hl] at hv
    rw [he]
    exact mem_columns_of_reading htells hv

/-- An insertion for ten seconds, a map entry and the deletion of another row. -/
def threeCalls : List Request :=
  [⟨⟨"shop", "items"⟩, .insert [("id", .str "a"), ("n", .ofNat 5)] 10, 1 * Clock.second⟩,
    ⟨⟨"shop", "items"⟩, .putEntry (.id "a") "tags" "x" (.bool true), 2 * Clock.second⟩,
    ⟨⟨"shop", "items"⟩, .delete (.key (.id "b")), 3 * Clock.second⟩]

theorem select_all_tells_threeCalls :
    ∃ (rs : RowSet) (keys : List (List Json)),
      ((empty .empty .wide).after threeCalls).read ⟨"shop", "items"⟩ .all .all (5 * Clock.second) =
        .ok rs ∧
      keys.length = rs.rows.length ∧
      (∃ k ∈ keys, Json.sameItems k [.str "a"] = true) ∧ "n" ∈ rs.columns ∧
      "tags" ∈ rs.columns := by
  have hname : TableName.check ⟨"shop", "items"⟩ = .ok () := rfl
  have hmaps : ∀ q ∈ threeCalls, q.op.InsertsMaps := by
    simp [threeCalls, Operation.InsertsMaps, Json.isWellKeyed, Json.fieldsAreWellKeyed,
      Assoc.keys, Json.ofNat]
  have hnow : ∀ q ∈ threeCalls, q.now ≤ 5 * Clock.second := by simp [threeCalls, Clock.second]
  have hs : (empty .empty .wide).tables = [] := rfl
  obtain ⟨rs, keys, hr, -, hv, hrows, hc⟩ :=
    select_all_tells_journal hs hname hmaps hnow (by decide +kernel)
  have hn : ((((empty .empty .wide).journal ⟨"shop", "items"⟩ threeCalls []).of .byId
      [.str "a"]).reading "n" (5 * Clock.second)).isSome = true := by decide +kernel
  have ht : ((((empty .empty .wide).journal ⟨"shop", "items"⟩ threeCalls []).of .byId
      [.str "a"]).reading "tags" (5 * Clock.second)).isSome = true := by decide +kernel
  obtain ⟨n, hn⟩ := Option.isSome_iff_exists.1 hn
  obtain ⟨tags, ht⟩ := Option.isSome_iff_exists.1 ht
  refine ⟨rs, keys, hr, hrows.length_eq, ?_, hc _ "n" n hn, hc _ "tags" tags ht⟩
  exact (hv [.str "a"]).1 (.inl ⟨(1 * Clock.second, some 10), by decide +kernel, by decide⟩)

end Store

end Polystore
