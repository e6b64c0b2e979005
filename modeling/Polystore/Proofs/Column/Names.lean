import Polystore.Proofs.Column.Conditions
import Polystore.Proofs.Column.Pieces
import Polystore.Proofs.Column.Statements

/-!
# Names in statements

A name reaches the text of a statement as the keyspace or the table, as a column that is written,
selected or compared, or as an alias.  On every one of these ways it is checked to be an
identifier, so the text of an accepted operation is made of plain pieces only:

    compile t op = .ok plan → ∀ st ∈ plan.statements, AreIdentifiers st.names   (names_of_compile)
    AreIdentifiers st.names → ArePlain (st.pieces d)                            (Statement.arePlain)
-/

namespace Polystore

/-- The names that stand in the text of a statement. -/
def Statement.names (s : Statement) : List String :=
  [s.target.keyspace, s.target.table] ++
    match s.action with
    | .insert columns _ => columns.map Prod.fst
    | .update assignments conditions _ =>
      assignments.map Assignment.column ++ conditions.map Condition.column
    | .delete conditions => conditions.map Condition.column
    | .select selection conditions =>
      selection.columns.getD [] ++ selection.ttl.flatMap (fun p => [p.1, p.2]) ++
        conditions.map Condition.column

/-- Are all names identifiers? -/
def AreIdentifiers (names : List String) : Prop := ∀ n ∈ names, Identifier.holds n = true

theorem areIdentifiers_append {names names' : List String} :
    AreIdentifiers (names ++ names') ↔ AreIdentifiers names ∧ AreIdentifiers names' :=
  List.forall_mem_append

/-! ## Pieces with checked names -/

/-- Are all pieces plain? -/
def ArePlain (ps : List Piece) : Prop := ∀ p ∈ ps, p.IsPlain

attribute [local simp] Piece.IsPlain

section
variable {ps qs : List Piece} {p : Piece}

@[simp] theorem arePlain_nil : ArePlain [] := by simp [ArePlain]

@[simp] theorem arePlain_cons : ArePlain (p :: ps) ↔ p.IsPlain ∧ ArePlain ps :=
  List.forall_mem_cons

@[simp] theorem arePlain_append : ArePlain (ps ++ qs) ↔ ArePlain ps ∧ ArePlain qs :=
  List.forall_mem_append

theorem arePlain_separate {α : Type} {pieces : α → List Piece} {as : List α} {sep : String}
    (hs : sep ∈ Piece.words) (h : ∀ a ∈ as, ArePlain (pieces a)) :
    ArePlain (separate sep (as.map pieces)) :=
  forall_mem_separate hs (List.forall_mem_map.2 h)

end

theorem TableName.arePlain {t : TableName} (h : AreIdentifiers [t.keyspace, t.table]) :
    ArePlain t.pieces := by
  have hk : Identifier.holds t.keyspace = true := h _ (by simp)
  have ht : Identifier.holds t.table = true := h _ (by simp)
  simp [pieces, Piece.words, hk, ht]

theorem Assignment.arePlain {a : Assignment} (h : Identifier.holds a.column = true) :
    ArePlain a.pieces := by
  cases a <;> simpa [pieces, Piece.words, column] using h

theorem Condition.arePlain {c : Condition} (h : Identifier.holds c.column = true) :
    ArePlain c.pieces := by
  obtain ⟨column, relation⟩ := c
  cases relation with
  | oneOf vs =>
    have hv : ArePlain (separate ", " (vs.map fun v => [.value v])) :=
      arePlain_separate (by decide) fun v _ => by simp
    simpa [pieces, Piece.words, hv] using h
  | bound b v => cases b <;> simpa [pieces, Piece.words, Bound.symbol] using h
  | _ => simpa [pieces, Piece.words] using h

theorem arePlain_wherePieces {cs : List Condition} (h : AreIdentifiers (cs.map Condition.column)) :
    ArePlain (wherePieces cs) := by
  unfold wherePieces
  split
  · exact arePlain_nil
  · have hw : " WHERE " ∈ Piece.words := by decide
    refine arePlain_cons.2 ⟨hw, arePlain_separate (by decide) fun c hc => ?_⟩
    exact Condition.arePlain (h _ (List.mem_map_of_mem hc))

theorem arePlain_ttlPieces (ttl : Option Int) : ArePlain (ttlPieces ttl) := by
  cases ttl <;> simp [ttlPieces, Piece.words]

theorem Selection.arePlain {s : Selection} (hc : AreIdentifiers (s.columns.getD []))
    (ht : AreIdentifiers (s.ttl.flatMap fun p => [p.1, p.2])) : ArePlain s.pieces := by
  refine forall_mem_separate (show ", " ∈ Piece.words by decide) fun ps hps => ?_
  rcases List.mem_append.1 hps with hps | hps
  · cases hs : s.columns with
    | some columns =>
      rw [hs] at hps hc
      obtain ⟨c, hm, rfl⟩ := List.mem_map.1 hps
      simpa using hc c hm
    | none =>
      rw [hs] at hps
      dsimp only at hps
      split at hps
      · rw [List.mem_singleton.1 hps]
        simp [Piece.words]
      · cases hps
  · obtain ⟨p, hm, rfl⟩ := List.mem_map.1 hps
    have hp : ∀ n ∈ [p.1, p.2], Identifier.holds n = true := fun n hn =>
      ht n (List.mem_flatMap.2 ⟨p, hm, hn⟩)
    simpa [Piece.words] using hp

/-- A statement whose names are identifiers is made of plain pieces. -/
theorem Statement.arePlain {s : Statement} (h : AreIdentifiers s.names) (d : Dialect) :
    ArePlain (s.pieces d) := by
  obtain ⟨target, action⟩ := s
  obtain ⟨ht, ha⟩ := areIdentifiers_append.1 h
  have hw : d.select ∈ Piece.words := by cases d <;> decide
  cases action with
  | insert columns ttl =>
    have hn : ArePlain (separate ", " (columns.map fun p => [.name p.1])) :=
      arePlain_separate (by decide) fun p hp => by
        simpa using ha p.1 (List.mem_map_of_mem hp)
    have hv : ArePlain (separate ", " (columns.map fun p => [.value p.2])) :=
      arePlain_separate (by decide) fun p _ => by simp
    simp [pieces, Piece.words, TableName.arePlain ht, hn, hv, arePlain_ttlPieces]
  | update assignments conditions ttl =>
    obtain ⟨has, hcs⟩ := areIdentifiers_append.1 ha
    have hs : ArePlain (separate ", " (assignments.map Assignment.pieces)) :=
      arePlain_separate (by decide) fun a hm => Assignment.arePlain (has _ (List.mem_map_of_mem hm))
    simp [pieces, Piece.words, TableName.arePlain ht, hs, arePlain_wherePieces hcs,
      arePlain_ttlPieces]
  | delete conditions =>
    simp [pieces, Piece.words, TableName.arePlain ht, arePlain_wherePieces ha]
  | select selection conditions =>
    obtain ⟨hs, hcs⟩ := areIdentifiers_append.1 ha
    obtain ⟨hc, htl⟩ := areIdentifiers_append.1 hs
    have hj : " " ∈ Piece.words ∧ " FROM " ∈ Piece.words := by decide
    simp [pieces, hw, hj, TableName.arePlain ht, Selection.arePlain hc htl,
      arePlain_wherePieces hcs]

/-! ## Checked names -/

theorem Identifier.checkAll_eq_ok {names : List String} :
    checkAll names = .ok () ↔ AreIdentifiers names := by
  unfold checkAll AreIdentifiers
  induction names with
  | nil => simp
  | cons n names ih =>
    rw [List.forM, Outcome.then_eq_ok, check_eq_ok, ih, List.forall_mem_cons]

theorem areIdentifiers_of_checkValueColumns {key : RowKey} {columns : List String}
    (h : checkValueColumns key columns = .ok ()) : AreIdentifiers columns := by
  induction columns with
  | nil => simp [AreIdentifiers]
  | cons c columns ih =>
    unfold checkValueColumns at h
    rw [Outcome.then_eq_ok, Identifier.check_eq_ok] at h
    obtain ⟨hc, h⟩ := h
    split at h
    · exact absurd h Outcome.throw_ne_ok
    · exact List.forall_mem_cons.2 ⟨hc, ih h⟩

theorem areIdentifiers_of_check {t : TableName} (h : t.check = .ok ()) :
    AreIdentifiers [t.keyspace, t.table] := by
  unfold TableName.check at h
  simp only [Outcome.then_eq_ok, Identifier.check_eq_ok] at h
  simpa [AreIdentifiers] using h.2.2

/-! ## Columns of conditions -/

theorem RowKey.areIdentifiers {k : RowKey} {cs : List Condition} (h : k.conditions = .ok cs) :
    AreIdentifiers (cs.map Condition.column) := by
  unfold conditions at h
  rw [Outcome.then_eq_ok, Outcome.pure_eq_ok, Identifier.checkAll_eq_ok] at h
  obtain ⟨hk, rfl⟩ := h
  rwa [List.map_map]

theorem Filter.areIdentifiers {f : Filter} {allowBounds : Bool} {cs : List Condition}
    (h : f.conditions allowBounds = .ok cs) : AreIdentifiers (cs.map Condition.column) := by
  obtain ⟨-, he⟩ := conditions_isOk_iff.1 ⟨cs, h⟩
  refine List.forall_mem_map.2 fun c hc => ?_
  obtain ⟨e, hm, hec⟩ := exists_entry_of_mem_conditions h c hc
  rw [← hec]
  exact (he e hm).1

/-- Criteria ask about identifiers only. -/
theorem Criteria.areIdentifiers {c : Criteria} {cs : List Condition} (h : c.conditions = .ok cs) :
    AreIdentifiers (cs.map Condition.column) := by
  cases c with
  | all =>
    obtain rfl := Outcome.pure_eq_ok.1 h
    simp [AreIdentifiers]
  | key k =>
    unfold conditions at h
    rw [Outcome.then_eq_ok] at h
    exact RowKey.areIdentifiers h.2
  | oneOf column values =>
    unfold conditions at h
    rw [Outcome.then_eq_ok, Identifier.check_eq_ok] at h
    obtain ⟨hc, h⟩ := h
    split at h
    · exact absurd h Outcome.throw_ne_ok
    · split at h
      · obtain rfl := Outcome.pure_eq_ok.1 h
        simpa [AreIdentifiers] using hc
      · exact absurd h Outcome.throw_ne_ok
  | properties f => exact Filter.areIdentifiers h
  | keyRange f => exact Filter.areIdentifiers h
  | contains column v f =>
    unfold conditions at h
    rw [Outcome.then_eq_ok, Identifier.check_eq_ok] at h
    obtain ⟨hc, h⟩ := h
    split at h
    · rw [Outcome.bind_eq_ok] at h
      obtain ⟨others, ho, h⟩ := h
      obtain rfl := Outcome.pure_eq_ok.1 h
      exact List.forall_mem_cons.2 ⟨hc, Filter.areIdentifiers ho⟩
    · exact absurd h Outcome.throw_ne_ok

/-! ## Names of accepted operations -/

section
variable {t : TableName} {st : Statement} (ht : AreIdentifiers [t.keyspace, t.table])

include ht

theorem names_of_compileInsert {record : Record} {ttl : Int}
    (h : compileInsert t record ttl = .ok st) : AreIdentifiers st.names := by
  rw [compileInsert_eq_ok h]
  unfold compileInsert at h
  split at h
  · exact absurd h Outcome.throw_ne_ok
  · rw [Outcome.then_eq_ok, Identifier.checkAll_eq_ok] at h
    exact areIdentifiers_append.2 ⟨ht, h.1⟩

theorem names_of_compileUpdate {key : RowKey} {values : Record} {ttl : Int}
    (h : compileUpdate t key values ttl = .ok st) : AreIdentifiers st.names := by
  rw [(compileUpdate_eq_ok h).2]
  unfold compileUpdate at h
  rw [Outcome.then_eq_ok] at h
  obtain ⟨-, h⟩ := h
  split at h
  · exact absurd h Outcome.throw_ne_ok
  · rw [Outcome.then_eq_ok, Outcome.bind_eq_ok] at h
    obtain ⟨hv, conditions, hc, -⟩ := h
    have hk := RowKey.areIdentifiers hc
    rw [RowKey.conditions_eq_ok hc] at hk
    refine areIdentifiers_append.2 ⟨ht, areIdentifiers_append.2 ⟨?_, hk⟩⟩
    rw [List.map_map]
    exact areIdentifiers_of_checkValueColumns hv

theorem names_of_compileEntry {key : RowKey} {a : Assignment}
    (h : compileEntry t key a = .ok st) : AreIdentifiers st.names := by
  rw [(compileEntry_eq_ok h).2]
  unfold compileEntry at h
  rw [Outcome.then_eq_ok, Outcome.then_eq_ok, Outcome.bind_eq_ok] at h
  obtain ⟨-, hv, conditions, hc, -⟩ := h
  have hk := RowKey.areIdentifiers hc
  rw [RowKey.conditions_eq_ok hc] at hk
  exact areIdentifiers_append.2
    ⟨ht, areIdentifiers_append.2 ⟨areIdentifiers_of_checkValueColumns hv, hk⟩⟩

theorem names_of_compileDelete {c : Criteria} (h : compileDelete t c = .ok st) :
    AreIdentifiers st.names := by
  obtain ⟨conditions, hc, rfl⟩ := compileDelete_eq_ok h
  exact areIdentifiers_append.2 ⟨ht, Criteria.areIdentifiers hc⟩

/-- Remaining times that are read without fields return the fields whose times are read. -/
theorem names_of_compileSelect {c : Criteria} {p : Projection}
    (h : compileSelect t c p = .ok st) : AreIdentifiers st.names := by
  obtain ⟨⟨-, hf, hp⟩, conditions, hc, rfl⟩ := compileSelect_eq_ok.1 h
  rw [Identifier.checkAll_eq_ok] at hf hp
  refine areIdentifiers_append.2 ⟨ht, areIdentifiers_append.2
    ⟨areIdentifiers_append.2 ⟨?_, hp⟩, Criteria.areIdentifiers hc⟩⟩
  unfold Projection.columns
  cases hpf : p.fields with
  | some fields =>
    rw [hpf] at hf
    exact hf
  | none =>
    dsimp only
    split
    · simp [AreIdentifiers]
    · refine List.forall_mem_map.2 fun q hq => hp _ ?_
      exact List.mem_flatMap.2 ⟨q, hq, List.mem_cons_self⟩

theorem names_of_compileItem {item : BatchItem} (h : compileItem t item = .ok st) :
    AreIdentifiers st.names := by
  cases item with
  | insert record ttl => exact names_of_compileInsert ht h
  | update key values => exact names_of_compileUpdate ht h

end

/-- Every name in a statement of an accepted operation is an identifier. -/
theorem names_of_compile {t : TableName} {op : Operation} {plan : Plan}
    (h : compile t op = .ok plan) : ∀ st ∈ plan.statements, AreIdentifiers st.names := by
  cases op with
  | insert record ttl =>
    obtain ⟨ht, st, hst, rfl⟩ := single_eq_ok.1 h
    exact List.forall_mem_singleton.2 (names_of_compileInsert (areIdentifiers_of_check ht) hst)
  | update key values ttl =>
    obtain ⟨ht, st, hst, rfl⟩ := single_eq_ok.1 h
    exact List.forall_mem_singleton.2 (names_of_compileUpdate (areIdentifiers_of_check ht) hst)
  | delete c =>
    obtain ⟨ht, st, hst, rfl⟩ := single_eq_ok.1 h
    exact List.forall_mem_singleton.2 (names_of_compileDelete (areIdentifiers_of_check ht) hst)
  | select c p =>
    obtain ⟨ht, st, hst, rfl⟩ := single_eq_ok.1 h
    exact List.forall_mem_singleton.2 (names_of_compileSelect (areIdentifiers_of_check ht) hst)
  | putEntry key column entry v =>
    obtain ⟨ht, st, hst, rfl⟩ := single_eq_ok.1 h
    exact List.forall_mem_singleton.2 (names_of_compileEntry (areIdentifiers_of_check ht) hst)
  | removeEntry key column entry =>
    obtain ⟨ht, st, hst, rfl⟩ := single_eq_ok.1 h
    exact List.forall_mem_singleton.2 (names_of_compileEntry (areIdentifiers_of_check ht) hst)
  | batch items =>
    obtain ⟨ht, -, sts, hsts, rfl⟩ := compile_batch_eq_ok.1 h
    intro st hm
    obtain ⟨item, -, hc⟩ := exists_of_mem_right hsts hm
    exact names_of_compileItem (areIdentifiers_of_check ht) hc

end Polystore
