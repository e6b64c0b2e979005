import Polystore.Proofs.Column.Conditions
import Polystore.Proofs.Store.Batch
import Polystore.Proofs.Table.Columns

/-!
# What reads return

A read that is accepted returns the visible rows that its criteria admit, in store order; it is
accepted if a read of all rows with its projection is, and its criteria can be turned into
conditions on columns that the table allows (`read_eq_ok_iff`).

What fresh tables have and every action keeps holds of every table of a reachable store
(`Reachable.table`): the rows of a table have different keys, so no row is returned twice, and a
table knows all columns of its rows, so a read of all columns shows all that they hold.

For filters this says which of them each kind of criteria accepts, and that the order of entries
does not matter (`filtered_reads`).
-/

namespace Polystore

namespace Table

/-- The visible rows whose live values pass a test, in store order. -/
def live (t : Table) (now : Nat) (test : (String → Option Json) → Bool) : List Row :=
  t.rows.filter fun r => r.isVisible t.layout now && test fun column => r.value? column now

/-- What a read returns of rows. -/
def answer (t : Table) (p : Projection) (rows : List Row) (now : Nat) : RowSet :=
  let columns := t.selected ⟨p.columns, p.ttl⟩
  ⟨columns ++ p.ttl.map Prod.snd, rows.map fun r => project columns p.ttl r now⟩

theorem answer_all (t : Table) (rows : List Row) (now : Nat) :
    t.answer .all rows now = ⟨t.columns, rows.map fun r => project t.columns [] r now⟩ := by
  unfold answer
  rw [show t.selected ⟨Projection.all.columns, Projection.all.ttl⟩ = t.columns from rfl]
  simp only [Projection.all, List.map_nil, List.append_nil]

/-- Does the table allow every column that the projection reads? -/
def permits (t : Table) (p : Projection) : Prop :=
  (∀ c ∈ t.selected ⟨p.columns, p.ttl⟩, t.allows c = true) ∧
    ∀ c ∈ p.ttl.map Prod.fst, t.allows c = true

theorem select_eq_ok {t : Table} {p : Projection} {conditions : List Condition} {now : Nat}
    {rs : RowSet} :
    t.select ⟨p.columns, p.ttl⟩ conditions now = .ok rs ↔
      (∀ d ∈ conditions, t.allows d.column = true) ∧ t.permits p ∧
        rs = t.answer p (t.matching conditions now) now := by
  unfold select
  simp only [Outcome.then_eq_ok, Outcome.pure_eq_ok, checkColumns_eq_ok, List.forall_mem_map]
  unfold permits answer
  rw [List.forall_mem_map, and_assoc, eq_comm]

/-- The rows that match the conditions of criteria are those that the criteria admit. -/
theorem matching_eq_live {c : Criteria} {conditions : List Condition}
    (h : c.conditions = .ok conditions) (t : Table) (now : Nat) :
    t.matching conditions now = t.live now c.admits := by
  unfold matching live
  congr 1
  funext r
  simp only [Condition.holds_eq_holdsIn, Criteria.all_conditions _ h]

end Table

/-! ## Invariants of tables -/

namespace Table

/-- Something that holds of every fresh table and is kept by every action, accepted or not. -/
structure Invariant (P : Table → Prop) : Prop where
  fresh : ∀ layout declared clock, P (.fresh layout declared clock)
  run : ∀ {t t' : Table} {a : Action} {now : Nat} {result : Except StoreFault RowSet},
    P t → t.run a now = (result, t') → P t'

theorem invariant_orderly : Invariant Table.Orderly := ⟨orderly_fresh, fun h hr => h.run hr⟩

theorem invariant_noted : Invariant Table.Noted := ⟨noted_fresh, fun h hr => h.run hr⟩

end Table

namespace Store

/-! ## Reachable stores -/

/-- A store that calls lead to, from one without tables. -/
inductive Reachable : Store → Prop where
  | start (registry : Registry) (clock : Clock) : Reachable (.empty registry clock)
  | declare {s : Store} (h : Reachable s) (name : TableName) (columns : List String) :
      Reachable (s.declare name columns)
  | step {s : Store} (h : Reachable s) (p : Plan) (now : Nat) : Reachable (s.carryOut p now).2

/-- Does something hold of every table that was named? -/
def Every (P : Table → Prop) (s : Store) : Prop := ∀ t ∈ s.tables.map Prod.snd, P t

variable {P : Table → Prop} {s : Store}

theorem Every.table (hP : Table.Invariant P) (h : s.Every P) (name : TableName) :
    P (s.table name) := by
  unfold Store.table
  cases hf : Assoc.find? name s.tables with
  | none => exact hP.fresh _ _ _
  | some t => exact h t (List.mem_map_of_mem (Assoc.mem_of_find?_eq_some hf))

theorem Every.withTable (h : s.Every P) {name : TableName} {t : Table} (ht : P t) :
    (s.withTable name t).Every P := by
  intro u hu
  obtain ⟨q, hq, rfl⟩ := List.mem_map.1 hu
  rcases Assoc.mem_of_mem_put hq with rfl | hq
  · exact ht
  · exact h _ (List.mem_map_of_mem hq)

theorem Every.execute (hP : Table.Invariant P) (h : s.Every P) (st : Statement) (now : Nat) :
    (s.execute st now).2.Every P := by
  rw [execute_eq]
  exact h.withTable (hP.run (h.table hP st.target) rfl)

theorem Every.stage (hP : Table.Invariant P) (h : s.Every P) (sts : List Statement) (now : Nat) :
    (s.stage now sts).2.Every P := by
  induction sts generalizing s with
  | nil => exact h
  | cons st sts ih =>
    unfold Store.stage
    split
    · exact h
    · have he := h.execute hP st now
      rcases hr : s.execute st now with ⟨_ | rs, t⟩ <;> rw [hr] at he
      · exact he
      · exact ih (s := t) he

theorem Every.carryOut (hP : Table.Invariant P) (h : s.Every P) (p : Plan) (now : Nat) :
    (s.carryOut p now).2.Every P := by
  cases p with
  | single st => exact h.execute hP st now
  | batch sts =>
    show (s.executeBatch sts now).2.Every P
    have hs := h.stage hP sts now
    unfold executeBatch
    rcases hr : s.stage now sts with ⟨_ | _, t⟩ <;> rw [hr] at hs
    · exact h
    · exact hs

theorem Reachable.every (hP : Table.Invariant P) (h : s.Reachable) : s.Every P := by
  induction h with
  | start registry clock => simp [Every, Store.empty]
  | declare _ name columns ih => exact ih
  | step _ p now ih => exact ih.carryOut hP p now

/-- An invariant of tables holds of every table of a reachable store. -/
theorem Reachable.table (hP : Table.Invariant P) (h : s.Reachable) (name : TableName) :
    P (s.table name) := (h.every hP).table hP name

/-- The tables of a reachable store have its clock. -/
theorem Reachable.clock_table (h : s.Reachable) (name : TableName) :
    (s.table name).clock = s.clock := by
  induction h with
  | start registry clock => rfl
  | @declare s _ other columns ih =>
    unfold Store.table at ih ⊢
    show ((Assoc.find? name s.tables).getD _).clock = s.clock
    cases hf : Assoc.find? name s.tables with
    | none => rfl
    | some t => rwa [hf] at ih
  | step _ p now ih => rw [kept_carryOut Table.clock_run, clock_carryOut, ih]

/-- Is every table orderly, those that were not named yet included? -/
def Orderly (s : Store) : Prop := ∀ t ∈ s.tables.map Prod.snd, t.Orderly

theorem Reachable.orderly (h : s.Reachable) : s.Orderly := h.every Table.invariant_orderly

theorem Orderly.table (h : s.Orderly) (name : TableName) : (s.table name).Orderly :=
  Every.table Table.invariant_orderly h name

theorem Orderly.execute (h : s.Orderly) (st : Statement) (now : Nat) :
    (s.execute st now).2.Orderly := Every.execute Table.invariant_orderly h st now

theorem Orderly.carryOut (h : s.Orderly) (p : Plan) (now : Nat) : (s.carryOut p now).2.Orderly :=
  Every.carryOut Table.invariant_orderly h p now

/-! ## Reads -/

/-- Reads the rows that criteria address. -/
def read (s : Store) (name : TableName) (c : Criteria) (p : Projection) (now : Nat) :
    Except Refusal RowSet :=
  (s.call name (.select c p) now).1

section
variable {name : TableName} {c : Criteria} {p : Projection} {now : Nat} {rs : RowSet}

theorem read_eq_ok :
    s.read name c p now = .ok rs ↔
      (isNamed name p ∧ (s.table name).permits p) ∧
        (∃ conditions, c.conditions = .ok conditions ∧
          ∀ d ∈ conditions, (s.table name).allows d.column = true) ∧
        rs = (s.table name).answer p ((s.table name).live now c.admits) now := by
  unfold read
  rw [call_eq_ok_iff]
  simp only [compile_select_eq_ok]
  constructor
  · rintro ⟨_, ⟨hn, conditions, hc, rfl⟩, hr⟩
    obtain ⟨ha, hp, rfl⟩ := Table.select_eq_ok.1 hr
    exact ⟨⟨hn, hp⟩, ⟨conditions, hc, ha⟩, by rw [Table.matching_eq_live hc]⟩
  · rintro ⟨⟨hn, hp⟩, ⟨conditions, hc, ha⟩, rfl⟩
    refine ⟨_, ⟨hn, conditions, hc, rfl⟩, Table.select_eq_ok.2 ⟨ha, hp, ?_⟩⟩
    rw [Table.matching_eq_live hc]

theorem read_all_isOk :
    (∃ rs, s.read name .all p now = .ok rs) ↔ isNamed name p ∧ (s.table name).permits p := by
  simp only [read_eq_ok]
  constructor
  · rintro ⟨_, h, -⟩
    exact h
  · intro h
    exact ⟨_, h, ⟨[], rfl, by simp⟩, rfl⟩

/-- All rows of a table in a reachable store can be read with every column. -/
theorem Reachable.exists_read_all (hs : s.Reachable) (hn : name.check = .ok ()) (now : Nat) :
    ∃ rs, s.read name .all .all now = .ok rs := by
  refine read_all_isOk.2 ⟨⟨hn, rfl, rfl, rfl⟩, fun c hc => ?_, by simp [Projection.all]⟩
  exact (hs.table Table.invariant_orderly name).allowed c hc

/-- A read that is accepted returns the visible rows that its criteria admit.  It is accepted if a
read of all rows is and its criteria ask about columns that the table allows. -/
theorem read_eq_ok_iff :
    s.read name c p now = .ok rs ↔
      (∃ rs₀, s.read name .all p now = .ok rs₀) ∧
        (∃ conditions, c.conditions = .ok conditions ∧
          ∀ d ∈ conditions, (s.table name).allows d.column = true) ∧
        rs = (s.table name).answer p ((s.table name).live now c.admits) now := by
  rw [read_all_isOk, read_eq_ok]

end

end Store

/-! ## Filters -/

namespace Filter

/-- Can the filter be asked of a table as a range: no alternatives and no tests on texts, and
fields that are identifiers and allowed by the table? -/
def IsRangeOf (f : Filter) (t : Table) : Prop :=
  f.anyOf = [] ∧ ∀ e ∈ f.entries,
    Identifier.holds e.1 = true ∧ t.allows e.1 = true ∧ e.2.affixes = []

/-- Has the filter no bounds? -/
def IsBoundless (f : Filter) : Prop := ∀ e ∈ f.entries, e.2.bounds = []

variable {f g : Filter} {t : Table}

theorem isAskable_true_iff (c : Criterion) : c.isAskable true = true ↔ c.affixes = [] := by
  cases c <;> simp [Criterion.isAskable, Criterion.affixes]

theorem isAskable_false_iff {c : Criterion} (hc : c.Sound) :
    c.isAskable false = true ↔ c.affixes = [] ∧ c.bounds = [] := by
  cases c with
  | operators ops =>
    have := hc.exists_operator
    simp only [Criterion.isAskable, Criterion.affixes, Criterion.bounds, Bool.false_and,
      Bool.false_eq_true, false_iff, not_and]
    intro ha hb
    exact this.elim (fun h => h hb) fun h => h ha
  | _ => simp [Criterion.isAskable, Criterion.affixes, Criterion.bounds]

/-- The conditions of a filter that was read are on columns that the table allows if its fields
are. -/
theorem forall_column_iff (hf : f.Sound) {allowBounds : Bool} {conditions : List Condition}
    (h : f.conditions allowBounds = .ok conditions) :
    (∀ d ∈ conditions, t.allows d.column = true) ↔ ∀ e ∈ f.entries, t.allows e.1 = true := by
  constructor
  · intro ha e he
    obtain ⟨d, hd, hde⟩ := exists_condition_of_mem_entries hf.entries.sound h e he
    rw [← hde]
    exact ha d hd
  · intro ha d hd
    obtain ⟨e, he, hed⟩ := exists_entry_of_mem_conditions h d hd
    rw [← hed]
    exact ha e he

theorem exists_conditions_iff (hf : f.Sound) (allowBounds : Bool) :
    (∃ conditions, f.conditions allowBounds = .ok conditions ∧
        ∀ d ∈ conditions, t.allows d.column = true) ↔
      f.IsRangeOf t ∧ (allowBounds = false → f.IsBoundless) := by
  have h₁ : (∃ conditions, f.conditions allowBounds = .ok conditions ∧
        ∀ d ∈ conditions, t.allows d.column = true) ↔
      (∃ conditions, f.conditions allowBounds = .ok conditions) ∧
        ∀ e ∈ f.entries, t.allows e.1 = true := by
    constructor
    · rintro ⟨conditions, hc, ha⟩
      exact ⟨⟨conditions, hc⟩, (forall_column_iff hf hc).1 ha⟩
    · rintro ⟨⟨conditions, hc⟩, ha⟩
      exact ⟨conditions, hc, (forall_column_iff hf hc).2 ha⟩
  rw [h₁, conditions_isOk_iff]
  unfold IsRangeOf IsBoundless
  cases allowBounds with
  | true =>
    simp only [isAskable_true_iff]
    constructor
    · rintro ⟨⟨hg, he⟩, ha⟩
      exact ⟨⟨hg, fun e hm => ⟨(he e hm).1, ha e hm, (he e hm).2⟩⟩, fun h => by cases h⟩
    · rintro ⟨⟨hg, he⟩, -⟩
      exact ⟨⟨hg, fun e hm => ⟨(he e hm).1, (he e hm).2.2⟩⟩, fun e hm => (he e hm).2.1⟩
  | false =>
    constructor
    · rintro ⟨⟨hg, he⟩, ha⟩
      have hb := fun e hm => (isAskable_false_iff (hf.entries.sound e hm)).1 (he e hm).2
      exact ⟨⟨hg, fun e hm => ⟨(he e hm).1, ha e hm, (hb e hm).1⟩⟩, fun _ e hm => (hb e hm).2⟩
    · rintro ⟨⟨hg, he⟩, hb⟩
      refine ⟨⟨hg, fun e hm => ⟨(he e hm).1, ?_⟩⟩, fun e hm => (he e hm).2.1⟩
      exact (isAskable_false_iff (hf.entries.sound e hm)).2 ⟨(he e hm).2.2, hb rfl e hm⟩

/-- A column without a value satisfies no entry that was read. -/
theorem admits_none {c : Criterion} (hc : c.Sound) (ha : c.affixes = []) :
    c.admits none = false := by
  cases c with
  | operators ops =>
    have hb : ops.bounds ≠ [] := hc.exists_operator.resolve_right fun h => h ha
    obtain ⟨b, bounds, hb⟩ := List.exists_cons_of_ne_nil hb
    simp [Criterion.admits, hb]
  | _ => rfl

/-! ## Order of entries -/

theorem Sound.perm (hf : f.Sound) (ho : g.anyOf = f.anyOf) (hp : g.entries.Perm f.entries) :
    g.Sound where
  entries := by
    refine ⟨?_, fun e he => hf.entries.sound e (hp.mem_iff.1 he), fun e he => ?_⟩
    · exact (hp.map Prod.fst).nodup_iff.2 hf.entries.nodup
    · exact hf.entries.not_blank e (hp.mem_iff.1 he)
  anyOf := by
    rw [ho]
    exact hf.anyOf

theorem isRangeOf_perm (ho : g.anyOf = f.anyOf) (hp : g.entries.Perm f.entries) :
    g.IsRangeOf t ↔ f.IsRangeOf t := by
  unfold IsRangeOf
  rw [ho]
  simp only [hp.mem_iff]

theorem isBoundless_perm (hp : g.entries.Perm f.entries) : g.IsBoundless ↔ f.IsBoundless := by
  unfold IsBoundless
  simp only [hp.mem_iff]

theorem admits_perm (hp : g.entries.Perm f.entries) (value? : String → Option Json) :
    g.admits value? = f.admits value? := by
  unfold admits
  rw [Bool.eq_iff_iff, List.all_eq_true, List.all_eq_true]
  simp only [hp.mem_iff]

end Filter

/-! ## Reads with filters -/

namespace Criteria

/-- The criteria with another filter in place of theirs, if they have one. -/
def withFilter (f : Filter) : Criteria → Criteria
  | properties _ => properties f
  | keyRange _ => keyRange f
  | contains column w _ => contains column w f
  | c => c

/-- Can the criteria be turned into conditions on columns that the table allows? -/
def IsAskedOf (c : Criteria) (t : Table) : Prop :=
  ∃ conditions, c.conditions = .ok conditions ∧ ∀ d ∈ conditions, t.allows d.column = true

variable {f g : Filter} {t : Table}

theorem keyRange_isAskedOf (hf : f.Sound) : (keyRange f).IsAskedOf t ↔ f.IsRangeOf t := by
  refine (Filter.exists_conditions_iff hf true).trans ⟨And.left, fun h => ⟨h, ?_⟩⟩
  intro h
  cases h

theorem properties_isAskedOf (hf : f.Sound) :
    (properties f).IsAskedOf t ↔ f.IsRangeOf t ∧ f.IsBoundless := by
  refine (Filter.exists_conditions_iff hf false).trans ?_
  simp only [forall_const]

theorem contains_isAskedOf (hf : f.Sound) {column : String} {w : Json} :
    (contains column w f).IsAskedOf t ↔
      (Identifier.holds column = true ∧ t.allows column = true ∧ w.isScalar = true) ∧
        f.IsRangeOf t ∧ f.IsBoundless := by
  rw [← properties_isAskedOf hf]
  unfold IsAskedOf conditions
  simp only [Outcome.then_eq_ok, Identifier.check_eq_ok]
  constructor
  · rintro ⟨conditions, ⟨hi, h⟩, ha⟩
    split at h
    · next hw =>
      simp only [Outcome.bind_eq_ok, Outcome.pure_eq_ok] at h
      obtain ⟨others, ho, rfl⟩ := h
      rw [List.forall_mem_cons] at ha
      exact ⟨⟨hi, ha.1, hw⟩, others, ho, ha.2⟩
    · exact absurd h Outcome.throw_ne_ok
  · rintro ⟨⟨hi, hc, hw⟩, others, ho, ha⟩
    refine ⟨⟨column, .contains w⟩ :: others, ⟨hi, ?_⟩, List.forall_mem_cons.2 ⟨hc, ha⟩⟩
    rw [if_pos hw]
    simp only [Outcome.bind_eq_ok, Outcome.pure_eq_ok]
    exact ⟨others, ho, rfl⟩

/-- The order of the entries of a filter neither decides whether criteria can be asked nor what they
admit. -/
theorem withFilter_perm (hf : f.Sound) (ho : g.anyOf = f.anyOf) (hp : g.entries.Perm f.entries)
    (c : Criteria) :
    ((c.withFilter g).IsAskedOf t ↔ (c.withFilter f).IsAskedOf t) ∧
      ∀ value?, (c.withFilter g).admits value? = (c.withFilter f).admits value? := by
  have hg := hf.perm ho hp
  cases c with
  | properties _ =>
    refine ⟨?_, Filter.admits_perm hp⟩
    simp only [withFilter, properties_isAskedOf hf, properties_isAskedOf hg,
      Filter.isRangeOf_perm ho hp, Filter.isBoundless_perm hp]
  | keyRange _ =>
    refine ⟨?_, Filter.admits_perm hp⟩
    simp only [withFilter, keyRange_isAskedOf hf, keyRange_isAskedOf hg,
      Filter.isRangeOf_perm ho hp]
  | contains column w _ =>
    refine ⟨?_, fun value? => ?_⟩
    · simp only [withFilter, contains_isAskedOf hf, contains_isAskedOf hg,
        Filter.isRangeOf_perm ho hp, Filter.isBoundless_perm hp]
    · simp only [withFilter, admits, Filter.admits_perm hp]
  | _ => exact ⟨Iff.rfl, fun _ => rfl⟩

end Criteria

namespace Store

variable {s : Store}

theorem read_isOk_iff {name : TableName} {c : Criteria} {p : Projection} {now : Nat}
    (hp : ∃ rs₀, s.read name .all p now = .ok rs₀) :
    (∃ rs, s.read name c p now = .ok rs) ↔ c.IsAskedOf (s.table name) := by
  constructor
  · rintro ⟨rs, h⟩
    exact (read_eq_ok_iff.1 h).2.1
  · intro h
    exact ⟨_, read_eq_ok_iff.2 ⟨hp, h, rfl⟩⟩

/-- What reads with a filter return from a reachable store, for a projection with which all rows can
be read; that holds of every column.

A range read accepts the filters without alternatives and tests on texts whose fields are allowed
identifiers, and returns the visible rows whose live values satisfy every entry: each once, as their
keys differ, and in store order.  A read by properties accepts those of these filters that have no
bounds, and returns the same rows.  A read by a held value returns those of them whose list or map
holds it.  The order of the entries does not matter to any of the three. -/
theorem filtered_reads (hs : s.Reachable) {v : Json} {f : Filter} (hf : Filter.ofJson v = .ok f)
    {name : TableName} {p : Projection} {now : Nat}
    (hp : ∃ rs₀, s.read name .all p now = .ok rs₀) :
    (∃ rs, s.read name .all .all now = .ok rs) ∧
    Table.KeysDiffer ((s.table name).live now f.admits) ∧
    (f.IsRangeOf (s.table name) → ∀ e ∈ f.entries, e.2.admits none = false) ∧
    ((∃ rs, s.read name (.keyRange f) p now = .ok rs) ↔ f.IsRangeOf (s.table name)) ∧
    (∀ rs, s.read name (.keyRange f) p now = .ok rs →
      rs = (s.table name).answer p ((s.table name).live now f.admits) now) ∧
    ((∃ rs, s.read name (.properties f) p now = .ok rs) ↔
      f.IsRangeOf (s.table name) ∧ f.IsBoundless) ∧
    (∀ rs, s.read name (.properties f) p now = .ok rs →
      rs = (s.table name).answer p ((s.table name).live now f.admits) now) ∧
    (∀ column w,
      ((∃ rs, s.read name (.contains column w f) p now = .ok rs) ↔
        (Identifier.holds column = true ∧ (s.table name).allows column = true ∧
          w.isScalar = true) ∧ f.IsRangeOf (s.table name) ∧ f.IsBoundless) ∧
      ∀ rs, s.read name (.contains column w f) p now = .ok rs →
        rs = (s.table name).answer p
          (((s.table name).live now f.admits).filter fun r =>
            (r.value? column now).any w.holdsItem) now) ∧
    (∀ (g : Filter) (c : Criteria) (rs : RowSet), g.anyOf = f.anyOf → g.entries.Perm f.entries →
      (s.read name (c.withFilter g) p now = .ok rs ↔
        s.read name (c.withFilter f) p now = .ok rs)) := by
  have hsound := Filter.sound_of_ofJson hf
  refine ⟨?_, ?_, ?_, ?_, ?_, ?_, ?_, ?_, ?_⟩
  · exact hs.exists_read_all (read_all_isOk.1 hp).1.1 now
  · exact (hs.table Table.invariant_orderly name).keysDiffer.filter _
  · intro h e he
    exact Filter.admits_none (hsound.entries.sound e he) (h.2 e he).2.2
  · exact (read_isOk_iff hp).trans (Criteria.keyRange_isAskedOf hsound)
  · intro rs h
    exact (read_eq_ok_iff.1 h).2.2
  · exact (read_isOk_iff hp).trans (Criteria.properties_isAskedOf hsound)
  · intro rs h
    exact (read_eq_ok_iff.1 h).2.2
  · intro column w
    refine ⟨(read_isOk_iff hp).trans (Criteria.contains_isAskedOf hsound), fun rs h => ?_⟩
    rw [(read_eq_ok_iff.1 h).2.2]
    congr 1
    unfold Table.live
    rw [List.filter_filter]
    congr 1
    funext r
    simp only [Criteria.admits]
    rw [Bool.and_left_comm]
  · intro g c rs ho hperm
    obtain ⟨ha, he⟩ := Criteria.withFilter_perm hsound ho hperm (t := s.table name) c
    have he' : (fun value? => (c.withFilter g).admits value?) =
        fun value? => (c.withFilter f).admits value? := funext he
    rw [read_eq_ok_iff, read_eq_ok_iff, he']
    exact and_congr_right fun _ => and_congr_left fun _ => ha

/-- A store with one row that was inserted without a time to live. -/
def oneRow : Store :=
  ((empty .empty .wide).carryOut
    (.single ⟨⟨"shop", "items"⟩, .insert [("id", .str "a"), ("n", .ofNat 5)] none⟩) 0).2

theorem filtered_reads_of_oneRow :
    ∃ rs, oneRow.read ⟨"shop", "items"⟩
        (.keyRange ⟨[("n", .operators ⟨[(.above, .ofNat 3)], []⟩)], []⟩) .all 0 = .ok rs ∧
      rs.rows.length = 1 := by
  have hs : oneRow.Reachable := .step (.start _ _) _ 0
  have hf : Filter.ofJson (.obj [("n", .obj [(">", .ofNat 3)])]) =
      .ok ⟨[("n", .operators ⟨[(.above, .ofNat 3)], []⟩)], []⟩ := rfl
  have hp : ∃ rs, oneRow.read ⟨"shop", "items"⟩ .all .all 0 = .ok rs := hs.exists_read_all rfl 0
  obtain ⟨-, -, -, hk, hr, -⟩ := filtered_reads hs hf hp
  obtain ⟨rs, hrs⟩ := hk.2 ⟨rfl, List.forall_mem_singleton.2 ⟨rfl, rfl, rfl⟩⟩
  refine ⟨rs, hrs, ?_⟩
  rw [hr rs hrs, Table.answer, List.length_map]
  decide +kernel

end Store

end Polystore
