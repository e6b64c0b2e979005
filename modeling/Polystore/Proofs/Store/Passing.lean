import Polystore.Proofs.Store.Consistency
import Polystore.Proofs.Table.Passing

/-!
# Time only removes

What is read at a later instant, with no write in between, is part of what was read before: rows are
left out, and values and remaining times become null, but nothing is added.  The remaining time of a
column outside the key is that of its last write, as the log of the accepted statements tells it:

    s.Logged log → (s.table name).Dated (Log.on name log)                (Logged.dated)

`time_only_removes` puts both together for reads with remaining times under aliases.
-/

namespace Polystore

/-- The accepted statements on a store with their instants, newest first. -/
abbrev StoreLog := List (Nat × Statement)

namespace StoreLog

/-- The part of a log that is about one table. -/
def on (log : StoreLog) (name : TableName) : Log :=
  (log.filter fun e => e.2.target = name).map fun e => (e.1, e.2.action)

/-- The log after statements that were accepted at one instant, in their order. -/
def add (log : StoreLog) (now : Nat) (sts : List Statement) : StoreLog :=
  sts.foldl (fun log st => (now, st) :: log) log

variable {log : StoreLog} {name : TableName} {now : Nat} {st : Statement}

theorem on_cons (e : Nat × Statement) (log : StoreLog) (name : TableName) :
    on (e :: log) name =
      if e.2.target = name then (e.1, e.2.action) :: on log name else on log name := by
  unfold on
  rw [List.filter_cons]
  by_cases h : e.2.target = name <;> simp [h]

theorem forall_mem_on {P : Nat → Action → Prop} (h : ∀ e ∈ log, P e.1 e.2.action)
    (name : TableName) : ∀ e ∈ log.on name, P e.1 e.2 := by
  intro e he
  obtain ⟨e', he', rfl⟩ := List.mem_map.1 he
  exact h e' (List.mem_of_mem_filter he')

end StoreLog

namespace Store

/-! ## Stores with their logs -/

/-- The log after a plan, which adds its statements if it is accepted. -/
def logAfter (s : Store) (p : Plan) (now : Nat) (log : StoreLog) : StoreLog :=
  match (s.carryOut p now).1 with
  | .ok _ => log.add now p.statements
  | .error _ => log

/-- A store that plans lead to, from one without tables, with the log of what they did. -/
inductive Logged : Store → StoreLog → Prop where
  | start (registry : Registry) (clock : Clock) : Logged (.empty registry clock) []
  | declare {s : Store} {log : StoreLog} (h : Logged s log) (name : TableName)
      (columns : List String) : Logged (s.declare name columns) log
  | step {s : Store} {log : StoreLog} (h : Logged s log) (p : Plan)
      (hp : ∀ st ∈ p.statements, st.action.GivesKeys) (now : Nat) :
      Logged (s.carryOut p now).2 (s.logAfter p now log)

variable {s : Store} {log : StoreLog} {name : TableName} {now : Nat}

theorem Logged.reachable (h : s.Logged log) : s.Reachable := by
  induction h with
  | start registry clock => exact .start registry clock
  | declare _ name columns ih => exact .declare ih name columns
  | step _ p _ now ih => exact .step ih p now

/-- Is every table dated by the log? -/
def Dated (s : Store) (log : StoreLog) : Prop := ∀ name, (s.table name).Dated (log.on name)

theorem Dated.execute (h : s.Dated log) {st : Statement} (hst : st.action.GivesKeys)
    {rs : RowSet} (hrs : (s.execute st now).1 = .ok rs) :
    (s.execute st now).2.Dated ((now, st) :: log) := by
  intro name
  rw [table_execute, StoreLog.on_cons]
  by_cases hn : st.target = name
  · subst hn
    rw [if_pos rfl, if_pos rfl]
    exact (h st.target).run hst (Prod.ext hrs rfl)
  · rw [if_neg (Ne.symm hn), if_neg hn]
    exact h name

theorem Dated.stage (h : s.Dated log) {sts : List Statement}
    (hsts : ∀ st ∈ sts, st.action.GivesKeys) (hok : (s.stage now sts).1 = .ok ()) :
    (s.stage now sts).2.Dated (log.add now sts) := by
  induction sts generalizing s log with
  | nil => exact h
  | cons st sts ih =>
    obtain ⟨hst, hsts⟩ := List.forall_mem_cons.1 hsts
    have hexecute {rs : RowSet} (hrs : (s.execute st now).1 = .ok rs) :=
      h.execute hst hrs
    unfold Store.stage at hok ⊢
    split at hok
    · cases hok
    · next hr =>
      rw [if_neg hr]
      rcases he : s.execute st now with ⟨_ | rs, s'⟩
      · rw [he] at hok
        cases hok
      · rw [he] at hok hexecute
        exact ih (hexecute rfl) hsts hok

theorem Dated.of_alike {s' : Store} (h : s.Dated log) (ha : s'.Alike s) : s'.Dated log := by
  intro name
  rw [ha name]
  exact h name

theorem Dated.carryOut (h : s.Dated log) {p : Plan}
    (hp : ∀ st ∈ p.statements, st.action.GivesKeys) (now : Nat) :
    (s.carryOut p now).2.Dated (s.logAfter p now log) := by
  unfold logAfter
  cases hx : (s.carryOut p now).1 with
  | error fault =>
    obtain ⟨_, -, ha⟩ | ⟨⟨rs, hrs⟩, -⟩ := carryOut_cases s p now
    · exact h.of_alike ha
    · rw [hrs] at hx
      cases hx
  | ok rs =>
    cases p with
    | single st => exact h.execute (hp st (List.mem_singleton_self st)) hx
    | batch sts =>
      have hok := carryOut_batch_eq_ok.1 ⟨rs, hx⟩
      have hbatch : (s.executeBatch sts now).1 = .ok () := by rw [executeBatch_fst, hok]
      show (s.executeBatch sts now).2.Dated _
      rw [executeBatch_snd_of_ok hbatch, ← stage_eq_foldl hok]
      exact h.stage hp hok

/-- In a store that plans lead to, every cell has the deadline of the last write of its column. -/
theorem Logged.dated (h : s.Logged log) : s.Dated log := by
  induction h with
  | start registry clock =>
    intro name
    exact Table.dated_of_nil rfl _
  | @declare s log _ other columns ih =>
    intro name
    cases hf : Assoc.find? name s.tables with
    | none =>
      refine Table.dated_of_nil ?_ _
      show ((Assoc.find? name s.tables).getD _).rows = []
      rw [hf]
      rfl
    | some t =>
      have htable : (s.declare other columns).table name = s.table name := by
        show (Assoc.find? name s.tables).getD _ = (Assoc.find? name s.tables).getD _
        rw [hf]
        rfl
      rw [htable]
      exact ih name
  | step _ p hp now ih => exact ih.carryOut hp now

/-! ## Reads in between -/

/-- The store after plans that are carried out one after the other. -/
def afterPlans (s : Store) (ps : List (Plan × Nat)) : Store :=
  ps.foldl (fun s q => (s.carryOut q.1 q.2).2) s

theorem alike_foldl_reads {sts : List Statement} (h : ∀ st ∈ sts, st.isRead = true) (s : Store)
    (now : Nat) : (sts.foldl (fun s st => (s.execute st now).2) s).Alike s := by
  induction sts generalizing s with
  | nil => exact .refl s
  | cons st sts ih =>
    obtain ⟨hst, hsts⟩ := List.forall_mem_cons.1 h
    exact (ih hsts _).trans (alike_execute_of_isRead hst s now)

/-- Plans that only read leave a store that is alike. -/
theorem alike_afterPlans {ps : List (Plan × Nat)}
    (h : ∀ q ∈ ps, ∀ st ∈ q.1.statements, st.isRead = true) (s : Store) :
    (s.afterPlans ps).Alike s := by
  unfold afterPlans
  induction ps generalizing s with
  | nil => exact .refl s
  | cons q ps ih =>
    obtain ⟨hq, hps⟩ := List.forall_mem_cons.1 h
    refine (ih hps _).trans ?_
    obtain ⟨_, -, ha⟩ | ⟨-, he⟩ := carryOut_cases s q.1 q.2
    · exact ha
    · show (s.carryOut q.1 q.2).2.Alike s
      rw [he]
      exact alike_foldl_reads hq s q.2

/-! ## Two reads -/

/-- Is a row that is returned what is left of the one that was returned before: the selected columns
are unchanged or null, and no remaining time is shown that was not? -/
structure Fades (columns : List String) (ttl : TtlProjection) (before after : Record) : Prop where
  column : ∀ c ∈ columns, Assoc.find? c after = Assoc.find? c before ∨
    Assoc.find? c after = some .null
  remaining : ∀ q ∈ ttl, Assoc.find? q.2 before = some .null → Assoc.find? q.2 after = some .null

theorem fades_of_later {columns : List String} {ttl : TtlProjection}
    (h : AliasesDiffer columns ttl) (r : Row) {now later : Nat} (hle : now ≤ later) :
    Fades columns ttl (Table.project columns ttl r now) (Table.project columns ttl r later) where
  column c hc := by
    rw [Table.find?_project_field h r later hc, Table.find?_project_field h r now hc]
    cases hv : r.value? c later with
    | none => exact .inr rfl
    | some v =>
      rw [Row.value?_of_later hle hv]
      exact .inl rfl
  remaining q hq hnull := by
    rw [Table.find?_project_alias h r now hq, Option.some_inj] at hnull
    rw [Table.find?_project_alias h r later hq, Row.remaining_of_later hle hnull]

/-- The seconds of a column are shown exactly if the column is outside the key, has a live value,
and was last written with a time to live. -/
def ShowsEveryEnd (l : KeyLayout) (r : Row) (column : String) (written? : Option (Nat × Option Int))
    (t : Nat) : Prop :=
  r.remaining column t ≠ .null ↔
    l.isKey column = false ∧ (∃ v, r.value? column t = some v) ∧
      ∃ w seconds, written? = some (w, some seconds)

/-- The ends of times to live that operations ask for are shown, if the clock can show twenty years
after each write. -/
theorem showsEveryEnd_of_compiled (hcompiled : ∀ e ∈ log, e.2.IsCompiled)
    (hclock : ∀ e ∈ log, e.1 + maxTtl.toNat * Clock.second ≤ s.clock.latest) {l : KeyLayout}
    {r : Row} {column : String} {t : Nat}
    (h : r.CountsDown s.clock l column ((log.on name).lastWrite? l r.key column) t) :
    ShowsEveryEnd l r column ((log.on name).lastWrite? l r.key column) t := by
  refine h.ne_null_iff.trans (and_congr_right fun _ => and_congr_right fun _ =>
    exists_congr fun w => exists_congr fun seconds => and_iff_left_of_imp fun hw => ?_)
  have hends : ∀ e ∈ log.on name,
      e.1 + maxTtl.toNat * Clock.second ≤ s.clock.latest ∧ e.2.EndsInTime := by
    refine StoreLog.forall_mem_on (P := fun w a =>
      w + maxTtl.toNat * Clock.second ≤ s.clock.latest ∧ a.EndsInTime) (fun e he => ?_) name
    obtain ⟨_, _, _, hc, -, hst⟩ := hcompiled e he
    exact ⟨hclock e he, endsInTime_of_compile hc e.2 hst⟩
  obtain ⟨e, he, rfl, httl⟩ := Log.exists_mem_of_lastWrite? hw
  obtain ⟨hle, hend⟩ := hends e he
  have hseconds : seconds.toNat ≤ maxTtl.toNat := Int.toNat_le_toNat (hend seconds httl)
  exact Nat.le_trans (Nat.add_le_add_left (Nat.mul_le_mul_right _ hseconds) _) hle

/-- A read is repeated at a later instant, and only reads come in between.  It is accepted again,
and the rows that it returns are some of those that it returned, in the same order and with
different keys.  The selected columns of a row are unchanged or null, and no remaining time is shown
that was not.

At every instant that no write comes after, a remaining time is shown exactly if its column is
outside the key and has a live value that was written with a time to live whose end the clock can
show, as it can for all compiled statements if it shows twenty years more.  It is the number of
seconds until then, rounded up, at least one and at most the time to live, and it is counted down
second by second. -/
theorem time_only_removes (h : s.Logged log) {now later : Nat} (hlog : ∀ e ∈ log, e.1 ≤ now)
    (hle : now ≤ later) {c : Criteria} {p : Projection}
    (haliases : AliasesDiffer ((s.table name).selected ⟨p.columns, p.ttl⟩) p.ttl)
    {reads : List (Plan × Nat)} (hreads : ∀ q ∈ reads, ∀ st ∈ q.1.statements, st.isRead = true)
    {rs : RowSet} (hrs : s.read name c p now = .ok rs) :
    let columns := (s.table name).selected ⟨p.columns, p.ttl⟩
    let l := (s.table name).layout
    ∃ (rs' : RowSet) (rows rows' : List Row),
      (s.afterPlans reads).read name c p later = .ok rs' ∧
      rs'.columns = rs.columns ∧
      rows.Sublist (s.table name).rows ∧ rows'.Sublist rows ∧ Table.KeysDiffer rows ∧
      rs.rows = rows.map (fun r => Table.project columns p.ttl r now) ∧
      rs'.rows = rows'.map (fun r => Table.project columns p.ttl r later) ∧
      (∀ r ∈ rows', Fades columns p.ttl (Table.project columns p.ttl r now)
        (Table.project columns p.ttl r later)) ∧
      ∀ r ∈ rows, ∀ q ∈ p.ttl, ∀ t, now ≤ t →
        Assoc.find? q.2 (Table.project columns p.ttl r t) = some (r.remaining q.1 t) ∧
        r.CountsDown s.clock l q.1 ((log.on name).lastWrite? l r.key q.1) t ∧
        ((∀ e ∈ log, e.2.IsCompiled) →
          (∀ e ∈ log, e.1 + maxTtl.toNat * Clock.second ≤ s.clock.latest) →
          ShowsEveryEnd l r q.1 ((log.on name).lastWrite? l r.key q.1) t) := by
  intro columns l
  obtain ⟨hread, ⟨conditions, hc, hallowed⟩, rfl⟩ := read_eq_ok.1 hrs
  have halike := alike_afterPlans hreads s name
  have hdated := h.dated name
  refine ⟨_, (s.table name).matching conditions now, (s.table name).matching conditions later,
    read_eq_ok.2 ⟨?_, ⟨conditions, hc, ?_⟩, rfl⟩, ?_, List.filter_sublist,
    Table.matching_sublist_of_later _ hle _, hdated.keysDiffer.filter _, ?_, ?_, ?_, ?_⟩
  · rwa [halike]
  · rwa [halike]
  · rw [halike]
    rfl
  · rw [Table.matching_eq_live hc]
    rfl
  · rw [halike, Table.matching_eq_live hc]
    rfl
  · exact fun r _ => fades_of_later haliases r hle
  · intro r hr q hq t ht
    have hrow := hdated.dated r (List.mem_of_mem_filter hr)
    rw [h.reachable.clock_table name] at hrow
    have hpast : ∀ e ∈ log.on name, e.1 ≤ t :=
      StoreLog.forall_mem_on (P := fun w _ => w ≤ t) (fun e he => Nat.le_trans (hlog e he) ht) name
    have hdown := hrow.countsDown hpast q.1
    exact ⟨Table.find?_project_alias haliases r t hq, hdown,
      fun hcompiled hclock => showsEveryEnd_of_compiled hcompiled hclock hdown⟩

/-- The insertion of an item for ten seconds. -/
def itemForTen : Statement :=
  ⟨⟨"shop", "items"⟩, .insert [("id", .str "a"), ("n", .ofNat 5)] (some 10)⟩

/-- The read of the number of the item with its remaining time. -/
def readLeft : Projection := ⟨some ["n"], [("n", "left")]⟩

theorem isCompiled_itemForTen : itemForTen.IsCompiled := by
  refine ⟨⟨"shop", "items"⟩, .insert [("id", .str "a"), ("n", .ofNat 5)] 10, .single itemForTen,
    rfl, ?_, List.mem_singleton_self _⟩
  simp [Operation.InsertsMaps, Json.isWellKeyed, Json.fieldsAreWellKeyed, Assoc.keys, Json.ofNat]

theorem logged_itemForTen :
    ((empty .empty .wide).carryOut (.single itemForTen) 0).2.Logged [(0, itemForTen)] := by
  refine .step (.start _ _) (.single itemForTen) (fun st hst => ?_) 0
  obtain rfl := List.mem_singleton.1 hst
  exact Action.givesKeys_insert (by decide) _

/-- One and a half seconds after the insertion nine seconds are shown, and from then on whatever is
left of the ten seconds. -/
theorem time_only_removes_itemForTen :
    let s := ((empty .empty .wide).carryOut (.single itemForTen) 0).2
    let l := (s.table ⟨"shop", "items"⟩).layout
    s.Logged [(0, itemForTen)] ∧
      s.read ⟨"shop", "items"⟩ (.key (.id "a")) readLeft 1500000000 =
        .ok ⟨["n", "left"], [[("n", .ofNat 5), ("left", .ofNat 9)]]⟩ ∧
      ∃ r ∈ (s.table ⟨"shop", "items"⟩).rows, ∀ t, 1500000000 ≤ t →
        (∃ rs' : RowSet, s.read ⟨"shop", "items"⟩ (.key (.id "a")) readLeft t = .ok rs' ∧
          rs'.rows.length ≤ 1) ∧
        ShowsEveryEnd l r "n" ((StoreLog.on [(0, itemForTen)] ⟨"shop", "items"⟩).lastWrite? l r.key
          "n") t := by
  intro s l
  have hread : s.read ⟨"shop", "items"⟩ (.key (.id "a")) readLeft 1500000000 =
      .ok ⟨["n", "left"], [[("n", .ofNat 5), ("left", .ofNat 9)]]⟩ := rfl
  have haliases : AliasesDiffer ["n"] readLeft.ttl := ⟨by decide, by decide⟩
  have hpasses := fun {later : Nat} (hlater : 1500000000 ≤ later) =>
    time_only_removes logged_itemForTen (by decide) hlater haliases
      (fun _ hq => absurd hq List.not_mem_nil) hread
  have hcompiled : ∀ e ∈ [(0, itemForTen)], e.2.IsCompiled :=
    List.forall_mem_singleton.2 isCompiled_itemForTen
  refine ⟨logged_itemForTen, hread, _, List.mem_singleton_self _, fun t ht => ?_⟩
  obtain ⟨rs', rows, rows', hrs', -, hrows, hrows', -, hshown, he, -, hdown⟩ := hpasses ht
  have hlength : rows.length = 1 := by
    have := congrArg List.length hshown
    rw [List.length_map] at this
    exact this.symm
  have hrow : rows = (s.table ⟨"shop", "items"⟩).rows := hrows.eq_of_length hlength
  refine ⟨⟨rs', hrs', ?_⟩, ?_⟩
  · rw [he, List.length_map]
    exact (hrows'.trans hrows).length_le
  · rw [hrow] at hdown
    exact (hdown _ (List.mem_singleton_self _) ("n", "left") (List.mem_singleton_self _) t ht).2.2
      hcompiled (List.forall_mem_singleton.2 (by decide))

/-- The column of the key has a live value that was written with a time to live, but no remaining
time is shown. -/
theorem remaining_of_insertedKey :
    let s := ((empty .empty .wide).carryOut (.single itemForTen) 0).2
    let l := (s.table ⟨"shop", "items"⟩).layout
    s.Logged [(0, itemForTen)] ∧ itemForTen.IsCompiled ∧
      s.read ⟨"shop", "items"⟩ (.key (.id "a")) ⟨some ["n"], [("id", "left")]⟩ 0 =
        .ok ⟨["n", "left"], [[("n", .ofNat 5), ("left", .null)]]⟩ ∧
      ∃ r ∈ (s.table ⟨"shop", "items"⟩).rows, r.key = [.str "a"] ∧
        ¬ (r.remaining "id" 0 ≠ .null ↔ (∃ v, r.value? "id" 0 = some v) ∧
          ∃ w seconds, (StoreLog.on [(0, itemForTen)] ⟨"shop", "items"⟩).lastWrite? l r.key "id" =
            some (w, some seconds)) := by
  intro s l
  refine ⟨logged_itemForTen, isCompiled_itemForTen, rfl, _, List.mem_singleton_self _, rfl, ?_⟩
  exact fun h => h.2 ⟨⟨_, rfl⟩, 0, 10, rfl⟩ rfl

end Store

end Polystore
