import Polystore.Access.TableCall
import Polystore.Proofs.Filter.Reading
import Polystore.Proofs.Key.Splitting
import Polystore.Proofs.WholeNumbers

/-!
# Reads by a key

A read by a composite key, a read by the filter that asks for equality with the key, with or without
ranges, and a read by the fields of the key all ask for the same rows.  The key asks for its columns
in order, and so does the filter, since a key that is built holds no column twice
(`Built.conditions_filter`):

    key.filter.conditions allowBounds = (RowKey.composite key).conditions

Hence the reads are one statement, and are refused alike if the key itself is accepted
(`reads_agree`).
-/

namespace Polystore

namespace CompositeKey

variable {key : CompositeKey}

/-- Is the key one that is built: column by column, from a record, or both? -/
inductive Built : CompositeKey → Prop
  | empty : Built .empty
  | set {key : CompositeKey} (h : Built key) (column : String) (v : Json) :
      Built (key.set column v)
  | ofRecord {r : Record} {key : CompositeKey} (hr : (Assoc.keys r).Nodup)
      (h : CompositeKey.ofRecord r = .ok key) : Built key

/-- A key that is built holds no column twice. -/
theorem Built.nodup (h : key.Built) : (Assoc.keys key.columns).Nodup := by
  induction h with
  | empty => exact List.nodup_nil
  | set h column v ih => exact Assoc.nodup_keys_put column v ih
  | ofRecord hr h =>
    rw [CompositeKey.ofRecord, Outcome.then_eq_ok] at h
    obtain rfl := Outcome.pure_eq_ok.1 h.2
    exact hr

/-! ## The filter of a key -/

/-- The entries that ask for equality with columns. -/
def equalEntries (columns : List (String × Json)) : List (String × Criterion) :=
  columns.map fun p => (p.1, .scalar p.2)

theorem keys_equalEntries (columns : List (String × Json)) :
    Assoc.keys (equalEntries columns) = Assoc.keys columns := by
  simp [equalEntries, Assoc.keys]

theorem foldl_set (columns : List (String × Json)) (f : Filter) :
    columns.foldl (fun f p => f.set p.1 (.scalar p.2)) f =
      { f with entries := Assoc.putAll f.entries (equalEntries columns) } := by
  induction columns generalizing f with
  | nil => rfl
  | cons p columns ih =>
    rw [List.foldl_cons, ih]
    rfl

theorem filter_of_nodup (h : (Assoc.keys key.columns).Nodup) :
    key.filter = ⟨equalEntries key.columns, []⟩ := by
  rw [← keys_equalEntries] at h
  rw [filter, foldl_set]
  show Filter.mk (Assoc.ofList (equalEntries key.columns)) [] = _
  rw [Assoc.ofList_of_nodup h]

/-- Entries that ask for equality are refused like the names of a key, for the first name that is no
identifier. -/
theorem entryConditions_equalEntries (allowBounds : Bool) (columns : List (String × Json)) :
    Filter.entryConditions allowBounds (equalEntries columns) = (do
      Identifier.checkAll (columns.map Prod.fst)
      pure (columns.map fun p => ⟨p.1, .equals p.2⟩)) := by
  induction columns with
  | nil => rfl
  | cons p columns ih =>
    have hnames : Identifier.checkAll ((p :: columns).map Prod.fst) = (do
        Identifier.check p.1
        Identifier.checkAll (columns.map Prod.fst)) := rfl
    show (Identifier.check p.1 >>= fun _ =>
      Filter.entryConditions allowBounds (equalEntries columns) >>= _) = _
    rw [ih, hnames]
    cases Identifier.check p.1 with
    | error e => rfl
    | ok _ =>
      cases Identifier.checkAll (columns.map Prod.fst) with
      | error e => rfl
      | ok _ => rfl

/-- The filter of a key asks for what the key asks for, whether ranges are allowed or not. -/
theorem Built.conditions_filter (h : key.Built) (allowBounds : Bool) :
    key.filter.conditions allowBounds = (RowKey.composite key).conditions := by
  rw [filter_of_nodup h.nodup]
  exact entryConditions_equalEntries allowBounds key.columns

/-! ## The fields of a key as a filter -/

theorem ofJson_of_isScalar (field : String) {v : Json} (hv : v.isScalar = true) :
    Criterion.ofJson field v = .ok (.scalar v) := by
  cases v with
  | bool b => rfl
  | num n => rfl
  | str s => rfl
  | _ => cases hv

theorem readEntries_eq_ok {columns : List (String × Json)} {f : Filter}
    (hn : (Assoc.keys f.entries ++ Assoc.keys columns).Nodup)
    (hc : ∀ p ∈ columns, Identifier.holds p.1 = true ∧ p.2.isScalar = true) :
    f.readEntries columns = .ok { f with entries := f.entries ++ equalEntries columns } := by
  induction columns generalizing f with
  | nil => simp [Filter.readEntries, equalEntries, pure, Except.pure]
  | cons p columns ih =>
    obtain ⟨⟨hp, hv⟩, hc⟩ := List.forall_mem_cons.1 hc
    have hnew : p.1 ∉ Assoc.keys f.entries := fun h =>
      (List.nodup_append.1 hn).2.2 _ h _ List.mem_cons_self rfl
    have hpush : f.pushed p.1 (.scalar p.2) = .ok { f with entries := f.entries ++ [_] } :=
      Filter.pushed_eq_ok.2 ⟨⟨Identifier.isBlank_eq_false hp, hnew⟩, rfl⟩
    rw [Filter.readEntries, if_neg (Identifier.ne_groupKey hp), ofJson_of_isScalar p.1 hv]
    show (f.pushed p.1 (.scalar p.2) >>= fun f => f.readEntries columns) = _
    rw [hpush]
    show Filter.readEntries { f with entries := f.entries ++ [(p.1, .scalar p.2)] } columns = _
    rw [ih _ hc]
    · simp [equalEntries]
    · simpa [Assoc.keys] using hn

/-- Read back from its fields, a key whose columns are identifiers is its filter. -/
theorem Built.ofRecord_columns (h : key.Built)
    (hc : ∀ p ∈ key.columns, Identifier.holds p.1 = true ∧ p.2.isScalar = true) :
    Filter.ofRecord key.columns = .ok key.filter := by
  have hn : (Assoc.keys Filter.empty.entries ++ Assoc.keys key.columns).Nodup := h.nodup
  rw [filter_of_nodup h.nodup]
  exact readEntries_eq_ok hn hc

end CompositeKey

/-! ## One statement -/

/-- Reads whose criteria ask for the same are turned into the same statement, or refused alike. -/
theorem compile_select_congr {c c' : Criteria} (h : c.conditions = c'.conditions) (t : TableName)
    (p : Projection) : compile t (.select c p) = compile t (.select c' p) := by
  have hselect : compileSelect t c p = compileSelect t c' p := by
    simp only [compileSelect, h]
  show (do
    t.check
    return Plan.single (← compileSelect t c p)) = _
  rw [hselect]
  rfl

section
variable {key : CompositeKey} (hkey : key.Built) (hcheck : key.check = .ok ())
include hkey hcheck

theorem CompositeKey.Built.conditions_key (allowBounds : Bool) :
    key.filter.conditions allowBounds = (Criteria.key (.composite key)).conditions := by
  rw [hkey.conditions_filter, Criteria.conditions, RowKey.check, hcheck]
  rfl

theorem compile_properties_filter (t : TableName) (p : Projection) :
    compile t (.select (.properties key.filter) p) =
      compile t (.select (.key (.composite key)) p) :=
  compile_select_congr (c := .properties key.filter) (hkey.conditions_key hcheck false) t p

theorem compile_keyRange_filter (t : TableName) (p : Projection) :
    compile t (.select (.keyRange key.filter) p) =
      compile t (.select (.key (.composite key)) p) :=
  compile_select_congr (c := .keyRange key.filter) (hkey.conditions_key hcheck true) t p

/-- A partition is read by the filter of its key. -/
theorem readPartition_of_built (hnames : AreIdentifiers (Assoc.keys key.columns))
    (layout : KeyLayout) :
    Filter.ofRecord key.columns = .ok key.filter ∧
      (TableCall.readPartition key.columns).toOperation layout =
        .ok (.select (.properties key.filter) .all) := by
  obtain ⟨hne, hcolumns⟩ := CompositeKey.check_eq_ok.1 hcheck
  have hof : Filter.ofRecord key.columns = .ok key.filter :=
    hkey.ofRecord_columns fun p hp => ⟨hnames p.1 (List.mem_map_of_mem hp), (hcolumns p hp).2⟩
  refine ⟨hof, ?_⟩
  rw [TableCall.toOperation, if_neg (by rwa [List.isEmpty_iff])]
  show (Filter.ofRecord key.columns >>= _) = _
  rw [hof]
  rfl

end

/-- All reads by a composite key are one statement.  If the read by the key is accepted, so are the
reads by its filter, with or without ranges, and by the fields of the key, as a partition is read.
If the key itself is accepted but the read by it is refused, the reads by its filter are refused for
the same reason. -/
theorem reads_agree {key : CompositeKey} (hkey : key.Built) (t : TableName) (p : Projection) :
    (∀ plan, compile t (.select (.key (.composite key)) p) = .ok plan →
      compile t (.select (.properties key.filter) p) = .ok plan ∧
      compile t (.select (.keyRange key.filter) p) = .ok plan ∧
      ∃ f, Filter.ofRecord key.columns = .ok f ∧
        compile t (.select (.properties f) p) = .ok plan ∧
        ∀ layout, (TableCall.readPartition key.columns).toOperation layout =
          .ok (.select (.properties f) .all)) ∧
    ∀ e, key.check = .ok () → compile t (.select (.key (.composite key)) p) = .error e →
      compile t (.select (.properties key.filter) p) = .error e ∧
      compile t (.select (.keyRange key.filter) p) = .error e := by
  constructor
  · intro plan h
    obtain ⟨-, conditions, hconditions, -⟩ := compile_select_eq_ok.1 h
    obtain ⟨hcheck, hconditions⟩ := Outcome.then_eq_ok.1 hconditions
    have hnames : AreIdentifiers (Assoc.keys key.columns) := by
      rw [RowKey.conditions, Outcome.then_eq_ok] at hconditions
      exact Identifier.checkAll_eq_ok.1 hconditions.1
    have hpartition := readPartition_of_built hkey hcheck hnames
    rw [← compile_properties_filter hkey hcheck] at h
    refine ⟨h, ?_, key.filter, (hpartition .byId).1, h, fun layout => (hpartition layout).2⟩
    rw [compile_keyRange_filter hkey hcheck, ← compile_properties_filter hkey hcheck, h]
  · intro e hcheck h
    rw [compile_properties_filter hkey hcheck, compile_keyRange_filter hkey hcheck]
    exact ⟨h, h⟩

/-- The key of a visit, with a day that is corrected. -/
def visitKey : CompositeKey :=
  ((CompositeKey.empty.set "day" (.ofNat 2)).set "who" (.str "ann")).set "day" (.ofNat 3)

theorem reads_agree_visit :
    visitKey.Built ∧
      compile ⟨"shop", "visits"⟩ (.select (.keyRange visitKey.filter) .all) =
        .ok (.single ⟨⟨"shop", "visits"⟩, .select ⟨none, []⟩
          [⟨"day", .equals (.ofNat 3)⟩, ⟨"who", .equals (.str "ann")⟩]⟩) := by
  have hbuilt : visitKey.Built := .set (.set (.set .empty _ _) _ _) _ _
  obtain ⟨hagree, -⟩ := reads_agree hbuilt ⟨"shop", "visits"⟩ .all
  exact ⟨hbuilt, (hagree _ rfl).2.1⟩

end Polystore
