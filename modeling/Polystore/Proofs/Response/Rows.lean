import Mathlib.Data.List.Nodup
import Polystore.Expiry
import Polystore.Proofs.Table.Rows
import Polystore.Response.Rows

/-!
# Records of rows

What is left of a row once its columns are renamed.  Without a mapping the record has the columns of
the read in the order in which they first come.  A value moves out of the row with its first
mention, and of several values under one name the last one counts, so a column that is read twice is
null in the record:

    find? c (recordOfRow [] columns row) =
      if c ∈ columns then some (if columns.count c = 1 then (find? c row).getD null else null)
      else none                                                              (find?_recordOfRow)

With a mapping that keeps the columns apart the record has one field for each column, in their
order:

    m.KeepsApart columns →
      recordOfRow m columns row = columns.map fun c => (logical m c, (find? c row).getD null)
                                                                   (KeepsApart.recordOfRow_eq)
-/

namespace Polystore

/-! ## Values taken out of a row -/

theorem logical_nil (c : String) : ColumnMapping.logical [] c = c := rfl

theorem length_takeColumns (row : Record) (columns : List String) :
    (takeColumns row columns).length = columns.length := by
  induction columns generalizing row with
  | nil => rfl
  | cons c cs ih => rw [takeColumns, List.length_cons, List.length_cons, ih]

theorem recordOfRow_nil (columns : List String) (row : Record) :
    recordOfRow [] columns row = Assoc.ofList (columns.zip (takeColumns row columns)) := by
  have hnames : columns.map (ColumnMapping.logical []) = columns := by
    rw [List.map_congr_left fun c _ => logical_nil c, List.map_id']
  rw [recordOfRow, hnames]

/-- The value of a name is what was there before, unless the name is a column.  Then it is the value
that the row has, if the column is taken once, and null otherwise. -/
theorem find?_putAll_takeColumns (columns : List String) (row before : Record) (c : String) :
    Assoc.find? c (Assoc.putAll before (columns.zip (takeColumns row columns))) =
      if c ∈ columns then
        some (if columns.count c = 1 then (Assoc.find? c row).getD .null else .null)
      else Assoc.find? c before := by
  induction columns generalizing row before with
  | nil => rfl
  | cons d cs ih =>
    have hstep : Assoc.putAll before ((d :: cs).zip (takeColumns row (d :: cs))) =
        Assoc.putAll (Assoc.put d ((Assoc.find? d row).getD .null) before)
          (cs.zip (takeColumns (Assoc.erase d row) cs)) := rfl
    rw [hstep, ih, Assoc.find?_erase, Assoc.find?_put]
    by_cases hc : c ∈ cs
    · have hpos : 0 < cs.count c := List.count_pos_iff.2 hc
      rw [if_pos hc, if_pos (List.mem_cons_of_mem d hc)]
      by_cases hcd : c = d
      · -- the first mention has taken the value
        subst hcd
        have hmany : (c :: cs).count c ≠ 1 := by
          rw [List.count_cons_self]
          omega
        rw [if_neg hmany, if_pos rfl]
        split
        · rfl
        · rfl
      · rw [List.count_cons_of_ne (Ne.symm hcd), if_neg hcd]
    · have hzero : cs.count c = 0 := List.count_eq_zero.2 hc
      rw [if_neg hc]
      by_cases hcd : c = d
      · subst hcd
        have hone : (c :: cs).count c = 1 := by
          rw [List.count_cons_self, hzero]
        rw [if_pos rfl, if_pos List.mem_cons_self, if_pos hone]
      · have hnot : c ∉ d :: cs := by
          rw [List.mem_cons, not_or]
          exact ⟨hcd, hc⟩
        rw [if_neg hcd, if_neg hnot]

theorem find?_recordOfRow (columns : List String) (row : Record) (c : String) :
    Assoc.find? c (recordOfRow [] columns row) =
      if c ∈ columns then
        some (if columns.count c = 1 then (Assoc.find? c row).getD .null else .null)
      else none := by
  rw [recordOfRow_nil]
  exact find?_putAll_takeColumns columns row [] c

theorem keys_recordOfRow (columns : List String) (row : Record) :
    Assoc.keys (recordOfRow [] columns row) = columns.eraseDups := by
  have hzip : Assoc.keys (columns.zip (takeColumns row columns)) = columns :=
    List.map_fst_zip (Nat.le_of_eq (length_takeColumns row columns).symm)
  have hnone : (Assoc.keys ([] : Record)).Nodup := List.nodup_nil
  rw [recordOfRow_nil, Assoc.ofList, Assoc.keys_putAll hnone, hzip]
  rfl

/-! ## Renamed columns -/

/-- Are the columns different, and their logical names too? -/
def ColumnMapping.KeepsApart (m : ColumnMapping) (columns : List String) : Prop :=
  columns.Nodup ∧ (columns.map (ColumnMapping.logical m)).Nodup

/-- From a row a value is taken for each of several different columns. -/
theorem takeColumns_of_nodup {columns : List String} (h : columns.Nodup) (row : Record) :
    takeColumns row columns = columns.map fun c => (Assoc.find? c row).getD .null := by
  induction columns generalizing row with
  | nil => rfl
  | cons c cs ih =>
    obtain ⟨hc, hcs⟩ := List.nodup_cons.1 h
    rw [takeColumns, ih hcs, List.map_cons]
    refine congrArg (_ :: ·) (List.map_congr_left fun d hd => ?_)
    rw [Assoc.find?_erase, if_neg (ne_of_mem_of_not_mem hd hc)]

/-- The record under other names for its fields. -/
def Record.renamed (f : String → String) (r : Record) : Record := r.map fun p => (f p.1, p.2)

/-- The response with renamed records. -/
def Response.renamed (f : String → String) (r : Response) : Response :=
  { r with records := r.records.map (Record.renamed f) }

namespace ColumnMapping.KeepsApart

variable {m : ColumnMapping} {columns : List String}

theorem recordOfRow_eq (h : m.KeepsApart columns) (row : Record) :
    recordOfRow m columns row =
      columns.map fun c => (logical m c, (Assoc.find? c row).getD .null) := by
  have hzip : (columns.map (logical m)).zip (takeColumns row columns) =
      columns.map fun c => (logical m c, (Assoc.find? c row).getD .null) := by
    rw [takeColumns_of_nodup h.1, List.zip_map']
  have hkeys : Assoc.keys (columns.map fun c => (logical m c, (Assoc.find? c row).getD .null)) =
      columns.map (logical m) := by
    rw [Assoc.keys, List.map_map]
    rfl
  rw [recordOfRow, hzip, Assoc.ofList_of_nodup (hkeys ▸ h.2)]

/-- Without a mapping columns keep their names. -/
theorem empty (h : columns.Nodup) : ColumnMapping.KeepsApart [] columns := by
  refine ⟨h, ?_⟩
  rw [List.map_congr_left fun c _ => logical_nil c, List.map_id']
  exact h

/-- A mapping that keeps columns apart renames the fields of the record and nothing else. -/
theorem recordOfRow_renamed (h : m.KeepsApart columns) (row : Record) :
    recordOfRow m columns row = (recordOfRow [] columns row).renamed (logical m) := by
  rw [h.recordOfRow_eq, (empty h.1).recordOfRow_eq, Record.renamed, List.map_map]
  rfl

variable {rs : RowSet}

theorem ofRows_eq (h : m.KeepsApart rs.columns) :
    Response.ofRows m rs =
      ⟨rs.rows.map fun row => rs.columns.map fun c =>
        (logical m c, (Assoc.find? c row).getD .null), rs.rows.length, none⟩ := by
  rw [Response.ofRows, Response.ofRecords, List.length_map,
    List.map_congr_left fun row _ => h.recordOfRow_eq row]

theorem ofRows_renamed (h : m.KeepsApart rs.columns) :
    Response.ofRows m rs = (Response.ofRows [] rs).renamed (logical m) := by
  rw [Response.ofRows, Response.ofRows, Response.ofRecords, Response.ofRecords, Response.renamed,
    List.map_map, List.length_map, List.length_map,
    List.map_congr_left fun row _ => h.recordOfRow_renamed row]
  rfl

end ColumnMapping.KeepsApart

/-! ## Projected rows -/

/-- The remaining seconds of a column; null if it has no live value or never runs out. -/
def Row.remaining (r : Row) (column : String) (now : Nat) : Json :=
  match r.cell? column now with
  | some c => c.deadline.remaining now
  | none => .null

/-- Are the aliases different from each other and from the fields? -/
def AliasesDiffer (fields : List String) (ttl : TtlProjection) : Prop :=
  (ttl.map Prod.snd).Nodup ∧ ∀ name ∈ ttl.map Prod.snd, name ∉ fields

theorem AliasesDiffer.eraseDups_append {fields : List String} {ttl : TtlProjection}
    (h : AliasesDiffer fields ttl) :
    (fields ++ ttl.map Prod.snd).eraseDups = fields.eraseDups ++ ttl.map Prod.snd := by
  have hrest : (ttl.map Prod.snd).removeAll fields = ttl.map Prod.snd := by
    refine List.filter_eq_self.2 fun name hn => ?_
    simpa using h.2 name hn
  rw [List.eraseDups_append, hrest, Assoc.eraseDups_of_nodup h.1]

namespace Table

/-- A row as it is returned, with remaining seconds under their aliases. -/
theorem project_eq (fields : List String) (ttl : TtlProjection) (r : Row) (now : Nat) :
    project fields ttl r now =
      Assoc.putAll (project fields [] r now) (ttl.map fun p => (p.2, r.remaining p.1 now)) := by
  rw [project, project, List.map_nil, List.append_nil, Assoc.ofList, Assoc.ofList,
    Assoc.putAll_append]
  rfl

section
variable {fields : List String} {ttl : TtlProjection} (h : AliasesDiffer fields ttl) (r : Row)
  (now : Nat)
include h

theorem find?_project_field {c : String} (hc : c ∈ fields) :
    Assoc.find? c (project fields ttl r now) = some ((r.value? c now).getD .null) := by
  have hnot : Assoc.find? c (ttl.map fun p => (p.2, r.remaining p.1 now)).reverse = none := by
    rw [Assoc.find?_eq_none_iff]
    intro hm
    rw [Assoc.keys, List.map_reverse, List.mem_reverse, List.map_map] at hm
    exact h.2 c hm hc
  rw [project_eq, Assoc.find?_putAll, hnot, Option.none_or, find?_project, if_pos hc]

theorem find?_project_alias {p : String × String} (hp : p ∈ ttl) :
    Assoc.find? p.2 (project fields ttl r now) = some (r.remaining p.1 now) := by
  have hkeys : (Assoc.keys (ttl.map fun p => (p.2, r.remaining p.1 now)).reverse).Nodup := by
    rw [Assoc.keys, List.map_reverse, List.nodup_reverse, List.map_map]
    exact h.1
  have hm : (p.2, r.remaining p.1 now) ∈ (ttl.map fun p => (p.2, r.remaining p.1 now)).reverse :=
    List.mem_reverse.2 (List.mem_map.2 ⟨p, hp, rfl⟩)
  rw [project_eq, Assoc.find?_putAll, Assoc.find?_eq_some_of_mem hkeys hm, Option.some_or]

end

end Table

/-! ## Records of projected rows -/

/-- Does a record tell of a row what a projection asks for?  A field that is listed once has its
live value, or null if there is none; one that is listed several times is null. -/
structure TellsOf (fields : List String) (ttl : TtlProjection) (now : Nat) (r : Row)
    (record : Record) : Prop where
  keys : Assoc.keys record = fields.eraseDups ++ ttl.map Prod.snd
  field : ∀ c ∈ fields, Assoc.find? c record =
    some (if fields.count c = 1 then (r.value? c now).getD .null else .null)
  remaining : ∀ p ∈ ttl, Assoc.find? p.2 record = some (r.remaining p.1 now)

/-- Of a list without repetitions every field has its live value. -/
theorem TellsOf.field_of_nodup {fields : List String} {ttl : TtlProjection} {now : Nat} {r : Row}
    {record : Record} (h : TellsOf fields ttl now r record) (hn : fields.Nodup) {c : String}
    (hc : c ∈ fields) : Assoc.find? c record = some ((r.value? c now).getD .null) := by
  rw [h.field c hc, if_pos (List.count_eq_one_of_mem hn hc)]

theorem tellsOf_recordOfRow {fields : List String} {ttl : TtlProjection}
    (h : AliasesDiffer fields ttl) (r : Row) (now : Nat) :
    TellsOf fields ttl now r
      (recordOfRow [] (fields ++ ttl.map Prod.snd) (Table.project fields ttl r now)) where
  keys := by rw [keys_recordOfRow, h.eraseDups_append]
  field c hc := by
    have hnot : c ∉ ttl.map Prod.snd := fun hm => h.2 c hm hc
    have hcount : (fields ++ ttl.map Prod.snd).count c = fields.count c := by
      rw [List.count_append, List.count_eq_zero.2 hnot, Nat.add_zero]
    rw [find?_recordOfRow, if_pos (List.mem_append_left _ hc), hcount,
      Table.find?_project_field h r now hc]
    rfl
  remaining p hp := by
    have hm : p.2 ∈ ttl.map Prod.snd := List.mem_map_of_mem hp
    have hcount : (fields ++ ttl.map Prod.snd).count p.2 = 1 := by
      rw [List.count_append, List.count_eq_zero.2 (h.2 p.2 hm), Nat.zero_add]
      exact List.count_eq_one_of_mem h.1 hm
    rw [find?_recordOfRow, if_pos (List.mem_append_right _ hm), if_pos hcount,
      Table.find?_project_alias h r now hp]
    rfl

end Polystore
