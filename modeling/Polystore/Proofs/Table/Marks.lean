import Polystore.Proofs.Table.MapEntries

/-!
# Tables that differ in a mark

A row is marked by an insertion.  A marked row is seen while the mark lasts, and an unmarked one
while a column outside its key has a live value.  So if two tables are the same but for the mark of
one row, which lasts for good in the first one, a read returns the same rows of both, except that it
may miss that row in the second one:

    t.SameButMark k u →
      MayMiss (t.ShowsBare k selection now) (t.select selection conditions now)
        (u.select selection conditions now)                          (select_of_sameButMark)
-/

namespace Polystore

/-! ## Rows with the same cells -/

/-- Have the rows one key and, column by column, the same cells? -/
structure Row.SameCells (a b : Row) : Prop where
  key : a.key = b.key
  cell : ∀ c, Assoc.find? c a.cells = Assoc.find? c b.cells

namespace Row.SameCells

variable {a b : Row} (h : a.SameCells b) (now : Nat)
include h

theorem value? (c : String) : a.value? c now = b.value? c now := by
  rw [Row.value?, Row.value?, cell?_congr (h.cell c)]

theorem project (columns : List String) (ttl : TtlProjection) :
    Table.project columns ttl a now = Table.project columns ttl b now := by
  have hcell (c : String) : a.cell? c now = b.cell? c now := cell?_congr (h.cell c)
  simp only [Table.project, h.value? now, hcell]

theorem all_holds (conditions : List Condition) :
    (conditions.all fun d => d.holds a now) = conditions.all fun d => d.holds b now := by
  simp only [Condition.holds, h.value? now]

end Row.SameCells

/-- A row that is not visible has no live value outside its key. -/
theorem Row.value?_of_not_isVisible {l : KeyLayout} {r : Row} {now : Nat}
    (hr : r.isVisible l now = false) {c : String} (hc : l.isKey c = false) :
    r.value? c now = none := by
  rw [isVisible, Bool.or_eq_false_iff, List.any_eq_false] at hr
  cases hv : r.cell? c now with
  | none => rw [value?, hv, Option.map_none]
  | some cell =>
    obtain ⟨hf, hl⟩ := Option.filter_eq_some_iff.1 hv
    refine absurd ?_ (hr.2 _ (Assoc.mem_of_find?_eq_some hf))
    simp [hc, hl]

namespace Table

variable {t u : Table} {k : List Json} {now : Nat}

/-! ## Tables that differ in a mark -/

/-- Are the tables the same, except that the first one marks the row with a key for good, and the
second one may mark it otherwise or not at all? -/
structure SameButMark (t : Table) (k : List Json) (u : Table) : Prop where
  layout : t.layout = u.layout
  declared : t.declared = u.declared
  columns : t.columns = u.columns
  rows : ∃ before a b after, t.rows = before ++ a :: after ∧ u.rows = before ++ b :: after ∧
    a.SameCells b ∧ Json.sameItems a.key k = true ∧ a.inserted = some .never

/-- The answers of two reads, the second of which may miss one row of the first one. -/
inductive MayMiss {ε : Type} (P : Record → Prop) :
    Except ε RowSet → Except ε RowSet → Prop
  | same (result : Except ε RowSet) : MayMiss P result result
  | one {columns : List String} {before after : List Record} {row : Record} (h : P row) :
      MayMiss P (.ok ⟨columns, before ++ row :: after⟩) (.ok ⟨columns, before ++ after⟩)

theorem MayMiss.mono {ε : Type} {P Q : Record → Prop} {x y : Except ε RowSet}
    (h : MayMiss P x y) (hPQ : ∀ row, P row → Q row) : MayMiss Q x y := by
  cases h with
  | same => exact .same _
  | one hrow => exact .one (hPQ _ hrow)

theorem MayMiss.mapError {ε ε' : Type} {P : Record → Prop} {x y : Except ε RowSet}
    (h : MayMiss P x y) (f : ε → ε') : MayMiss P (x.mapError f) (y.mapError f) := by
  cases h with
  | same => exact .same _
  | one hrow => exact .one hrow

/-- Is it what a read shows of the row with a key, while no column outside the key has a live
value? -/
def ShowsBare (t : Table) (k : List Json) (selection : Selection) (now : Nat) (row : Record) :
    Prop :=
  ∃ r ∈ t.rows, Json.sameItems r.key k = true ∧
    (∀ c, t.layout.isKey c = false → r.value? c now = none) ∧
    row = project (t.selected selection) selection.ttl r now

theorem selected_congr (h : t.columns = u.columns) (selection : Selection) :
    t.selected selection = u.selected selection := by
  unfold selected
  rw [h]

/-- Of the rows that match conditions, the second table may lack the one with the key, if that has
no live value outside the key; otherwise they are shown alike. -/
theorem matching_of_sameButMark (h : t.SameButMark k u) (conditions : List Condition) (now : Nat) :
    (∀ columns ttl, (t.matching conditions now).map (fun r => project columns ttl r now) =
      (u.matching conditions now).map fun r => project columns ttl r now) ∨
    ∃ before a after, t.matching conditions now = before ++ a :: after ∧
      u.matching conditions now = before ++ after ∧ a ∈ t.rows ∧
      Json.sameItems a.key k = true ∧ ∀ c, t.layout.isKey c = false → a.value? c now = none := by
  obtain ⟨before, a, b, after, ht, hu, hab, hk, hmark⟩ := h.rows
  have ha : a.isVisible t.layout now = true := by
    rw [Row.isVisible, hmark]
    rfl
  unfold matching
  rw [ht, hu, ← h.layout]
  simp only [List.filter_append, List.filter_cons, ha, Bool.true_and, hab.all_holds now]
  by_cases hc : (conditions.all fun d => d.holds b now) = true
  · cases hb : b.isVisible t.layout now with
    | true =>
      refine .inl fun columns ttl => ?_
      simp [hc, hab.project now]
    | false =>
      refine .inr ⟨_, a, _, by rw [if_pos hc], by simp, by simp, hk, fun c hkey => ?_⟩
      rw [hab.value? now]
      exact Row.value?_of_not_isVisible hb hkey
  · refine .inl fun columns ttl => ?_
    simp [hc]

/-- A read of the second table may miss the row with the key, and only if that has no live value
outside the key. -/
theorem select_of_sameButMark (h : t.SameButMark k u) (selection : Selection)
    (conditions : List Condition) (now : Nat) :
    MayMiss (t.ShowsBare k selection now) (t.select selection conditions now)
      (u.select selection conditions now) := by
  simp only [select, checkColumns_congr h.declared]
  rw [← selected_congr h.columns selection]
  cases u.checkColumns (conditions.map Condition.column) with
  | error fault => exact .same _
  | ok _ =>
    cases u.checkColumns (t.selected selection) with
    | error fault => exact .same _
    | ok _ =>
      cases u.checkColumns (selection.ttl.map Prod.fst) with
      | error fault => exact .same _
      | ok _ =>
        show MayMiss _ (.ok ⟨_, (t.matching conditions now).map _⟩)
          (.ok ⟨_, (u.matching conditions now).map _⟩)
        obtain he | ⟨before, a, after, ht, hu, ha, hk, hbare⟩ :=
          matching_of_sameButMark h conditions now
        · rw [he]
          exact .same _
        · rw [ht, hu, List.map_append, List.map_cons, List.map_append]
          exact .one ⟨a, ha, hk, hbare, rfl⟩

end Table

end Polystore
