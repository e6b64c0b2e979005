import Polystore.Proofs.Access.ProjectedReads
import Polystore.Proofs.Agreement
import Polystore.Proofs.Decimal.Values
import Polystore.Proofs.Search.Ranges

/-!
# Ranges of whole numbers

Both backends compare whole numbers through their nearest doubles.  A bound therefore holds of the
rounded numbers: of the numbers themselves all four bounds are decided rightly as long as rounding
does not make two different numbers equal, and it does so for numbers of more than 53 binary digits
only.

    row or document is found by a bound ↔ b.Relates (rounded x) (rounded y)
    (∀ b, b.Relates (rounded x) (rounded y) ↔ b.Relates x y) ↔
      (rounded x = rounded y → x = y)                                      (range_of_wholeNumbers)
-/

namespace Polystore

open Decimal (rounded)

/-! ## Bounds -/

namespace Bound

/-- The order of whole numbers that a bound asks for. -/
def Relates : Bound → Int → Int → Prop
  | above, x, y => y < x
  | atLeast, x, y => y ≤ x
  | below, x, y => x < y
  | atMost, x, y => x ≤ y

theorem admits_compare_iff (b : Bound) (x y : Int) :
    b.admits (compare x y) = true ↔ b.Relates x y := by
  rcases Int.lt_trichotomy x y with h | rfl | h
  · rw [Int.compare_eq_lt.2 h]
    cases b <;> simp [admits, Relates] <;> omega
  · rw [Int.compare_eq_eq.2 rfl]
    cases b <;> simp [admits, Relates]
  · rw [Int.compare_eq_gt.2 h]
    cases b <;> simp [admits, Relates] <;> omega

/-- A bound holds of a whole number if it holds of the rounded numbers. -/
theorem isMetBy_ofInt_iff (b : Bound) (x y : Int) :
    b.isMetBy (.ofInt y) (.ofInt x) = true ↔ b.Relates (rounded x) (rounded y) := by
  show b.admits (compare (Decimal.orderOfInt x) (Decimal.orderOfInt y)) = true ↔ _
  rw [Decimal.compare_orderOfInt, admits_compare_iff]

/-- Rounding changes none of the bounds exactly if it does not make the numbers equal. -/
theorem forall_relates_rounded_iff (x y : Int) :
    (∀ b : Bound, b.Relates (rounded x) (rounded y) ↔ b.Relates x y) ↔
      (rounded x = rounded y → x = y) := by
  constructor
  · intro h heq
    have hle := (h atMost).1 (Int.le_of_eq heq)
    have hge := (h atLeast).1 (Int.le_of_eq heq.symm)
    exact Int.le_antisymm hle hge
  · intro h b
    rw [← admits_compare_iff, ← admits_compare_iff, (Decimal.compare_rounded_iff x y).2 h]

/-- The operators that hold one bound. -/
theorem ofJson_symbol (b : Bound) (field : String) (y : Int) :
    Criterion.ofJson field (.obj [(b.symbol, .ofInt y)]) =
      .ok (.operators ⟨[(b, .ofInt y)], []⟩) := by
  cases b <;> rfl

end Bound

/-! ## Both backends -/

section

variable {s : Store} {name : TableName} {row : Row} {column : String} {x : Int}

theorem Identifier.ne_groupKey (h : Identifier.holds column = true) : column ≠ Filter.groupKey := by
  rintro rfl
  exact absurd h (by decide)

/-- A range read with one bound. -/
theorem Store.mem_read_bound (hs : s.Reachable) (hname : name.check = .ok ())
    (hcolumn : Identifier.holds column = true) (hallowed : (s.table name).allows column = true)
    (hrow : row ∈ (s.table name).rows) {now : Nat}
    (hvisible : row.isVisible (s.table name).layout now = true)
    (hvalue : row.value? column now = some (.ofInt x)) (b : Bound) (y : Int) :
    ∃ f rs, Filter.ofJson (.obj [(column, .obj [(b.symbol, .ofInt y)])]) = .ok f ∧
      s.read name (.keyRange f) .all now = .ok rs ∧
      (Table.project (s.table name).columns [] row now ∈ rs.rows ↔
        b.Relates (rounded x) (rounded y)) := by
  have hread := Filter.ofJson_single (Identifier.isBlank_eq_false hcolumn)
    (Identifier.ne_groupKey hcolumn) (b.ofJson_symbol column y)
  have hrange : (Filter.single column (.operators ⟨[(b, .ofInt y)], []⟩)).IsRangeOf
      (s.table name) := ⟨rfl, List.forall_mem_singleton.2 ⟨hcolumn, hallowed, rfl⟩⟩
  obtain ⟨rs, hrs, hmem⟩ :=
    mem_read_of_isRangeOf hs hname (Filter.sound_of_ofJson hread) hrange hrow hvisible
  refine ⟨_, rs, hread, hrs, ?_⟩
  rw [hmem, Filter.single, Filter.admits, List.all_cons, List.all_nil, Bool.and_true,
    Criterion.admits, hvalue, List.all_cons, List.all_nil, Bool.and_true, Option.any_some,
    ← Bound.isMetBy_eq_meets, Bound.isMetBy_ofInt_iff]

variable {suffix field : String} {doc : Json}

/-- A search filter with one bound. -/
theorem Filter.decides_bound (hsuffix : Text.startsWith suffix "." = true)
    (hb : Text.isBlank field = false) (hg : field ≠ Filter.groupKey)
    (hvalue : doc.valuesAt field = [.ofInt x]) (b : Bound) (y : Int) :
    ∃ f found, Filter.ofJson (.obj [(field, .obj [(b.symbol, .ofInt y)])]) = .ok f ∧
      f.decides suffix doc = .ok found ∧ (found = true ↔ b.Relates (rounded x) (rounded y)) := by
  have hread := Filter.ofJson_single hb hg (b.ofJson_symbol field y)
  refine ⟨_, _, hread, decides_single hsuffix hread rfl doc, ?_⟩
  rw [hvalue, byEachTest_bounds (by simp), List.any_cons, List.any_nil, Bool.or_false,
    List.all_cons, List.all_nil, Bool.and_true]
  exact b.isMetBy_ofInt_iff x y

/-- What a bound finds among whole numbers.  A range read of a visible row with one bound on a
column, and a search for a document with one bound on a field, are accepted, and they return the row
and find the document exactly if the bound holds of the numbers rounded to doubles.  That is the
order of the numbers for all four bounds exactly if different numbers are not rounded to one double;
so it is if one of them has no more than 53 binary digits. -/
theorem range_of_wholeNumbers (hs : s.Reachable) (hname : name.check = .ok ())
    (hcolumn : Identifier.holds column = true) (hallowed : (s.table name).allows column = true)
    (hrow : row ∈ (s.table name).rows) {now : Nat}
    (hvisible : row.isVisible (s.table name).layout now = true)
    (hvalue : row.value? column now = some (.ofInt x))
    (hsuffix : Text.startsWith suffix "." = true) (hb : Text.isBlank field = false)
    (hg : field ≠ Filter.groupKey) (hdoc : doc.valuesAt field = [.ofInt x]) (y : Int) :
    (∀ b : Bound,
      (∃ f rs, Filter.ofJson (.obj [(column, .obj [(b.symbol, .ofInt y)])]) = .ok f ∧
        s.read name (.keyRange f) .all now = .ok rs ∧
        (Table.project (s.table name).columns [] row now ∈ rs.rows ↔
          b.Relates (rounded x) (rounded y))) ∧
      ∃ f found, Filter.ofJson (.obj [(field, .obj [(b.symbol, .ofInt y)])]) = .ok f ∧
        f.decides suffix doc = .ok found ∧ (found = true ↔ b.Relates (rounded x) (rounded y))) ∧
    ((∀ b : Bound, b.Relates (rounded x) (rounded y) ↔ b.Relates x y) ↔
      (rounded x = rounded y → x = y)) ∧
    (x.natAbs < Decimal.twoTo 53 ∨ y.natAbs < Decimal.twoTo 53 →
      rounded x = rounded y → x = y) := by
  refine ⟨fun b => ⟨Store.mem_read_bound hs hname hcolumn hallowed hrow hvisible hvalue b y,
    Filter.decides_bound hsuffix hb hg hdoc b y⟩, Bound.forall_relates_rounded_iff x y, ?_⟩
  rintro (hx | hy) heq
  · exact (Decimal.eq_of_rounded_eq hx heq.symm).symm
  · exact Decimal.eq_of_rounded_eq hy heq

end

/-! ### A number of 54 binary digits -/

/-- The first whole number that no double has for its value. -/
def firstInexact : Int := 9007199254740993

/-- A record with that number. -/
def inexactItem : Record := [("id", .str "a"), ("n", .ofInt firstInexact)]

/-- A store with the record. -/
def Store.ofInexact : Store :=
  ((Store.empty .empty .wide).carryOut
    (.single ⟨⟨"shop", "items"⟩, .insert inexactItem none⟩) 0).2

/-- The row of the record. -/
def inexactRow : Row :=
  ⟨[.str "a"], [("id", ⟨.str "a", .never⟩), ("n", ⟨.ofInt firstInexact, .never⟩)], some .never⟩

theorem reachable_ofInexact : Store.ofInexact.Reachable := .step (.start _ _) _ 0

theorem mem_inexactRow : inexactRow ∈ (Store.ofInexact.table ⟨"shop", "items"⟩).rows :=
  List.mem_singleton.2 rfl

theorem value?_inexactRow : inexactRow.value? "n" 0 = some (.ofInt firstInexact) := rfl

theorem valuesAt_inexactItem : (Json.obj inexactItem).valuesAt "n" = [.ofInt firstInexact] := rfl

/-- A bound by a small number finds the row and the document as it should. -/
theorem range_of_wholeNumbers_inexact :
    ∃ f rs, Filter.ofJson (.obj [("n", .obj [(">", .ofInt 3)])]) = .ok f ∧
      Store.ofInexact.read ⟨"shop", "items"⟩ (.keyRange f) .all 0 = .ok rs ∧
      inexactItem ∈ rs.rows ∧ f.decides ".raw" (.obj inexactItem) = .ok true := by
  have hsuffix : Text.startsWith ".raw" "." = true := by decide
  obtain ⟨hall, hiff, hsmall⟩ := range_of_wholeNumbers reachable_ofInexact rfl (by decide) rfl
    mem_inexactRow rfl value?_inexactRow hsuffix (by decide) (by decide) valuesAt_inexactItem 3
  have hless : (3 : Int) < firstInexact := by decide
  have hrelates : Bound.above.Relates (rounded firstInexact) (rounded 3) :=
    (hiff.2 (hsmall (.inr (by decide))) .above).2 hless
  obtain ⟨⟨f, rs, hf, hrs, hmem⟩, g, found, hg, hfound, hdoc⟩ := hall .above
  obtain rfl := Except.ok.inj (hf.symm.trans hg)
  refine ⟨f, rs, hf, hrs, hmem.2 hrelates, ?_⟩
  rw [hfound, hdoc.2 hrelates]

/-- Does the number fit 64 bits, signed or unsigned? -/
def FitsWord (i : Int) : Prop := -(Decimal.twoTo 63 : Int) ≤ i ∧ i < Decimal.twoTo 64

/-- The number is greater than the one before it, and neither backend finds it so. -/
theorem not_range_of_neighbours :
    (¬ ∀ (s : Store) (name : TableName) (row : Row) (column : String) (x y : Int) (b : Bound)
      (f : Filter) (rs : RowSet) (now : Nat), FitsWord x → FitsWord y →
      s.Reachable → row ∈ (s.table name).rows →
      row.isVisible (s.table name).layout now = true →
      row.value? column now = some (.ofInt x) →
      Filter.ofJson (.obj [(column, .obj [(b.symbol, .ofInt y)])]) = .ok f →
      s.read name (.keyRange f) .all now = .ok rs →
      (Table.project (s.table name).columns [] row now ∈ rs.rows ↔ b.Relates x y)) ∧
    ¬ ∀ (suffix field : String) (doc : Json) (x y : Int) (b : Bound) (f : Filter) (found : Bool),
      FitsWord x → FitsWord y → Text.startsWith suffix "." = true →
      doc.valuesAt field = [.ofInt x] →
      Filter.ofJson (.obj [(field, .obj [(b.symbol, .ofInt y)])]) = .ok f →
      f.decides suffix doc = .ok found → (found = true ↔ b.Relates x y) := by
  have hless : Bound.above.Relates firstInexact (firstInexact - 1) := by
    show firstInexact - 1 < firstInexact
    decide
  have hlevel : ¬ Bound.above.Relates (rounded firstInexact) (rounded (firstInexact - 1)) := by
    show ¬ rounded (firstInexact - 1) < rounded firstInexact
    decide +kernel
  have hfits : FitsWord firstInexact := by
    constructor <;> decide
  have hfits' : FitsWord (firstInexact - 1) := by
    constructor <;> decide
  constructor
  · intro h
    obtain ⟨f, rs, hf, hrs, hmem⟩ := Store.mem_read_bound reachable_ofInexact rfl (by decide) rfl
      mem_inexactRow rfl value?_inexactRow .above (firstInexact - 1)
    have hiff := h _ _ _ _ _ _ _ f rs 0 hfits hfits' reachable_ofInexact mem_inexactRow rfl
      value?_inexactRow hf hrs
    exact hlevel (hmem.1 (hiff.2 hless))
  · intro h
    have hsuffix : Text.startsWith ".raw" "." = true := by decide
    obtain ⟨f, found, hf, hfound, hdoc⟩ := Filter.decides_bound hsuffix (by decide) (by decide)
      valuesAt_inexactItem .above (firstInexact - 1)
    have hiff := h _ _ _ _ _ _ f found hfits hfits' hsuffix valuesAt_inexactItem hf hfound
    exact hlevel (hdoc.1 (hiff.2 hless))

end Polystore
