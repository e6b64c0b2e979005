import Polystore.Proofs.Search.Finding
import Polystore.Proofs.Store.Selection

/-!
# One filter, asked of both backends

A filter can be asked of a table, as conditions on the cells of a row, and of an index, as clauses
on the values of a document.  Both decide alike on a flat record in lower case, for a filter
without alternatives and tests on texts: no field of such a record has more than one value, and
nothing is changed by lower-casing it.

    c.Sound → c.affixes = [] → … → byEachTest o.toList c = c.admits o         (byEachTest_toList)
    f.IsMetBy byEachTest (.obj doc) ↔ f.admits fun c => Assoc.find? c doc      (isMetBy_iff_admits)

So the row that holds the record is read exactly if the document is found (`read_iff_finds`).
-/

namespace Polystore

/-! ## Records and filters that both backends know -/

/-- A text that lower-casing leaves as it is, a number or a boolean. -/
def Json.IsLow (v : Json) : Prop := v.isScalar = true ∧ v.fold = v

/-- Are all values of the record scalars in lower case? -/
def Record.IsLow (doc : Record) : Prop := ∀ p ∈ doc, p.2.IsLow

/-- Does the row hold the values of the record and no others? -/
def Row.Holds (r : Row) (doc : Record) (now : Nat) : Prop :=
  ∀ column, r.value? column now = Assoc.find? column doc

/-- The values that the criterion compares with. -/
def Criterion.operands : Criterion → List Json
  | scalar w => [w]
  | list ws => ws
  | operators ops => ops.bounds.map Prod.snd

/-- A filter without alternatives and tests on texts, with identifiers for fields and operands in
lower case. -/
structure Filter.IsShared (f : Filter) : Prop where
  anyOf : f.anyOf = []
  affixes : ∀ e ∈ f.entries, e.2.affixes = []
  fields : ∀ e ∈ f.entries, Identifier.holds e.1 = true
  operands : ∀ e ∈ f.entries, ∀ w ∈ e.2.operands, w.fold = w

/-! ## Single criteria -/

theorem Bound.isMetBy_eq_meets (b : Bound) (w v : Json) : b.isMetBy w v = b.meets w v := rfl

namespace Criterion

variable {c : Criterion}

/-- What an index tests values in lower case for is what a table tests cells for. -/
theorem tests_of_low (hc : c.Sound) (ha : c.affixes = []) (hw : ∀ w ∈ c.operands, w.fold = w) :
    c.tests = [fun v => c.admits (some v)] := by
  cases c with
  | scalar w =>
    have hf : w.fold = w := hw w List.mem_cons_self
    simp only [tests, admits, hf, Option.any_some]
  | list ws =>
    have hf : ws.map Json.fold = ws := (List.map_congr_left hw).trans (List.map_id _)
    simp only [tests, admits, hf, Option.any_some]
  | operators ops =>
    have hb : ¬ ops.bounds.isEmpty = true := fun he =>
      hc.exists_operator.elim (fun h => h (List.isEmpty_iff.1 he)) fun h => h ha
    have hn : ops.affixes = [] := ha
    simp only [tests, admits, if_neg hb, hn, List.map_nil, List.append_nil,
      Bound.isMetBy_eq_meets, Option.any_some]

/-- On a field that has at most one value, in lower case, an index decides like a table. -/
theorem byEachTest_toList (hc : c.Sound) (ha : c.affixes = [])
    (hw : ∀ w ∈ c.operands, w.fold = w) {o : Option Json} (ho : ∀ v ∈ o, v.fold = v) :
    byEachTest o.toList c = c.admits o := by
  unfold byEachTest
  rw [tests_of_low hc ha hw, List.all_cons, List.all_nil, Bool.and_true]
  cases o with
  | none => exact (Filter.admits_none hc ha).symm
  | some v => rw [Option.toList_some, List.any_cons, List.any_nil, Bool.or_false, ho v rfl]

/-- A criterion that was read takes null for no value. -/
theorem admits_getD_null (hc : c.Sound) (ha : c.affixes = []) (o : Option Json) :
    c.admits (some (o.getD .null)) = c.admits o := by
  cases o with
  | some v => rfl
  | none =>
    rw [Option.getD_none, Filter.admits_none hc ha]
    have hnull : ∀ w : Json, w.isScalar = true →
        Json.null.same w = false ∧ w.same .null = false := by
      intro w hw
      cases w <;> first | exact ⟨rfl, rfl⟩ | cases hw
    cases c with
    | scalar w => exact (hnull w hc).1
    | list ws =>
      refine List.any_eq_false.2 fun w hm => ?_
      rw [(hnull w (hc.2 w hm)).2]
      exact Bool.false_ne_true
    | operators ops =>
      have hb : ops.bounds ≠ [] := hc.exists_operator.resolve_right fun h => h ha
      obtain ⟨b, bounds, hb⟩ := List.exists_cons_of_ne_nil hb
      simp [admits, hb, Bound.meets, Json.compare?]

end Criterion

/-! ## Filters -/

/-- A field without a dot has the value of its key, if that is a scalar. -/
theorem valuesAt_of_identifier {field : String} (h : Identifier.holds field = true) {doc : Record}
    (hd : ∀ v, Assoc.find? field doc = some v → v.isScalar = true) :
    (Json.obj doc).valuesAt field = (Assoc.find? field doc).toList := by
  have hdot : '.' ∉ field.toList := fun hm => absurd (Identifier.isPart_of_mem h hm) (by decide)
  have hp : Text.pieces '.' field = [field] := by
    rw [Text.pieces, Text.piecesOf_of_not_mem hdot, List.map_singleton, String.ofList_toList]
  rw [Json.valuesAt, hp, Json.valuesAlong, Json.step]
  cases hf : Assoc.find? field doc with
  | none => rfl
  | some v =>
    rw [Option.toList_some, List.flatMap_singleton]
    have hv := hd v hf
    cases v <;> first | rfl | cases hv

theorem Record.IsLow.find? {doc : Record} (h : Record.IsLow doc) {field : String} {v : Json}
    (hv : Assoc.find? field doc = some v) : v.IsLow := h _ (Assoc.mem_of_find?_eq_some hv)

namespace Filter

variable {f : Filter}

/-- On a flat record in lower case an index decides like a table. -/
theorem isMetBy_iff_admits (hf : f.Sound) (hs : f.IsShared) {doc : Record}
    (hd : Record.IsLow doc) :
    f.IsMetBy byEachTest (.obj doc) ↔ f.admits (fun c => Assoc.find? c doc) = true := by
  have hentry : ∀ e ∈ f.entries, byEachTest ((Json.obj doc).valuesAt e.1) e.2 =
      e.2.admits (Assoc.find? e.1 doc) := by
    intro e he
    rw [valuesAt_of_identifier (hs.fields e he) fun v hv => (hd.find? hv).1]
    exact Criterion.byEachTest_toList (hf.entries.sound e he) (hs.affixes e he)
      (hs.operands e he) fun v hv => (hd.find? hv).2
  rw [Filter.isMetBy_iff, admits, List.all_eq_true]
  constructor
  · rintro ⟨h, -⟩ e he
    rw [← hentry e he]
    exact h e he
  · intro h
    exact ⟨fun e he => (hentry e he).trans (h e he), fun hn => absurd hs.anyOf hn⟩

/-- A filter that was read does not tell null from no value. -/
theorem admits_eq_of_getD_null (hf : f.Sound) (ha : ∀ e ∈ f.entries, e.2.affixes = [])
    {u v : String → Option Json} (h : ∀ c, (u c).getD .null = (v c).getD .null) :
    f.admits u = f.admits v := by
  unfold admits
  rw [Bool.eq_iff_iff, List.all_eq_true, List.all_eq_true]
  refine forall₂_congr fun e he => ?_
  have hnull := Criterion.admits_getD_null (hf.entries.sound e he) (ha e he)
  rw [← hnull (u e.1), ← hnull (v e.1), h e.1]

theorem IsShared.noEnd (hs : f.IsShared) : f.NoEnd := by
  intro p hp q hq
  rw [hs.anyOf, List.append_nil] at hp
  rw [hs.affixes p hp] at hq
  exact absurd hq List.not_mem_nil

theorem IsShared.isRangeOf (hs : f.IsShared) {t : Table} (hd : t.declared = none) :
    f.IsRangeOf t := by
  refine ⟨hs.anyOf, fun e he => ⟨hs.fields e he, ?_, hs.affixes e he⟩⟩
  rw [Table.allows, hd]
  rfl

end Filter

/-! ## The row that is read -/

/-- A range read that the table accepts returns a visible row exactly if its values satisfy the
filter. -/
theorem Store.mem_read_of_isRangeOf {s : Store} (hs : s.Reachable) {name : TableName}
    (hn : name.check = .ok ()) {f : Filter} (hf : f.Sound) (hrange : f.IsRangeOf (s.table name))
    {row : Row} (hr : row ∈ (s.table name).rows) {now : Nat}
    (hv : row.isVisible (s.table name).layout now = true) :
    ∃ rs, s.read name (.keyRange f) .all now = .ok rs ∧
      (Table.project (s.table name).columns [] row now ∈ rs.rows ↔
        f.admits (fun c => row.value? c now) = true) := by
  refine ⟨_, read_eq_ok_iff.2 ⟨hs.exists_read_all hn now,
    (Criteria.keyRange_isAskedOf hf).2 hrange, rfl⟩, ?_⟩
  rw [Table.answer_all, List.mem_map]
  constructor
  · -- another row that is returned alike has the same values, so the filter admits this one too
    rintro ⟨r, hm, he⟩
    obtain ⟨hrow, hk⟩ := List.mem_filter.1 hm
    rw [Bool.and_eq_true] at hk
    have hval := (hs.table Table.invariant_noted name).value?_of_project_eq hrow hr he
    rw [← Filter.admits_eq_of_getD_null hf (fun e he => (hrange.2 e he).2.2) hval]
    exact hk.2
  · intro h
    refine ⟨row, List.mem_filter.2 ⟨hr, ?_⟩, rfl⟩
    rw [hv, Bool.true_and]
    exact h

/-- A range read of an undeclared table returns a visible row exactly if its values satisfy the
filter. -/
theorem Store.mem_read_iff {s : Store} (hs : s.Reachable) {name : TableName}
    (hn : name.check = .ok ()) (hd : (s.table name).declared = none) {f : Filter} (hf : f.Sound)
    (hshared : f.IsShared) {row : Row} (hr : row ∈ (s.table name).rows) {now : Nat}
    (hv : row.isVisible (s.table name).layout now = true) :
    ∃ rs, s.read name (.keyRange f) .all now = .ok rs ∧
      (Table.project (s.table name).columns [] row now ∈ rs.rows ↔
        f.admits (fun c => row.value? c now) = true) :=
  mem_read_of_isRangeOf hs hn hf (hshared.isRangeOf hd) hr hv

/-! ## Agreement -/

section
variable {s : Store} {i : SearchIndex} {name : TableName} {index : String} {row : Row}
  {doc : Record} {docs : Documents} {id : String} {v : Json} {f : Filter}

/-- The backends agree on filters.  Let a visible row of an undeclared table hold a flat record in
lower case that is also a document of an index, and let a filter be shared by both.  Then both can
be asked, and a range read with the filter returns the row exactly if a search with it finds the
document, whatever the size of its pages.  The only filter whose search does not pass the check is
the empty one. -/
theorem read_iff_finds (hs : s.Reachable) (hname : name.check = .ok ())
    (hundeclared : (s.table name).declared = none) (hrow : row ∈ (s.table name).rows) {now : Nat}
    (hvisible : row.isVisible (s.table name).layout now = true) (hholds : row.Holds doc now)
    (hlow : Record.IsLow doc) (hsuffix : Text.startsWith i.suffix "." = true)
    (hdocs : i.documents? index = some docs) (hfits : docs.length < Decimal.twoTo 63)
    (hdoc : (id, doc) ∈ docs) (hread : Filter.ofJson v = .ok f) (hshared : f.IsShared)
    {n maxLimit defaultLimit : Nat} (hn : 1 ≤ n) (hmax : n ≤ maxLimit)
    (hmax64 : maxLimit < Decimal.twoTo 64) :
    (f.isEmpty = false → ∀ offset,
      ((SearchRequest.ofFilter f).page n offset).check maxLimit = .ok ()) ∧
    (∀ offset, ∃ answer, i.search index
      (((SearchRequest.ofFilter f).page n offset).body i.suffix defaultLimit) = .ok answer) ∧
    ∃ rs, s.read name (.keyRange f) .all now = .ok rs ∧
      (Table.project (s.table name).columns [] row now ∈ rs.rows ↔
        i.Finds index (SearchRequest.ofFilter f) defaultLimit n id doc) := by
  have hf := Filter.sound_of_ofJson hread
  have hplain := SearchRequest.plain_ofFilter hf hshared.noEnd
  have hfacets : ((SearchRequest.ofFilter f).facets.map FacetRequest.field).Nodup :=
    List.nodup_nil
  have hanswerable := SearchRequest.answerable_ofFilter i index f
  obtain ⟨rs, hrs, hmem⟩ := Store.mem_read_iff hs hname hundeclared hf hshared hrow hvisible
  refine ⟨fun he offset => SearchRequest.check_page_ofFilter he hn hmax offset, fun offset => ?_,
    rs, hrs, ?_⟩
  · obtain ⟨_, -, -, hpages⟩ :=
      SearchIndex.exists_hits hsuffix hdocs hplain hfacets hanswerable
    obtain ⟨answer, ha, -⟩ := hpages n offset defaultLimit
    exact ⟨answer, ha⟩
  · have hvalues : (fun c => row.value? c now) = fun c => Assoc.find? c doc := funext hholds
    rw [hmem, hvalues, ← Filter.isMetBy_iff_admits hf hshared hlow,
      SearchIndex.finds_iff hsuffix hdocs hfits hplain hfacets hanswerable rfl hn
        (Nat.lt_of_le_of_lt hmax hmax64),
      SearchRequest.isMetBy_ofFilter]
    exact (and_iff_right hdoc).symm

end

/-! ### One record in both -/

/-- A record that is a row of one store and a document of one index. -/
def oneItem : Record := [("id", .str "a"), ("n", .ofNat 5)]

/-- An index of the record. -/
def oneItemIndex : SearchIndex := ⟨".raw", [("items", [("7", oneItem)])]⟩

/-- The row of the record. -/
def oneItemRow : Row :=
  ⟨[.str "a"], [("id", ⟨.str "a", .never⟩), ("n", ⟨.ofNat 5, .never⟩)], some .never⟩

theorem holds_oneItemRow (now : Nat) : oneItemRow.Holds oneItem now := by
  intro column
  unfold Row.value? Row.cell? oneItemRow oneItem
  simp only [Assoc.find?_cons, Assoc.find?_nil]
  split
  · rfl
  · split <;> rfl

theorem fold_a : (Json.str "a").fold = .str "a" :=
  congrArg Json.str (show Text.lower "a" = "a" by decide +kernel)

theorem isLow_oneItem : Record.IsLow oneItem :=
  List.forall_mem_cons.2 ⟨⟨rfl, fold_a⟩, List.forall_mem_singleton.2 ⟨rfl, rfl⟩⟩

/-- A filter for one identifier and a number above another one. -/
def aAboveThree : Filter :=
  ⟨[("id", .scalar (.str "a")), ("n", .operators ⟨[(.above, .ofNat 3)], []⟩)], []⟩

theorem isShared_aAboveThree : aAboveThree.IsShared where
  anyOf := rfl
  affixes := List.forall_mem_cons.2 ⟨rfl, List.forall_mem_singleton.2 rfl⟩
  fields := by decide
  operands := List.forall_mem_cons.2
    ⟨List.forall_mem_singleton.2 fold_a,
      List.forall_mem_singleton.2 (List.forall_mem_singleton.2 rfl)⟩

theorem found_oneItem :
    ∃ rs, Store.oneRow.read ⟨"shop", "items"⟩ (.keyRange aAboveThree) .all 0 = .ok rs ∧
      oneItem ∈ rs.rows ∧
      oneItemIndex.Finds "items" (.ofFilter aAboveThree) 10 1 "7" oneItem := by
  have hs : Store.oneRow.Reachable := .step (.start _ _) _ 0
  have hread : Filter.ofJson (.obj [("id", .str "a"), ("n", .obj [(">", .ofNat 3)])]) =
      .ok aAboveThree := rfl
  have hrow : oneItemRow ∈ (Store.oneRow.table ⟨"shop", "items"⟩).rows := List.mem_singleton.2 rfl
  have hdocs : oneItemIndex.documents? "items" = some [("7", oneItem)] := rfl
  obtain ⟨-, -, rs, hrs, hiff⟩ := read_iff_finds hs rfl rfl hrow rfl (holds_oneItemRow 0)
    isLow_oneItem (by decide) hdocs (by decide) (List.mem_singleton.2 rfl) hread
    isShared_aAboveThree (Nat.le_refl 1) (Nat.le_refl 1) (by decide)
  have hr : Store.oneRow.read ⟨"shop", "items"⟩ (.keyRange aAboveThree) .all 0 =
      .ok ⟨["id", "n"], [oneItem]⟩ := rfl
  obtain rfl := Except.ok.inj (hr.symm.trans hrs)
  have hmem : oneItem ∈ [oneItem] := List.mem_singleton.2 rfl
  exact ⟨_, hrs, hmem, hiff.1 hmem⟩

end Polystore
