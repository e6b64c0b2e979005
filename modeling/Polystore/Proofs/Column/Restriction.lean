import Polystore.Proofs.Column.Conditions
import Polystore.Proofs.Column.Outline

/-!
# Which rows updates and deletions address

A key always has a column, so every update is restricted to the rows with a key.  A deletion is
restricted unless its criteria are a filter that asks for nothing: deleting all rows is refused only
where it is asked for as such, and an empty filter is not.

    compile t op = .ok plan → st ∈ plan.statements → st.action.restriction? = some cs →
      (cs = [] ↔ op.DeletesAll)                                         (restriction_eq_nil_iff)
-/

namespace Polystore

/-- The conditions on the rows that an update or a deletion addresses. -/
def Action.restriction? : Action → Option (List Condition)
  | update _ conditions _ => some conditions
  | delete conditions => some conditions
  | insert _ _ | select _ _ => none

/-- Is the operation a deletion of the rows of a filter that asks for nothing?  An entry asks for
nothing if it is a set of operators without any. -/
def Operation.DeletesAll : Operation → Prop
  | delete (.properties f) => f.entries = []
  | delete (.keyRange f) => ∀ e ∈ f.entries, e.2 = .operators ⟨[], []⟩
  | _ => False

/-! ## Keys and criteria -/

/-- A key that was checked has a column. -/
theorem RowKey.equalConditions_ne_nil {k : RowKey} (h : k.check = .ok ()) :
    k.equalConditions ≠ [] := by
  cases k with
  | id value => exact List.cons_ne_nil _ _
  | composite key =>
    intro hnil
    have hcolumns : key.columns = [] := List.map_eq_nil_iff.1 hnil
    rw [check, CompositeKey.check, hcolumns] at h
    exact absurd h Outcome.throw_ne_ok

theorem Criterion.asked_eq_nil_iff {allowBounds : Bool} {c : Criterion}
    (h : c.isAskable allowBounds = true) (field : String) :
    c.asked field = [] ↔ c = .operators ⟨[], []⟩ := by
  cases c with
  | scalar v => simp [asked]
  | list vs => simp [asked]
  | operators ops =>
    obtain ⟨bounds, affixes⟩ := ops
    rw [isAskable, Bool.and_eq_true] at h
    have ha : affixes = [] := List.isEmpty_iff.1 h.2
    subst ha
    simp [asked]

/-- A filter asks for nothing if each of its entries does. -/
theorem Filter.asked_eq_nil_iff {allowBounds : Bool} {f : Filter} {cs : List Condition}
    (h : f.conditions allowBounds = .ok cs) :
    f.asked = [] ↔ ∀ e ∈ f.entries, e.2 = .operators ⟨[], []⟩ := by
  have hask := (Filter.conditions_isOk_iff.1 ⟨cs, h⟩).2
  rw [asked, List.flatMap_eq_nil_iff]
  constructor
  · intro hall e he
    exact (Criterion.asked_eq_nil_iff (hask e he).2 e.1).1 (hall e he)
  · intro hall e he
    exact (Criterion.asked_eq_nil_iff (hask e he).2 e.1).2 (hall e he)

/-- Without bounds no entry is a set of operators. -/
theorem Filter.asked_eq_nil_iff_entries {f : Filter} {cs : List Condition}
    (h : f.conditions false = .ok cs) : f.asked = [] ↔ f.entries = [] := by
  have hask := (Filter.conditions_isOk_iff.1 ⟨cs, h⟩).2
  rw [Filter.asked_eq_nil_iff h]
  constructor
  · intro hall
    refine List.eq_nil_iff_forall_not_mem.2 fun e he => ?_
    have hoff := (hask e he).2
    rw [hall e he] at hoff
    cases hoff
  · intro hnil e he
    rw [hnil] at he
    cases he

/-- Of the criteria that a deletion accepts, filters alone may give no condition. -/
theorem asked_eq_nil_iff_deletesAll {t : TableName} {c : Criteria} {st : Statement}
    (h : compileDelete t c = .ok st) : c.asked = [] ↔ (Operation.delete c).DeletesAll := by
  obtain ⟨cs, hc, -⟩ := compileDelete_eq_ok h
  cases c with
  | all => exact absurd h Outcome.throw_ne_ok
  | key k =>
    unfold Criteria.conditions at hc
    rw [Outcome.then_eq_ok] at hc
    exact iff_of_false (RowKey.equalConditions_ne_nil hc.1) id
  | oneOf column values => exact iff_of_false (List.cons_ne_nil _ _) id
  | properties f => exact Filter.asked_eq_nil_iff_entries hc
  | keyRange f => exact Filter.asked_eq_nil_iff hc
  | contains column v f => exact iff_of_false (List.cons_ne_nil _ _) id

/-! ## Text -/

section
variable (d : Dialect) {cs : List Condition}

theorem textOf_wherePieces (h : cs ≠ []) :
    textOf d (wherePieces cs) =
      " WHERE " ++ Text.join " AND " (cs.map fun c => textOf d c.pieces) := by
  rw [wherePieces, if_neg (by rwa [List.isEmpty_iff]), textOf_cons, textOf_separate, List.map_map]
  rfl

/-- The conditions of an update or a deletion are its last words. -/
theorem Statement.text_of_restriction {st : Statement} (h : st.action.restriction? = some cs) :
    ∃ head, (st.render d).text = head ++ textOf d (wherePieces cs) := by
  obtain ⟨target, action⟩ := st
  cases action with
  | insert columns ttl => cases h
  | select selection conditions => cases h
  | update assignments conditions ttl =>
    obtain rfl := Option.some.inj h
    rw [render_eq]
    refine ⟨textOf d (.word "UPDATE " :: target.pieces ++ ttlPieces ttl ++
      .word " SET " :: separate ", " (assignments.map Assignment.pieces)), ?_⟩
    rw [← textOf_append]
    simp [pieces]
  | delete conditions =>
    obtain rfl := Option.some.inj h
    rw [render_eq]
    refine ⟨textOf d (.word "DELETE FROM " :: target.pieces), ?_⟩
    rw [← textOf_append]
    rfl

end

/-! ## Operations -/

section
variable {t : TableName} {op : Operation} {plan : Plan}

/-- An update of a batch or of its own is restricted to the rows with a key. -/
theorem restriction_of_update {st : Statement} {k : RowKey} {as : List Assignment}
    {ttl : Option Int} {cs : List Condition} (hk : k.check = .ok ())
    (hst : st.action = .update as k.equalConditions ttl)
    (hcs : st.action.restriction? = some cs) : cs ≠ [] := by
  rw [hst] at hcs
  obtain rfl := Option.some.inj hcs
  exact RowKey.equalConditions_ne_nil hk

theorem restriction_of_compileItem {item : BatchItem} {st : Statement} {cs : List Condition}
    (h : compileItem t item = .ok st) (hcs : st.action.restriction? = some cs) : cs ≠ [] := by
  cases item with
  | insert record ttl =>
    rw [compileInsert_eq_ok h] at hcs
    cases hcs
  | update key values =>
    obtain ⟨hk, rfl⟩ := compileUpdate_eq_ok h
    exact restriction_of_update hk rfl hcs

/-- Only the deletion of all rows of a filter is not restricted. -/
theorem restriction_eq_nil_iff (h : compile t op = .ok plan) {st : Statement}
    (hst : st ∈ plan.statements) {cs : List Condition}
    (hcs : st.action.restriction? = some cs) : cs = [] ↔ op.DeletesAll := by
  cases op with
  | insert record ttl =>
    obtain ⟨-, st', hst', rfl⟩ := single_eq_ok.1 h
    obtain rfl := List.mem_singleton.1 hst
    rw [compileInsert_eq_ok hst'] at hcs
    cases hcs
  | select c p =>
    obtain ⟨-, conditions, -, rfl⟩ := compile_select_eq_ok.1 h
    obtain rfl := List.mem_singleton.1 hst
    cases hcs
  | update key values ttl =>
    obtain ⟨-, st', hst', rfl⟩ := single_eq_ok.1 h
    obtain rfl := List.mem_singleton.1 hst
    obtain ⟨hk, rfl⟩ := compileUpdate_eq_ok hst'
    exact iff_of_false (restriction_of_update hk rfl hcs) id
  | putEntry key column entry v =>
    obtain ⟨-, st', hst', rfl⟩ := single_eq_ok.1 h
    obtain rfl := List.mem_singleton.1 hst
    obtain ⟨hk, rfl⟩ := compileEntry_eq_ok hst'
    exact iff_of_false (restriction_of_update hk rfl hcs) id
  | removeEntry key column entry =>
    obtain ⟨-, st', hst', rfl⟩ := single_eq_ok.1 h
    obtain rfl := List.mem_singleton.1 hst
    obtain ⟨hk, rfl⟩ := compileEntry_eq_ok hst'
    exact iff_of_false (restriction_of_update hk rfl hcs) id
  | batch items =>
    obtain ⟨-, -, sts, hsts, rfl⟩ := compile_batch_eq_ok.1 h
    obtain ⟨item, -, hitem⟩ := exists_of_mem_right hsts hst
    exact iff_of_false (restriction_of_compileItem hitem hcs) id
  | delete c =>
    obtain ⟨-, st', hst', rfl⟩ := single_eq_ok.1 h
    obtain rfl := List.mem_singleton.1 hst
    have hiff := asked_eq_nil_iff_deletesAll hst'
    obtain ⟨conditions, hc, rfl⟩ := compileDelete_eq_ok hst'
    obtain rfl := Option.some.inj hcs
    rw [Criteria.conditions_eq_asked hc]
    exact hiff

/-- The one statement of a deletion that asks for nothing has no other words. -/
theorem text_of_deletesAll (h : compile t op = .ok plan) (hd : op.DeletesAll) {st : Statement}
    (hst : st ∈ plan.statements) (d : Dialect) :
    st.action = .delete [] ∧ (st.render d).text = "DELETE FROM " ++ t.text := by
  cases op with
  | delete c =>
    obtain ⟨-, st', hst', rfl⟩ := single_eq_ok.1 h
    obtain rfl := List.mem_singleton.1 hst
    have hnil := (asked_eq_nil_iff_deletesAll hst').2 hd
    obtain ⟨conditions, hc, rfl⟩ := compileDelete_eq_ok hst'
    obtain rfl : conditions = [] := (Criteria.conditions_eq_asked hc).trans hnil
    refine ⟨rfl, ?_⟩
    rw [Statement.render_eq]
    simp [Statement.pieces, wherePieces, Piece.text]
  | _ => exact hd.elim

/-- Every update that an accepted operation is turned into has a condition, and every deletion has
one unless the operation deletes the rows of a filter that asks for nothing.  In either dialect the
text ends with the conditions, if there are any; the deletion without conditions names nothing but
the table. -/
theorem restriction_of_compile (h : compile t op = .ok plan) :
    ∀ st ∈ plan.statements, ∀ cs, st.action.restriction? = some cs →
      (∀ as ttl, st.action = .update as cs ttl → cs ≠ []) ∧
      (cs = [] ↔ op.DeletesAll) ∧
      ∀ d : Dialect,
        (cs ≠ [] → ∃ head, (st.render d).text =
          head ++ (" WHERE " ++ Text.join " AND " (cs.map fun c => textOf d c.pieces))) ∧
        (cs = [] → (st.render d).text = "DELETE FROM " ++ t.text) := by
  intro st hst cs hcs
  have hiff := restriction_eq_nil_iff h hst hcs
  refine ⟨fun as ttl hu hnil => ?_, hiff, fun d => ⟨fun hne => ?_, fun hnil => ?_⟩⟩
  · have hdelete := (text_of_deletesAll h (hiff.1 hnil) hst .plain).1
    rw [hu] at hdelete
    cases hdelete
  · obtain ⟨head, htext⟩ := st.text_of_restriction d hcs
    rw [textOf_wherePieces d hne] at htext
    exact ⟨head, htext⟩
  · exact (text_of_deletesAll h (hiff.1 hnil) hst d).2

end

/-- The deletion of the rows of a filter with one entry has its condition in its text. -/
theorem restriction_of_entry :
    ∃ st, compile ⟨"app", "users"⟩
        (.delete (.properties ⟨[("state", .scalar (.str "old"))], []⟩)) = .ok (.single st) ∧
      ∃ head, (st.render .json).text = head ++ (" WHERE " ++ "state = fromJson(?)") := by
  refine ⟨_, rfl, ?_⟩
  have h := @restriction_of_compile ⟨"app", "users"⟩
    (.delete (.properties ⟨[("state", .scalar (.str "old"))], []⟩)) _ rfl _ List.mem_cons_self _ rfl
  exact (h.2.2 .json).1 (List.cons_ne_nil _ _)

/-- An empty filter is not refused, and every row of the table is deleted. -/
theorem compile_delete_emptyFilter :
    ∃ st, compile ⟨"app", "users"⟩ (.delete (.properties .empty)) = .ok (.single st) ∧
      st.action.restriction? = some [] ∧
        ∀ d : Dialect, (st.render d).text = "DELETE FROM app.users" :=
  ⟨_, rfl, rfl, fun d => by cases d <;> rfl⟩

end Polystore
