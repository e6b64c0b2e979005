import Polystore.Proofs.Column.Names

/-!
# Outlines

The outline of an operation is what is left of it without its data: which columns it writes, asks
about and returns, how it compares them, how many values each list has, and its times to live.  An
accepted operation is turned into a plan that its outline alone decides but for the bound values,
and the text of a plan has no other source:

    compile t op = .ok plan → plan = op.plan t                               (compile_eq_plan)
    (op.outline.plan t).outline = (op.plan t).outline                        (plan_outline)
    (st.outline.render d).text = (st.render d).text                          (text_outline)
-/

namespace Polystore

/-! ## The plan of an accepted operation -/

/-- The conditions of an entry of a filter. -/
def Criterion.asked (field : String) : Criterion → List Condition
  | scalar v => [⟨field, .equals v⟩]
  | list vs => [⟨field, .oneOf vs⟩]
  | operators ops => ops.bounds.map fun p => ⟨field, .bound p.1 p.2⟩

/-- The conditions of a filter. -/
def Filter.asked (f : Filter) : List Condition := f.entries.flatMap fun e => e.2.asked e.1

/-- The conditions of criteria. -/
def Criteria.asked : Criteria → List Condition
  | all => []
  | key k => k.equalConditions
  | oneOf column values => [⟨column, .oneOf values⟩]
  | properties f => f.asked
  | keyRange f => f.asked
  | contains column v f => ⟨column, .contains v⟩ :: f.asked

/-- The action of a write of a batch. -/
def BatchItem.action : BatchItem → Action
  | insert record ttl => .insert record (askedTtl ttl)
  | update key values => .update (values.map fun p => .set p.1 p.2) key.equalConditions none

/-- The plan that an operation is turned into if it is accepted. -/
def Operation.plan (t : TableName) : Operation → Plan
  | insert record ttl => .single ⟨t, .insert record (askedTtl ttl)⟩
  | update key values ttl =>
    .single ⟨t, .update (values.map fun p => .set p.1 p.2) key.equalConditions (askedTtl ttl)⟩
  | delete c => .single ⟨t, .delete c.asked⟩
  | select c p => .single ⟨t, .select ⟨p.columns, p.ttl⟩ c.asked⟩
  | putEntry key column entry v =>
    .single ⟨t, .update [.put column entry v] key.equalConditions none⟩
  | removeEntry key column entry =>
    .single ⟨t, .update [.remove column entry] key.equalConditions none⟩
  | batch items => .batch (items.map fun item => ⟨t, item.action⟩)

theorem Criterion.conditions_eq_asked {allowBounds : Bool} {field : String} {c : Criterion}
    {cs : List Condition} (h : c.conditions allowBounds field = .ok cs) : cs = c.asked field := by
  cases c with
  | operators ops =>
    simp only [conditions] at h
    split at h
    · exact (Outcome.pure_eq_ok.1 h).symm
    · exact absurd h Outcome.throw_ne_ok
  | _ => exact (Outcome.pure_eq_ok.1 h).symm

theorem Filter.conditions_eq_asked {allowBounds : Bool} {f : Filter} {cs : List Condition}
    (h : f.conditions allowBounds = .ok cs) : cs = f.asked := by
  unfold conditions at h
  unfold asked
  split at h
  · generalize f.entries = entries at h
    induction entries generalizing cs with
    | nil => exact (Outcome.pure_eq_ok.1 h).symm
    | cons e entries ih =>
      simp only [entryConditions, Outcome.bind_eq_ok, Outcome.pure_eq_ok] at h
      obtain ⟨-, -, first, hf, others, ho, rfl⟩ := h
      rw [List.flatMap_cons, Criterion.conditions_eq_asked hf, ih ho]
  · exact absurd h Outcome.throw_ne_ok

theorem Criteria.conditions_eq_asked {c : Criteria} {cs : List Condition}
    (h : c.conditions = .ok cs) : cs = c.asked := by
  cases c with
  | all => exact (Outcome.pure_eq_ok.1 h).symm
  | key k =>
    unfold conditions at h
    rw [Outcome.then_eq_ok] at h
    exact RowKey.conditions_eq_ok h.2
  | oneOf column values =>
    unfold conditions at h
    rw [Outcome.then_eq_ok] at h
    obtain ⟨-, h⟩ := h
    split at h
    · exact absurd h Outcome.throw_ne_ok
    · split at h
      · exact (Outcome.pure_eq_ok.1 h).symm
      · exact absurd h Outcome.throw_ne_ok
  | properties f => exact Filter.conditions_eq_asked h
  | keyRange f => exact Filter.conditions_eq_asked h
  | contains column v f =>
    unfold conditions at h
    rw [Outcome.then_eq_ok] at h
    obtain ⟨-, h⟩ := h
    split at h
    · rw [Outcome.bind_eq_ok] at h
      obtain ⟨others, ho, h⟩ := h
      obtain rfl := Outcome.pure_eq_ok.1 h
      rw [Filter.conditions_eq_asked ho]
      rfl
    · exact absurd h Outcome.throw_ne_ok

theorem compileItem_eq_action {t : TableName} {item : BatchItem} {st : Statement}
    (h : compileItem t item = .ok st) : st = ⟨t, item.action⟩ := by
  cases item with
  | insert record ttl => exact compileInsert_eq_ok h
  | update key values => exact (compileUpdate_eq_ok h).2

/-- An accepted operation is turned into its plan. -/
theorem compile_eq_plan {t : TableName} {op : Operation} {plan : Plan}
    (h : compile t op = .ok plan) : plan = op.plan t := by
  cases op with
  | insert record ttl =>
    obtain ⟨-, st, hst, rfl⟩ := single_eq_ok.1 h
    rw [compileInsert_eq_ok hst]
    rfl
  | update key values ttl =>
    obtain ⟨-, st, hst, rfl⟩ := single_eq_ok.1 h
    rw [(compileUpdate_eq_ok hst).2]
    rfl
  | delete c =>
    obtain ⟨-, st, hst, rfl⟩ := single_eq_ok.1 h
    obtain ⟨conditions, hc, rfl⟩ := compileDelete_eq_ok hst
    rw [Criteria.conditions_eq_asked hc]
    rfl
  | select c p =>
    obtain ⟨-, conditions, hc, rfl⟩ := compile_select_eq_ok.1 h
    rw [Criteria.conditions_eq_asked hc]
    rfl
  | putEntry key column entry v =>
    obtain ⟨-, st, hst, rfl⟩ := single_eq_ok.1 h
    rw [(compileEntry_eq_ok hst).2]
    rfl
  | removeEntry key column entry =>
    obtain ⟨-, st, hst, rfl⟩ := single_eq_ok.1 h
    rw [(compileEntry_eq_ok hst).2]
    rfl
  | batch items =>
    obtain ⟨-, -, sts, hsts, rfl⟩ := compile_batch_eq_ok.1 h
    have he : sts = items.map fun item => ⟨t, item.action⟩ := by
      clear h
      induction hsts with
      | nil => rfl
      | cons hc _ ih => rw [compileItem_eq_action hc, ih]; rfl
    rw [he]
    rfl

/-! ## Outlines of operations -/

/-- Values by column without the values. -/
def Record.outline (r : Record) : Record := r.map fun p => (p.1, .null)

/-- As many values, without what they are. -/
def outlineOf (vs : List Json) : List Json := vs.map fun _ => .null

def RowKey.outline : RowKey → RowKey
  | id _ => id ""
  | composite k => composite ⟨Record.outline k.columns⟩

def Criterion.outline : Criterion → Criterion
  | scalar _ => scalar .null
  | list vs => list (outlineOf vs)
  | operators ops =>
    operators ⟨ops.bounds.map fun p => (p.1, .null), ops.affixes.map fun p => (p.1, "")⟩

def Filter.outline (f : Filter) : Filter where
  entries := f.entries.map fun e => (e.1, e.2.outline)
  anyOf := f.anyOf.map fun e => (e.1, e.2.outline)

def Criteria.outline : Criteria → Criteria
  | all => all
  | key k => key k.outline
  | oneOf column values => oneOf column (outlineOf values)
  | properties f => properties f.outline
  | keyRange f => keyRange f.outline
  | contains column _ f => contains column .null f.outline

def BatchItem.outline : BatchItem → BatchItem
  | insert record ttl => insert (Record.outline record) ttl
  | update key values => update key.outline (Record.outline values)

/-- The operation without its data. -/
def Operation.outline : Operation → Operation
  | insert record ttl => insert (Record.outline record) ttl
  | update key values ttl => update key.outline (Record.outline values) ttl
  | delete c => delete c.outline
  | select c p => select c.outline p
  | putEntry key column _ _ => putEntry key.outline column "" .null
  | removeEntry key column _ => removeEntry key.outline column ""
  | batch items => batch (items.map BatchItem.outline)

/-! ## Outlines of statements -/

def Assignment.outline : Assignment → Assignment
  | set column _ => set column .null
  | put column _ _ => put column "" .null
  | remove column _ => remove column ""

def Relation.outline : Relation → Relation
  | equals _ => equals .null
  | oneOf vs => oneOf (outlineOf vs)
  | bound b _ => bound b .null
  | contains _ => contains .null

def Condition.outline (c : Condition) : Condition := ⟨c.column, c.relation.outline⟩

def Action.outline : Action → Action
  | insert columns ttl => insert (Record.outline columns) ttl
  | update assignments conditions ttl =>
    update (assignments.map Assignment.outline) (conditions.map Condition.outline) ttl
  | delete conditions => delete (conditions.map Condition.outline)
  | select selection conditions => select selection (conditions.map Condition.outline)

/-- The statement without the values that it binds. -/
def Statement.outline (st : Statement) : Statement := ⟨st.target, st.action.outline⟩

/-- The plan without the values that it binds. -/
def Plan.outline : Plan → Plan
  | single st => single st.outline
  | batch sts => batch (sts.map Statement.outline)

/-! ### Text -/

section
variable (d : Dialect)

theorem Assignment.textOf_outline (a : Assignment) :
    textOf d a.outline.pieces = textOf d a.pieces := by cases a <;> rfl

theorem Condition.textOf_outline (c : Condition) :
    textOf d c.outline.pieces = textOf d c.pieces := by
  obtain ⟨column, relation⟩ := c
  cases relation with
  | oneOf vs => simp [outline, Relation.outline, outlineOf, pieces, Piece.text, Function.comp_def]
  | _ => rfl

theorem textOf_wherePieces_outline (cs : List Condition) :
    textOf d (wherePieces (cs.map Condition.outline)) = textOf d (wherePieces cs) := by
  unfold wherePieces
  rw [List.isEmpty_map]
  split
  · rfl
  · simp only [textOf_cons, textOf_separate, List.map_map, Function.comp_def,
      Condition.textOf_outline]

/-- The text of a statement does not depend on the values that it binds. -/
theorem Statement.text_outline (st : Statement) :
    (st.outline.render d).text = (st.render d).text := by
  rw [render_eq, render_eq]
  obtain ⟨target, action⟩ := st
  cases action with
  | insert columns ttl =>
    simp [outline, Action.outline, Record.outline, pieces, Piece.text, Function.comp_def]
  | update assignments conditions ttl =>
    simp [outline, Action.outline, pieces, Function.comp_def, Assignment.textOf_outline,
      textOf_wherePieces_outline]
  | delete conditions =>
    simp [outline, Action.outline, pieces, textOf_wherePieces_outline]
  | select selection conditions =>
    simp [outline, Action.outline, pieces, textOf_wherePieces_outline]

end

theorem Plan.statements_outline (p : Plan) :
    p.outline.statements = p.statements.map Statement.outline := by cases p <;> rfl

/-- The text of a plan does not depend on the values that it binds. -/
theorem Plan.text_outline (p : Plan) : p.outline.text = p.text := by
  cases p with
  | single st => exact st.text_outline .plain
  | batch sts =>
    simp only [outline, text, Statement.text, List.map_map, Function.comp_def,
      Statement.text_outline]

/-! ### Plans of outlines -/

theorem RowKey.equalConditions_outline (k : RowKey) :
    k.outline.equalConditions.map Condition.outline = k.equalConditions.map Condition.outline := by
  cases k with
  | id value => rfl
  | composite key =>
    simp [outline, equalConditions, equalities, Record.outline, Condition.outline,
      Relation.outline, Function.comp_def]

theorem Criterion.asked_outline (field : String) (c : Criterion) :
    (c.outline.asked field).map Condition.outline = (c.asked field).map Condition.outline := by
  cases c with
  | scalar v => rfl
  | list vs => simp [outline, asked, Condition.outline, Relation.outline, outlineOf]
  | operators ops => simp [outline, asked, Condition.outline, Relation.outline, Function.comp_def]

theorem Filter.asked_outline (f : Filter) :
    f.outline.asked.map Condition.outline = f.asked.map Condition.outline := by
  simp only [asked, outline, List.flatMap_map, List.map_flatMap, Criterion.asked_outline]

theorem Criteria.asked_outline (c : Criteria) :
    c.outline.asked.map Condition.outline = c.asked.map Condition.outline := by
  cases c with
  | all => rfl
  | key k => exact k.equalConditions_outline
  | oneOf column values =>
    simp [outline, asked, Condition.outline, Relation.outline, outlineOf]
  | properties f => exact f.asked_outline
  | keyRange f => exact f.asked_outline
  | contains column v f =>
    simp only [outline, asked, List.map_cons, f.asked_outline]
    rfl

theorem BatchItem.action_outline (item : BatchItem) :
    item.outline.action.outline = item.action.outline := by
  cases item with
  | insert record ttl => simp [outline, action, Action.outline, Record.outline, Function.comp_def]
  | update key values =>
    simp [outline, action, Action.outline, Record.outline, Function.comp_def,
      RowKey.equalConditions_outline, Assignment.outline]

/-- The plan of an operation follows from its outline but for the values that it binds. -/
theorem Operation.plan_outline (t : TableName) (op : Operation) :
    (op.outline.plan t).outline = (op.plan t).outline := by
  cases op with
  | insert record ttl =>
    simp [outline, plan, Plan.outline, Statement.outline, Action.outline, Record.outline,
      Function.comp_def]
  | update key values ttl =>
    simp [outline, plan, Plan.outline, Statement.outline, Action.outline, Record.outline,
      Function.comp_def, RowKey.equalConditions_outline, Assignment.outline]
  | delete c =>
    simp [outline, plan, Plan.outline, Statement.outline, Action.outline, Criteria.asked_outline]
  | select c p =>
    simp [outline, plan, Plan.outline, Statement.outline, Action.outline, Criteria.asked_outline]
  | putEntry key column entry v =>
    simp [outline, plan, Plan.outline, Statement.outline, Action.outline, Assignment.outline,
      RowKey.equalConditions_outline]
  | removeEntry key column entry =>
    simp [outline, plan, Plan.outline, Statement.outline, Action.outline, Assignment.outline,
      RowKey.equalConditions_outline]
  | batch items =>
    simp [outline, plan, Plan.outline, Statement.outline, Function.comp_def,
      BatchItem.action_outline]

/-- Accepted operations of one outline have the same text. -/
theorem text_eq_of_outline {t : TableName} {op op' : Operation} {plan plan' : Plan}
    (h : compile t op = .ok plan) (h' : compile t op' = .ok plan')
    (ho : op'.outline = op.outline) :
    plan'.text = plan.text ∧
      ∀ d : Dialect, plan'.statements.map (fun st => (st.render d).text) =
        plan.statements.map fun st => (st.render d).text := by
  have he : plan'.outline = plan.outline := by
    rw [compile_eq_plan h, compile_eq_plan h', ← Operation.plan_outline t op',
      ← Operation.plan_outline t op, ho]
  refine ⟨?_, fun d => ?_⟩
  · rw [← plan'.text_outline, ← plan.text_outline, he]
  · have hs : ∀ p : Plan, p.statements.map (fun st => (st.render d).text) =
        p.outline.statements.map fun st => (st.render d).text := by
      intro p
      rw [p.statements_outline, List.map_map]
      exact List.map_congr_left fun st _ => (st.text_outline d).symm
    rw [hs plan', hs plan, he]

end Polystore
