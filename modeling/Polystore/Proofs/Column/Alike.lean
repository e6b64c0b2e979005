import Polystore.Proofs.Column.Outline
import Polystore.Proofs.Json.Sameness

/-!
# Statements that differ in their values only

Two statements are alike if they are one statement but for values that are related, for some
relation of values: being equal, or being the same up to the order of keys.  An added entry is bound
as a map and the key of a removed one as a list, so the relation has to look inside of these
(`LooksInside`); keys of entries are then equal.

A statement is its outline and its bound values:

    st.outline = st'.outline → List.Forall₂ R (valuesOf (st.pieces d)) (valuesOf (st'.pieces d)) →
      st.Alike R st'                                                              (alike_of_values)
-/

namespace Polystore

variable {R : Json → Json → Prop} {d : Dialect}

/-! ## Alike statements -/

/-- One assignment to one column and one key, with related values. -/
inductive Assignment.Alike (R : Json → Json → Prop) : Assignment → Assignment → Prop
  | set (column : String) {v v' : Json} (h : R v v') : Alike R (.set column v) (.set column v')
  | put (column key : String) {v v' : Json} (h : R v v') :
    Alike R (.put column key v) (.put column key v')
  | remove (column key : String) : Alike R (.remove column key) (.remove column key)

/-- One relation to related values, as many in a list. -/
inductive Relation.Alike (R : Json → Json → Prop) : Relation → Relation → Prop
  | equals {v v' : Json} (h : R v v') : Alike R (.equals v) (.equals v')
  | oneOf {vs vs' : List Json} (h : List.Forall₂ R vs vs') : Alike R (.oneOf vs) (.oneOf vs')
  | bound (b : Bound) {v v' : Json} (h : R v v') : Alike R (.bound b v) (.bound b v')
  | contains {v v' : Json} (h : R v v') : Alike R (.contains v) (.contains v')

/-- One condition on one column, with related values. -/
structure Condition.Alike (R : Json → Json → Prop) (c c' : Condition) : Prop where
  column : c.column = c'.column
  relation : Relation.Alike R c.relation c'.relation

/-- One action, with related values. -/
inductive Action.Alike (R : Json → Json → Prop) : Action → Action → Prop
  | insert {columns columns' : Record} (ttl : Option Int)
    (h : List.Forall₂ (fun p p' => p.1 = p'.1 ∧ R p.2 p'.2) columns columns') :
    Alike R (.insert columns ttl) (.insert columns' ttl)
  | update {assignments assignments' : List Assignment} {cs cs' : List Condition}
    (ttl : Option Int) (ha : List.Forall₂ (Assignment.Alike R) assignments assignments')
    (hc : List.Forall₂ (Condition.Alike R) cs cs') :
    Alike R (.update assignments cs ttl) (.update assignments' cs' ttl)
  | delete {cs cs' : List Condition} (hc : List.Forall₂ (Condition.Alike R) cs cs') :
    Alike R (.delete cs) (.delete cs')
  | select (selection : Selection) {cs cs' : List Condition}
    (hc : List.Forall₂ (Condition.Alike R) cs cs') :
    Alike R (.select selection cs) (.select selection cs')

/-- One statement on one table, with related values. -/
structure Statement.Alike (R : Json → Json → Prop) (st st' : Statement) : Prop where
  target : st.target = st'.target
  action : Action.Alike R st.action st'.action

/-! ### Equal values -/

theorem eq_of_forall₂ {α : Type} {S : α → α → Prop} (hS : ∀ a a', S a a' → a = a') {l l' : List α}
    (h : List.Forall₂ S l l') : l = l' := by
  have he := h.imp hS
  rwa [List.forall₂_eq_eq_eq] at he

theorem Assignment.Alike.eq {a a' : Assignment} (h : Alike Eq a a') : a = a' := by
  cases h with
  | set column h => rw [h]
  | put column key h => rw [h]
  | remove column key => rfl

theorem Relation.Alike.eq {r r' : Relation} (h : Alike Eq r r') : r = r' := by
  cases h with
  | equals h => rw [h]
  | oneOf h => rw [eq_of_forall₂ (fun _ _ he => he) h]
  | bound b h => rw [h]
  | contains h => rw [h]

theorem Condition.Alike.eq {c c' : Condition} (h : Alike Eq c c') : c = c' := by
  obtain ⟨column, relation⟩ := c
  obtain ⟨column', relation'⟩ := c'
  obtain rfl : column = column' := h.column
  obtain rfl : relation = relation' := h.relation.eq
  rfl

theorem Action.Alike.eq {a a' : Action} (h : Alike Eq a a') : a = a' := by
  have hcs : ∀ {cs cs' : List Condition}, List.Forall₂ (Condition.Alike Eq) cs cs' → cs = cs' :=
    eq_of_forall₂ fun _ _ => Condition.Alike.eq
  cases h with
  | insert ttl h => rw [eq_of_forall₂ (fun _ _ he => Prod.ext he.1 he.2) h]
  | update ttl ha hc => rw [eq_of_forall₂ (fun _ _ => Assignment.Alike.eq) ha, hcs hc]
  | delete hc => rw [hcs hc]
  | select selection hc => rw [hcs hc]

/-- Statements that are alike with equal values are one statement. -/
theorem Statement.Alike.eq {st st' : Statement} (h : Alike Eq st st') : st = st' := by
  obtain ⟨t, action⟩ := st
  obtain ⟨t', action'⟩ := st'
  obtain rfl : t = t' := h.target
  obtain rfl : action = action' := h.action.eq
  rfl

/-! ## Outlines and values -/

/-- Related maps of one entry have one key and related values, and so have lists of one key. -/
structure LooksInside (R : Json → Json → Prop) : Prop where
  entry : ∀ {k k' : String} {v v' : Json}, R (.obj [(k, v)]) (.obj [(k', v')]) → k = k' ∧ R v v'
  key : ∀ {k k' : String}, R (.arr [.str k]) (.arr [.str k']) → k = k'

section
variable {α β : Type} {S : α → α → Prop} {outline : α → β} {values : α → List Json}

/-- Related lists are cut at one place. -/
theorem forall₂_append {xs xs' ys ys' : List Json} (hl : xs.length = xs'.length)
    (h : List.Forall₂ R (xs ++ ys) (xs' ++ ys')) :
    List.Forall₂ R xs xs' ∧ List.Forall₂ R ys ys' := by
  have htake := List.forall₂_take_append _ _ _ h
  have hdrop := List.forall₂_drop_append _ _ _ h
  rw [← hl] at htake hdrop
  rw [List.take_left] at htake
  rw [List.drop_left] at hdrop
  exact ⟨htake, hdrop⟩

/-- Items of one outline share out a list of values in one way. -/
theorem forall₂_of_outline (hl : ∀ a a', outline a = outline a' →
      (values a).length = (values a').length)
    (hS : ∀ a a', outline a = outline a' → List.Forall₂ R (values a) (values a') → S a a')
    {as as' : List α} (ho : as.map outline = as'.map outline)
    (hv : List.Forall₂ R (as.flatMap values) (as'.flatMap values)) : List.Forall₂ S as as' := by
  induction as generalizing as' with
  | nil =>
    rw [List.map_eq_nil_iff.1 ho.symm]
    exact .nil
  | cons a as ih =>
    cases as' with
    | nil => cases ho
    | cons a' as' =>
      obtain ⟨ho, hos⟩ := List.cons.inj ho
      rw [List.flatMap_cons, List.flatMap_cons] at hv
      obtain ⟨hv, hvs⟩ := forall₂_append (hl a a' ho) hv
      exact .cons (hS a a' ho hv) (ih hos hvs)

/-- Items of one outline have as many values. -/
theorem length_flatMap_of_outline (hl : ∀ a a', outline a = outline a' →
      (values a).length = (values a').length) {as as' : List α}
    (ho : as.map outline = as'.map outline) :
    (as.flatMap values).length = (as'.flatMap values).length := by
  induction as generalizing as' with
  | nil => rw [List.map_eq_nil_iff.1 ho.symm]
  | cons a as ih =>
    cases as' with
    | nil => cases ho
    | cons a' as' =>
      obtain ⟨ho, hos⟩ := List.cons.inj ho
      rw [List.flatMap_cons, List.flatMap_cons, List.length_append, List.length_append, hl a a' ho,
        ih hos]

end

theorem Assignment.length_values (a : Assignment) : (valuesOf a.pieces).length = 1 := by
  cases a <;> rfl

theorem Assignment.alike_of_values (hR : LooksInside R) {a a' : Assignment}
    (ho : a.outline = a'.outline) (hv : List.Forall₂ R (valuesOf a.pieces) (valuesOf a'.pieces)) :
    Alike R a a' := by
  cases a with
  | set c v =>
    cases a' with
    | set c' v' =>
      obtain rfl : c = c' := by simpa [outline] using ho
      exact .set c (List.forall₂_cons.1 hv).1
    | _ => cases ho
  | put c k v =>
    cases a' with
    | put c' k' v' =>
      obtain rfl : c = c' := by simpa [outline] using ho
      obtain ⟨rfl, h⟩ := hR.entry (List.forall₂_cons.1 hv).1
      exact .put c k h
    | _ => cases ho
  | remove c k =>
    cases a' with
    | remove c' k' =>
      obtain rfl : c = c' := by simpa [outline] using ho
      obtain rfl := hR.key (List.forall₂_cons.1 hv).1
      exact .remove c k
    | _ => cases ho

/-- The values that a relation compares with. -/
def Relation.values : Relation → List Json
  | equals v => [v]
  | oneOf vs => vs
  | bound _ v => [v]
  | contains v => [v]

theorem Condition.valuesOf_pieces (c : Condition) : valuesOf c.pieces = c.relation.values := by
  obtain ⟨column, relation⟩ := c
  cases relation with
  | oneOf vs => simp [pieces, Relation.values, Piece.value?, List.flatMap_map]
  | _ => rfl

theorem Relation.length_values_outline (r : Relation) :
    r.outline.values.length = r.values.length := by
  cases r <;> simp [outline, values, outlineOf]

theorem Relation.alike_of_values {r r' : Relation} (ho : r.outline = r'.outline)
    (hv : List.Forall₂ R r.values r'.values) : Alike R r r' := by
  cases r with
  | equals v =>
    cases r' with
    | equals v' => exact .equals (List.forall₂_cons.1 hv).1
    | _ => cases ho
  | oneOf vs =>
    cases r' with
    | oneOf vs' => exact .oneOf hv
    | _ => cases ho
  | bound b v =>
    cases r' with
    | bound b' v' =>
      obtain rfl : b = b' := by simpa [outline] using ho
      exact .bound b (List.forall₂_cons.1 hv).1
    | _ => cases ho
  | contains v =>
    cases r' with
    | contains v' => exact .contains (List.forall₂_cons.1 hv).1
    | _ => cases ho

theorem Condition.alike_of_values {c c' : Condition} (ho : c.outline = c'.outline)
    (hv : List.Forall₂ R (valuesOf c.pieces) (valuesOf c'.pieces)) : Alike R c c' := by
  rw [valuesOf_pieces, valuesOf_pieces] at hv
  obtain ⟨hcolumn, hrelation⟩ := Condition.mk.inj ho
  exact ⟨hcolumn, Relation.alike_of_values hrelation hv⟩

/-! ### Statements -/

theorem valuesOf_wherePieces (cs : List Condition) :
    valuesOf (wherePieces cs) = cs.flatMap fun c => valuesOf c.pieces := by
  cases cs with
  | nil => rfl
  | cons c cs => simp [wherePieces, Piece.value?, List.flatMap_map]

theorem conditions_alike_of_values {cs cs' : List Condition}
    (ho : cs.map Condition.outline = cs'.map Condition.outline)
    (hv : List.Forall₂ R (valuesOf (wherePieces cs)) (valuesOf (wherePieces cs'))) :
    List.Forall₂ (Condition.Alike R) cs cs' := by
  rw [valuesOf_wherePieces, valuesOf_wherePieces] at hv
  refine forall₂_of_outline (fun c c' h => ?_) (fun c c' => Condition.alike_of_values) ho hv
  rw [c.valuesOf_pieces, c'.valuesOf_pieces, ← Relation.length_values_outline,
    (Condition.mk.inj h).2, Relation.length_values_outline]

/-- Statements of one outline with related values are alike. -/
theorem Statement.alike_of_values (hR : LooksInside R) {st st' : Statement}
    (ho : st.outline = st'.outline)
    (hv : List.Forall₂ R (valuesOf (st.pieces d)) (valuesOf (st'.pieces d))) :
    st.Alike R st' := by
  obtain ⟨t, action⟩ := st
  obtain ⟨t', action'⟩ := st'
  obtain ⟨htarget, haction⟩ := Statement.mk.inj ho
  refine ⟨htarget, ?_⟩
  cases action with
  | insert columns ttl =>
    cases action' with
    | insert columns' ttl' =>
      obtain ⟨hcolumns, rfl⟩ := Action.insert.inj haction
      have hnames : ∀ r : Record, (r.flatMap fun _ => ([] : List Json)) = [] := by simp
      have hvalues : List.Forall₂ R (columns.flatMap fun p => [p.2])
          (columns'.flatMap fun p => [p.2]) := by
        simpa [pieces, Piece.value?, List.flatMap_map, hnames] using hv
      refine .insert ttl
        (forall₂_of_outline (fun _ _ _ => rfl) (fun p p' h hp => ?_) hcolumns hvalues)
      exact ⟨(Prod.mk.inj h).1, (List.forall₂_cons.1 hp).1⟩
    | _ => cases haction
  | update assignments cs ttl =>
    cases action' with
    | update assignments' cs' ttl' =>
      obtain ⟨ha, hcs, rfl⟩ := Action.update.inj haction
      have hl : ∀ a a' : Assignment, a.outline = a'.outline →
          (valuesOf a.pieces).length = (valuesOf a'.pieces).length := fun a a' _ =>
        a.length_values.trans a'.length_values.symm
      simp only [pieces, valuesOf_append, valuesOf_cons, valuesOf_separate, valuesOf_target,
        valuesOf_ttlPieces, List.flatMap_map, Piece.value?, Option.toList_none, List.nil_append,
        List.cons_append] at hv
      obtain ⟨hassignments, hconditions⟩ := forall₂_append (length_flatMap_of_outline hl ha) hv
      exact .update ttl
        (forall₂_of_outline hl (fun _ _ => Assignment.alike_of_values hR) ha hassignments)
        (conditions_alike_of_values hcs hconditions)
    | _ => cases haction
  | delete cs =>
    cases action' with
    | delete cs' =>
      have hconditions : List.Forall₂ R (valuesOf (wherePieces cs))
          (valuesOf (wherePieces cs')) := by
        simpa [pieces, Piece.value?] using hv
      exact .delete (conditions_alike_of_values (Action.delete.inj haction) hconditions)
    | _ => cases haction
  | select selection cs =>
    cases action' with
    | select selection' cs' =>
      obtain ⟨rfl, hcs⟩ := Action.select.inj haction
      have hconditions : List.Forall₂ R (valuesOf (wherePieces cs))
          (valuesOf (wherePieces cs')) := by
        simpa [pieces, Piece.value?] using hv
      exact .select selection (conditions_alike_of_values hcs hconditions)
    | _ => cases haction

end Polystore
