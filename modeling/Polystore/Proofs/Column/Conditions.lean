import Polystore.Column.Compile
import Polystore.Proofs.Filter.Reading
import Polystore.Proofs.Json.Sameness
import Polystore.Proofs.Outcome
import Polystore.Table.Row

/-!
# What criteria ask of a row

`Criteria.admits` says which rows criteria address, from the values that a row has in its columns
and without any statement.  The conditions that criteria are turned into ask exactly that:

    c.conditions = .ok cs → cs.all (·.holdsIn value?) = c.admits value?     (all_conditions)

A filter is turned into conditions if and only if it has no group of alternatives, its fields are
identifiers, and its operators are allowed (`Filter.conditions_isOk_iff`).
-/

namespace Polystore

/-! ## Meaning -/

/-- Is the value a list or a map that holds `w`? -/
def Json.holdsItem (w : Json) : Json → Bool
  | .arr items => w.isAmong items
  | .obj fields => w.isAmong (fields.map Prod.snd)
  | _ => false

/-- Is the value on the right side of a bound?  Values without an order are not. -/
def Bound.meets (b : Bound) (w v : Json) : Bool :=
  match v.compare? w with
  | some o => b.admits o
  | none => false

/-- Does a column with this value, if it has one, satisfy the criterion? -/
def Criterion.admits (value? : Option Json) : Criterion → Bool
  | scalar w => value?.any fun v => v.same w
  | list ws => value?.any fun v => v.isAmong ws
  | operators ops => ops.bounds.all fun p => value?.any (p.1.meets p.2)

/-- Do the values of a row satisfy every entry of the filter? -/
def Filter.admits (value? : String → Option Json) (f : Filter) : Bool :=
  f.entries.all fun p => p.2.admits (value? p.1)

/-- Do the criteria address a row with these values? -/
def Criteria.admits (value? : String → Option Json) : Criteria → Bool
  | all => true
  | key k => k.equalities.all fun p => (value? p.1).any fun v => v.same p.2
  | oneOf column values => (value? column).any fun v => v.isAmong values
  | properties f => f.admits value?
  | keyRange f => f.admits value?
  | contains column w f => (value? column).any w.holdsItem && f.admits value?

/-- Does the value of the condition's column satisfy it? -/
def Condition.holdsIn (value? : String → Option Json) (c : Condition) : Bool :=
  (value? c.column).any c.relation.holds

theorem Condition.holds_eq_holdsIn (c : Condition) (r : Row) (now : Nat) :
    c.holds r now = c.holdsIn fun column => r.value? column now := by
  unfold Condition.holds Condition.holdsIn
  dsimp only
  cases r.value? c.column now <;> rfl

/-! ## Relations on single values -/

theorem Relation.bound_holds (b : Bound) (w v : Json) :
    (Relation.bound b w).holds v = b.meets w v := rfl

theorem Relation.contains_holds (w v : Json) : (Relation.contains w).holds v = w.holdsItem v := by
  cases v <;> rfl

theorem Json.holdsItem_congr {v v' : Json} (hv : v.isWellKeyed = true) (h : v.same v' = true)
    (w : Json) : w.holdsItem v = w.holdsItem v' := by
  cases v with
  | arr xs =>
    obtain ⟨ys, rfl⟩ := exists_of_same_arr h
    rw [isWellKeyed, areWellKeyed_iff] at hv
    rw [same_arr_iff, sameItems_iff] at h
    refine any_congr_of_forall₂ ?_
    rw [List.forall₂_iff_get] at h ⊢
    exact ⟨h.1, fun i hx hy => same_congr_left (hv _ (List.get_mem xs ⟨i, hx⟩)) (h.2 i hx hy) w⟩
  | obj fs =>
    obtain ⟨gs, rfl⟩ := exists_of_same_obj h
    obtain ⟨hn, hf⟩ := (isWellKeyed_obj_iff fs).1 hv
    have hp := keys_perm_of_same_obj hn h
    obtain ⟨-, hs⟩ := (same_obj_iff fs gs).1 h
    simp only [holdsItem, isAmong, List.any_map]
    rw [Bool.eq_iff_iff, List.any_eq_true, List.any_eq_true]
    constructor
    · rintro ⟨p, hm, hw⟩
      obtain ⟨x, hx, hpx⟩ := hs p hm
      exact ⟨(p.1, x), Assoc.mem_of_find?_eq_some hx, same_trans (same_symm (hf p hm) hpx) hw⟩
    · rintro ⟨q, hm, hw⟩
      -- the value under the same key of the first object is the same as that of `q`
      obtain ⟨x, hx⟩ := Assoc.exists_find?_of_mem_keys (hp.mem_iff.2 (Assoc.mem_keys_of_mem hm))
      obtain ⟨y, hy, hxy⟩ := hs _ (Assoc.mem_of_find?_eq_some hx)
      have hq := Assoc.find?_eq_some_of_mem (hp.nodup_iff.1 hn) hm
      obtain rfl : y = q.2 := Option.some.inj (hy.symm.trans hq)
      exact ⟨_, Assoc.mem_of_find?_eq_some hx, same_trans hxy hw⟩
  | _ => cases v' <;> simp_all [same, holdsItem]

/-- A relation does not tell same values apart. -/
theorem Relation.holds_congr {v v' : Json} (hv : v.isWellKeyed = true) (h : v.same v' = true)
    (r : Relation) : r.holds v = r.holds v' := by
  cases r with
  | equals w => exact Json.same_congr_left hv h w
  | oneOf ws => exact Json.isAmong_congr hv h ws
  | bound b w =>
    rw [bound_holds, bound_holds]
    unfold Bound.meets
    rw [Json.compare?_congr h w]
  | contains w =>
    rw [contains_holds, contains_holds]
    exact Json.holdsItem_congr hv h w

/-! ## Values that are the same -/

/-- Both columns are without a value, or their values are the same. -/
inductive SameValue : Option Json → Option Json → Prop where
  | none : SameValue none none
  | some {v w : Json} (hv : v.isWellKeyed = true) (h : v.same w = true) :
      SameValue (some v) (some w)

theorem SameValue.any_congr {u v : Option Json} (h : SameValue u v) {p : Json → Bool}
    (hp : ∀ x y : Json, x.isWellKeyed = true → x.same y = true → p x = p y) :
    u.any p = v.any p := by
  cases h with
  | none => rfl
  | some hv h => exact hp _ _ hv h

theorem Criterion.admits_congr {u v : Option Json} (h : SameValue u v) (c : Criterion) :
    c.admits u = c.admits v := by
  cases c with
  | scalar w => exact h.any_congr fun x y hx hs => Json.same_congr_left hx hs w
  | list ws => exact h.any_congr fun x y hx hs => Json.isAmong_congr hx hs ws
  | operators ops =>
    simp only [admits]
    congr 1
    funext p
    exact h.any_congr fun x y hx hs => Relation.holds_congr hx hs (.bound p.1 p.2)

theorem Filter.admits_congr {u v : String → Option Json} (h : ∀ c, SameValue (u c) (v c))
    (f : Filter) : f.admits u = f.admits v := by
  unfold admits
  congr 1
  funext p
  exact Criterion.admits_congr (h p.1) p.2

/-- Criteria do not tell rows with same values apart. -/
theorem Criteria.admits_congr {u v : String → Option Json} (h : ∀ c, SameValue (u c) (v c))
    (c : Criteria) : c.admits u = c.admits v := by
  cases c with
  | all => rfl
  | key k =>
    simp only [admits]
    congr 1
    funext p
    exact (h p.1).any_congr fun x y hx hs => Json.same_congr_left hx hs p.2
  | oneOf column values =>
    exact (h column).any_congr fun x y hx hs => Json.isAmong_congr hx hs values
  | properties f => exact Filter.admits_congr h f
  | keyRange f => exact Filter.admits_congr h f
  | contains column w f =>
    simp only [admits]
    rw [Filter.admits_congr h f]
    congr 1
    exact (h column).any_congr fun x y hx hs => Json.holdsItem_congr hx hs w

theorem Condition.holdsIn_congr {u v : String → Option Json} {c : Condition}
    (h : SameValue (u c.column) (v c.column)) : c.holdsIn u = c.holdsIn v :=
  h.any_congr fun _ _ hx hs => Relation.holds_congr hx hs c.relation

/-! ## Conditions of criteria -/

section
variable (value? : String → Option Json)

theorem Criterion.all_conditions {allowBounds : Bool} {field : String} {c : Criterion}
    {cs : List Condition} (h : c.conditions allowBounds field = .ok cs) :
    cs.all (·.holdsIn value?) = c.admits (value? field) := by
  cases c with
  | scalar v =>
    obtain rfl := Outcome.pure_eq_ok.1 h
    simp [Condition.holdsIn, admits, Relation.holds]
  | list vs =>
    obtain rfl := Outcome.pure_eq_ok.1 h
    simp [Condition.holdsIn, admits, Relation.holds]
  | operators ops =>
    simp only [conditions] at h
    split at h
    · obtain rfl := Outcome.pure_eq_ok.1 h
      simp only [List.all_map, admits]
      rfl
    · exact absurd h Outcome.throw_ne_ok

theorem Filter.all_entryConditions {allowBounds : Bool} {entries : List (String × Criterion)}
    {cs : List Condition} (h : entryConditions allowBounds entries = .ok cs) :
    cs.all (·.holdsIn value?) = entries.all fun p => p.2.admits (value? p.1) := by
  induction entries generalizing cs with
  | nil =>
    obtain rfl := Outcome.pure_eq_ok.1 h
    rfl
  | cons p entries ih =>
    simp only [entryConditions, Outcome.bind_eq_ok, Outcome.pure_eq_ok] at h
    obtain ⟨-, -, first, hf, others, ho, rfl⟩ := h
    rw [List.all_append, List.all_cons, ih ho, Criterion.all_conditions value? hf]

theorem Filter.all_conditions {allowBounds : Bool} {f : Filter} {cs : List Condition}
    (h : f.conditions allowBounds = .ok cs) :
    cs.all (·.holdsIn value?) = f.admits value? := by
  unfold Filter.conditions at h
  split at h
  · exact all_entryConditions value? h
  · exact absurd h Outcome.throw_ne_ok

theorem RowKey.all_conditions {k : RowKey} {cs : List Condition} (h : k.conditions = .ok cs) :
    cs.all (·.holdsIn value?) =
      k.equalities.all fun p => (value? p.1).any fun v => v.same p.2 := by
  simp only [conditions, Outcome.bind_eq_ok, Outcome.pure_eq_ok] at h
  obtain ⟨-, -, rfl⟩ := h
  simp only [List.all_map]
  rfl

/-- The conditions of criteria hold of a row exactly if the criteria address it. -/
theorem Criteria.all_conditions {c : Criteria} {cs : List Condition} (h : c.conditions = .ok cs) :
    cs.all (·.holdsIn value?) = c.admits value? := by
  cases c with
  | all =>
    obtain rfl := Outcome.pure_eq_ok.1 h
    rfl
  | key k =>
    simp only [conditions, Outcome.bind_eq_ok] at h
    obtain ⟨-, -, h⟩ := h
    exact RowKey.all_conditions value? h
  | oneOf column values =>
    simp only [conditions, Outcome.bind_eq_ok] at h
    obtain ⟨-, -, h⟩ := h
    split at h
    · exact absurd h Outcome.throw_ne_ok
    · split at h
      · obtain rfl := Outcome.pure_eq_ok.1 h
        simp [Condition.holdsIn, admits, Relation.holds]
      · exact absurd h Outcome.throw_ne_ok
  | properties f => exact Filter.all_conditions value? h
  | keyRange f => exact Filter.all_conditions value? h
  | contains column v f =>
    simp only [conditions, Outcome.bind_eq_ok] at h
    obtain ⟨-, -, h⟩ := h
    split at h
    · simp only [Outcome.bind_eq_ok, Outcome.pure_eq_ok] at h
      obtain ⟨others, ho, rfl⟩ := h
      rw [List.all_cons, Filter.all_conditions value? ho]
      simp only [Condition.holdsIn, admits]
      rw [show (Relation.contains v).holds = v.holdsItem from funext (Relation.contains_holds v)]
    · exact absurd h Outcome.throw_ne_ok

end

/-! ## Which filters are turned into conditions -/

/-- Are the criterion's operators such that a read can ask for them? -/
def Criterion.isAskable (allowBounds : Bool) : Criterion → Bool
  | operators ops => allowBounds && ops.affixes.isEmpty
  | _ => true

theorem Criterion.conditions_isOk_iff {allowBounds : Bool} (field : String) {c : Criterion} :
    (∃ cs, c.conditions allowBounds field = .ok cs) ↔ c.isAskable allowBounds = true := by
  cases c with
  | operators ops =>
    simp only [conditions, isAskable]
    split
    · next h => simp [h]
    · next h => simp [h]
  | _ => simp [conditions, isAskable]

theorem Filter.entryConditions_isOk_iff {allowBounds : Bool}
    {entries : List (String × Criterion)} :
    (∃ cs, entryConditions allowBounds entries = .ok cs) ↔
      ∀ p ∈ entries, Identifier.holds p.1 = true ∧ p.2.isAskable allowBounds = true := by
  induction entries with
  | nil => simp [entryConditions]
  | cons p entries ih =>
    rw [List.forall_mem_cons, ← ih, ← Criterion.conditions_isOk_iff p.1]
    simp only [entryConditions, Outcome.bind_eq_ok, Outcome.pure_eq_ok]
    constructor
    · rintro ⟨cs, _, hid, first, hf, others, ho, -⟩
      exact ⟨⟨Identifier.check_eq_ok.1 hid, first, hf⟩, others, ho⟩
    · rintro ⟨⟨hid, first, hf⟩, others, ho⟩
      exact ⟨_, (), Identifier.check_eq_ok.2 hid, first, hf, others, ho, rfl⟩

theorem Filter.conditions_isOk_iff {allowBounds : Bool} {f : Filter} :
    (∃ cs, f.conditions allowBounds = .ok cs) ↔
      f.anyOf = [] ∧
        ∀ p ∈ f.entries, Identifier.holds p.1 = true ∧ p.2.isAskable allowBounds = true := by
  rw [← entryConditions_isOk_iff, ← List.isEmpty_iff]
  unfold Filter.conditions
  split
  · next h => simp [h]
  · next h => simp [h]

/-! ## Columns of conditions -/

theorem Criterion.column_of_mem_conditions {allowBounds : Bool} {field : String} {c : Criterion}
    {cs : List Condition} (h : c.conditions allowBounds field = .ok cs) :
    ∀ d ∈ cs, d.column = field := by
  cases c with
  | operators ops =>
    simp only [conditions] at h
    split at h
    · obtain rfl := Outcome.pure_eq_ok.1 h
      intro d hd
      obtain ⟨p, -, rfl⟩ := List.mem_map.1 hd
      rfl
    · exact absurd h Outcome.throw_ne_ok
  | _ =>
    obtain rfl := Outcome.pure_eq_ok.1 h
    simp

/-- Every condition of a filter is on a field of one of its entries. -/
theorem Filter.exists_entry_of_mem_conditions {allowBounds : Bool} {f : Filter}
    {cs : List Condition} (h : f.conditions allowBounds = .ok cs) :
    ∀ d ∈ cs, ∃ p ∈ f.entries, p.1 = d.column := by
  unfold Filter.conditions at h
  split at h
  · generalize f.entries = entries at h
    induction entries generalizing cs with
    | nil =>
      obtain rfl := Outcome.pure_eq_ok.1 h
      simp
    | cons p entries ih =>
      simp only [entryConditions, Outcome.bind_eq_ok, Outcome.pure_eq_ok] at h
      obtain ⟨-, -, first, hf, others, ho, rfl⟩ := h
      intro d hd
      rcases List.mem_append.1 hd with hd | hd
      · exact ⟨p, List.mem_cons_self, (Criterion.column_of_mem_conditions hf d hd).symm⟩
      · obtain ⟨q, hq, hqd⟩ := ih ho d hd
        exact ⟨q, List.mem_cons_of_mem _ hq, hqd⟩
  · exact absurd h Outcome.throw_ne_ok

/-- A criterion that was read gives at least one condition. -/
theorem Criterion.conditions_ne_nil {allowBounds : Bool} {field : String} {c : Criterion}
    {cs : List Condition} (hc : c.Sound) (h : c.conditions allowBounds field = .ok cs) :
    cs ≠ [] := by
  cases c with
  | operators ops =>
    simp only [conditions] at h
    split at h
    · next ha =>
      obtain rfl := Outcome.pure_eq_ok.1 h
      rw [Bool.and_eq_true, List.isEmpty_iff] at ha
      rcases hc.exists_operator with hb | hb
      · simpa using hb
      · exact absurd ha.2 hb
    · exact absurd h Outcome.throw_ne_ok
  | _ =>
    obtain rfl := Outcome.pure_eq_ok.1 h
    simp

/-- Every field of a filter that was read occurs in one of its conditions. -/
theorem Filter.exists_condition_of_mem_entries {allowBounds : Bool} {f : Filter}
    {cs : List Condition} (hs : ∀ e ∈ f.entries, e.2.Sound)
    (h : f.conditions allowBounds = .ok cs) : ∀ e ∈ f.entries, ∃ d ∈ cs, d.column = e.1 := by
  unfold Filter.conditions at h
  split at h
  · generalize f.entries = entries at h hs
    induction entries generalizing cs with
    | nil => simp
    | cons p entries ih =>
      simp only [entryConditions, Outcome.bind_eq_ok, Outcome.pure_eq_ok] at h
      obtain ⟨-, -, first, hf, others, ho, rfl⟩ := h
      intro e he
      rcases List.mem_cons.1 he with rfl | he
      · have hne := Criterion.conditions_ne_nil (hs e List.mem_cons_self) hf
        obtain ⟨d, hd⟩ := List.exists_mem_of_ne_nil first hne
        exact ⟨d, List.mem_append_left _ hd, Criterion.column_of_mem_conditions hf d hd⟩
      · obtain ⟨d, hd, hde⟩ := ih ho (fun e he => hs e (List.mem_cons_of_mem _ he)) e he
        exact ⟨d, List.mem_append_right _ hd, hde⟩
  · exact absurd h Outcome.throw_ne_ok

end Polystore
