import Polystore.Proofs.Column.Alike
import Polystore.Proofs.Column.Legible

/-!
# Statements can be read back

Nothing is lost when a compiled statement is rendered.  Its text decides all of it but the bound
values, and these are given in the order of their markers:

    st.IsLegible → st'.IsLegible →
      ((st.render d).text = (st'.render d).text ↔ st.outline = st'.outline)          (text_eq_iff)

A read of remaining times without columns would be written like one with an empty list of columns,
but no operation is compiled to it (`isLegible_of_compile`).
-/

namespace Polystore

variable {d : Dialect}

attribute [local simp] Piece.text Identifier.not_isPart

/-! ## Tables and times to live -/

theorem areIdentifiers_pair {s s' : String} :
    AreIdentifiers [s, s'] ↔ Identifier.holds s = true ∧ Identifier.holds s' = true := by
  simp [AreIdentifiers]

theorem target_append_inj {t t' : TableName} (ht : AreIdentifiers [t.keyspace, t.table])
    (ht' : AreIdentifiers [t'.keyspace, t'.table]) {r r' : List Char} (hr : EndsName r.head?)
    (hr' : EndsName r'.head?) (h : charsOf d t.pieces ++ r = charsOf d t'.pieces ++ r') :
    t = t' ∧ r = r' := by
  obtain ⟨k, t⟩ := t
  obtain ⟨k', t'⟩ := t'
  obtain ⟨hk, ht⟩ := areIdentifiers_pair.1 ht
  obtain ⟨hk', ht'⟩ := areIdentifiers_pair.1 ht'
  simp only [TableName.pieces, charsOf_cons, charsOf_nil, List.append_nil, List.append_assoc] at h
  obtain ⟨rfl, hdot⟩ := name_append_inj hk hk' (by simp) (by simp) h
  obtain ⟨rfl, rfl⟩ := name_append_inj ht ht' hr hr' (List.append_cancel_left hdot)
  exact ⟨rfl, rfl⟩

/-- A time to live at the end of an insertion. -/
theorem ttl_inj {ttl ttl' : Option Int}
    (h : charsOf d (ttlPieces ttl) = charsOf d (ttlPieces ttl')) : ttl = ttl' := by
  cases ttl with
  | none =>
    cases ttl' with
    | none => rfl
    | some n' => simp [ttlPieces] at h
  | some n =>
    cases ttl' with
    | none => simp [ttlPieces] at h
    | some n' =>
      simp only [ttlPieces, charsOf_cons, charsOf_nil] at h
      obtain ⟨rfl, -⟩ := seconds_append_inj (by simp) (by simp) (List.append_cancel_left h)
      rfl

/-- A time to live before the assignments of an update. -/
theorem ttl_append_inj {ttl ttl' : Option Int} {r r' : List Char}
    (h : charsOf d (ttlPieces ttl) ++ (" SET ".toList ++ r) =
      charsOf d (ttlPieces ttl') ++ (" SET ".toList ++ r')) : ttl = ttl' ∧ r = r' := by
  cases ttl with
  | none =>
    cases ttl' with
    | none => exact ⟨rfl, by simpa [ttlPieces] using h⟩
    | some n' => simp [ttlPieces] at h
  | some n =>
    cases ttl' with
    | none => simp [ttlPieces] at h
    | some n' =>
      simp only [ttlPieces, charsOf_cons, charsOf_nil, List.append_assoc, List.nil_append] at h
      obtain ⟨rfl, hset⟩ := seconds_append_inj (by simp) (by simp) (List.append_cancel_left h)
      exact ⟨rfl, List.append_cancel_left hset⟩

/-! ## Assignments and conditions -/

/-- An assignment starts with its column. -/
theorem Assignment.pieces_eq (a : Assignment) :
    a.pieces = .name a.column :: .word " = " :: a.pieces.drop 2 := by cases a <;> rfl

theorem Assignment.legible :
    Legible d (fun _ => True) (fun a : Assignment => Identifier.holds a.column = true)
      Assignment.pieces Assignment.outline := by
  intro a a' ha ha' r r' _ _ h
  rw [a.pieces_eq, a'.pieces_eq] at h
  simp only [charsOf_cons, List.append_assoc] at h
  obtain ⟨hcolumn, h⟩ := name_append_inj ha ha' (by simp) (by simp) h
  replace h := List.append_cancel_left h
  cases a with
  | set c v =>
    cases a' with
    | set c' v' =>
      obtain rfl : c = c' := hcolumn
      exact ⟨rfl, by simpa [pieces] using h⟩
    | put c' k' v' =>
      exact absurd (by simpa [pieces, column] using h) (marker_append_ne ha' _ _)
    | remove c' k' =>
      exact absurd (by simpa [pieces, column] using h) (marker_append_ne ha' _ _)
  | put c k v =>
    cases a' with
    | set c' v' =>
      exact absurd (by simpa [pieces, column] using h.symm) (marker_append_ne ha _ _)
    | put c' k' v' =>
      obtain rfl : c = c' := hcolumn
      exact ⟨rfl, by simpa [pieces] using h⟩
    | remove c' k' =>
      obtain rfl : c = c' := hcolumn
      simp [pieces] at h
  | remove c k =>
    cases a' with
    | set c' v' =>
      exact absurd (by simpa [pieces, column] using h.symm) (marker_append_ne ha _ _)
    | put c' k' v' =>
      obtain rfl : c = c' := hcolumn
      simp [pieces] at h
    | remove c' k' =>
      obtain rfl : c = c' := hcolumn
      exact ⟨rfl, by simpa [pieces] using h⟩

/-- A condition starts with its column. -/
theorem Condition.pieces_eq (c : Condition) : c.pieces = .name c.column :: c.pieces.drop 1 := by
  obtain ⟨column, relation⟩ := c
  cases relation <;> rfl

/-- The column of a condition is followed by a blank. -/
theorem Condition.endsName_drop_pieces (c : Condition) (r : List Char) :
    EndsName (charsOf d (c.pieces.drop 1) ++ r).head? := by
  obtain ⟨column, relation⟩ := c
  cases relation <;> simp [pieces]

theorem Condition.legible :
    Legible d (fun _ => True) (fun c : Condition => Identifier.holds c.column = true)
      Condition.pieces Condition.outline := by
  intro c c' hc hc' r r' _ _ h
  rw [c.pieces_eq, c'.pieces_eq] at h
  simp only [charsOf_cons, List.append_assoc] at h
  obtain ⟨hcolumn, h⟩ := name_append_inj hc hc' (c.endsName_drop_pieces r)
    (c'.endsName_drop_pieces r') h
  obtain ⟨column, relation⟩ := c
  obtain ⟨column', relation'⟩ := c'
  obtain rfl : column = column' := hcolumn
  cases relation with
  | equals v =>
    cases relation' with
    | equals v' =>
      exact ⟨rfl, by simpa [pieces] using h⟩
    | bound b' v' => cases b' <;> simp [pieces, Bound.symbol] at h
    | _ => simp [pieces] at h
  | oneOf vs =>
    cases relation' with
    | oneOf vs' =>
      simp only [pieces, List.cons_append, List.nil_append, List.drop_succ_cons, List.drop_zero,
        charsOf_cons, charsOf_append, List.append_assoc] at h
      obtain ⟨hvs, h⟩ := legible_values (d := d) id vs vs' (by simp) (by simp) _ _ (by simp)
        (by simp) (List.append_cancel_left h)
      exact ⟨by simp [outline, Relation.outline, outlineOf, hvs], by simpa using h⟩
    | bound b' v' => cases b' <;> simp [pieces, Bound.symbol] at h
    | _ => simp [pieces] at h
  | bound b v =>
    cases relation' with
    | bound b' v' =>
      cases b <;> cases b' <;> simp [pieces, Bound.symbol] at h <;> exact ⟨rfl, h⟩
    | _ => cases b <;> simp [pieces, Bound.symbol] at h
  | contains v =>
    cases relation' with
    | contains v' =>
      exact ⟨rfl, by simpa [pieces] using h⟩
    | bound b' v' => cases b' <;> simp [pieces, Bound.symbol] at h
    | _ => simp [pieces] at h

/-- Conditions stand at the end of a statement, and start with a blank if there are any. -/
theorem head?_where (cs : List Condition) :
    (charsOf d (wherePieces cs)).head? = none ∨ (charsOf d (wherePieces cs)).head? = some ' ' := by
  cases cs with
  | nil => exact .inl (by simp [wherePieces])
  | cons c cs => exact .inr (by simp [wherePieces])

theorem endsName_of_blank {o : Option Char} (h : o = none ∨ o = some ' ') : EndsName o := by
  rcases h with rfl | rfl <;> simp

theorem endsName_where (cs : List Condition) : EndsName (charsOf d (wherePieces cs)).head? :=
  endsName_of_blank (head?_where cs)

theorem where_inj {cs cs' : List Condition} (hcs : AreIdentifiers (cs.map Condition.column))
    (hcs' : AreIdentifiers (cs'.map Condition.column))
    (h : charsOf d (wherePieces cs) = charsOf d (wherePieces cs')) :
    cs.map Condition.outline = cs'.map Condition.outline := by
  have hall : Legible d (fun o => o = none)
      (fun cs : List Condition => ∀ c ∈ cs, Identifier.holds c.column = true)
      (fun cs => separate " AND " (cs.map Condition.pieces)) (List.map Condition.outline) :=
    Condition.legible.separated (c := ' ') (by simp) trivial (fun _ _ => trivial) (by simp)
      fun c hc r ho => by
        rw [c.pieces_eq] at ho
        exact not_endsName_pieces hc _ r (ho ▸ endsName_none)
  cases cs with
  | nil =>
    cases cs' with
    | nil => rfl
    | cons c' cs' => simp [wherePieces] at h
  | cons c cs =>
    cases cs' with
    | nil => simp [wherePieces] at h
    | cons c' cs' =>
      simp only [wherePieces, List.isEmpty_cons, Bool.false_eq_true, if_false, charsOf_cons] at h
      exact (hall _ _ (List.forall_mem_map.1 hcs) (List.forall_mem_map.1 hcs') [] [] rfl rfl
        (by simpa using List.append_cancel_left h)).1

/-! ## Selections -/

/-- One of the things that a read returns. -/
inductive Selector where
  | all
  | column (c : String)
  | left (c name : String)

def Selector.pieces : Selector → List Piece
  | all => [.word "*"]
  | column c => [.name c]
  | left c name => [.word "TTL(", .name c, .word ") AS ", .name name]

/-- The names that a selector reads and gives. -/
def Selector.names : Selector → List String
  | all => []
  | column c => [c]
  | left c name => [c, name]

/-- The column that a selector returns. -/
def Selector.column? : Selector → Option String
  | column c => some c
  | _ => none

/-- The remaining time that a selector returns, with its name. -/
def Selector.left? : Selector → Option (String × String)
  | left c name => some (c, name)
  | _ => none

/-- What a read returns, one by one. -/
def Selection.selectors (s : Selection) : List Selector :=
  (match s.columns with
    | some columns => columns.map .column
    | none => if s.ttl.isEmpty then [.all] else []) ++
  s.ttl.map fun p => .left p.1 p.2

theorem Selection.pieces_eq (s : Selection) :
    s.pieces = separate ", " (s.selectors.map Selector.pieces) := by
  unfold pieces selectors
  cases s.columns with
  | some columns => simp [Selector.pieces, Function.comp_def]
  | none => by_cases h : s.ttl.isEmpty = true <;> simp [h, Selector.pieces, Function.comp_def]

/-- Remaining times come with columns that are read. -/
def Selection.IsDefinite (s : Selection) : Prop := s.columns = none → s.ttl = []

theorem filterMap_column? (columns : List String) (ttl : List (String × String)) :
    (columns.map Selector.column ++ ttl.map fun p => Selector.left p.1 p.2).filterMap
      Selector.column? = columns := by
  simp [List.filterMap_map, Selector.column?, Function.comp_def]

theorem filterMap_left? (columns : List String) (ttl : List (String × String)) :
    (columns.map Selector.column ++ ttl.map fun p => Selector.left p.1 p.2).filterMap
      Selector.left? = ttl := by
  simp [List.filterMap_map, Selector.left?, Function.comp_def]

/-- A definite selection is known by what it lists. -/
theorem Selection.eq_of_selectors {s s' : Selection} (hs : s.IsDefinite) (hs' : s'.IsDefinite)
    (h : s.selectors = s'.selectors) : s = s' := by
  obtain ⟨columns, ttl⟩ := s
  obtain ⟨columns', ttl'⟩ := s'
  cases columns with
  | none =>
    obtain rfl : ttl = [] := hs rfl
    cases columns' with
    | none => rw [show ttl' = [] from hs' rfl]
    | some columns' => cases columns' <;> cases ttl' <;> simp [selectors] at h
  | some columns =>
    cases columns' with
    | none =>
      obtain rfl : ttl' = [] := hs' rfl
      cases columns <;> cases ttl <;> simp [selectors] at h
    | some columns' =>
      have hcolumns := congrArg (List.filterMap Selector.column?) h
      have hleft := congrArg (List.filterMap Selector.left?) h
      simp only [selectors, filterMap_column?, filterMap_left?] at hcolumns hleft
      rw [hcolumns, hleft]

/-- A column whose name is `TTL` is told from a remaining time by what follows it. -/
theorem Selector.column_ne_left {c : String} (hc : Identifier.holds c = true) (c' name : String)
    {r : List Char} (hr : r.head? = some ',' ∨ r.head? = some ' ') (r' : List Char) :
    charsOf d (column c).pieces ++ r ≠ charsOf d (left c' name).pieces ++ r' := by
  have hname : Identifier.holds "TTL" = true := by decide
  have hends : EndsName r.head? := by
    rcases hr with hr | hr <;> rw [hr, endsName_some] <;> decide
  intro h
  have h' : c.toList ++ r =
      "TTL".toList ++ '(' :: (c'.toList ++ (") AS ".toList ++ (name.toList ++ r'))) := by
    simpa [pieces] using h
  obtain ⟨-, rfl⟩ := name_append_inj hc hname hends (by simp) h'
  simp at hr

theorem Selector.legible :
    Legible d (fun o => o = some ',' ∨ o = some ' ') (fun s : Selector => AreIdentifiers s.names)
      Selector.pieces id := by
  intro s s' hs hs' r r' hr hr' h
  have hends : ∀ r : List Char, r.head? = some ',' ∨ r.head? = some ' ' → EndsName r.head? := by
    rintro r (hr | hr) <;> rw [hr, endsName_some] <;> decide
  cases s with
  | all =>
    cases s' with
    | all => exact ⟨rfl, by simpa [pieces] using h⟩
    | column c' =>
      refine absurd ?_ (not_endsName_pieces (d := d) (hs' c' List.mem_cons_self) [] r')
      rw [show charsOf d [.name c'] ++ r' = _ from h.symm]
      simp [pieces]
    | left c' name' => simp [pieces] at h
  | column c =>
    cases s' with
    | all =>
      refine absurd ?_ (not_endsName_pieces (d := d) (hs c List.mem_cons_self) [] r)
      rw [show charsOf d [.name c] ++ r = _ from h]
      simp [pieces]
    | column c' =>
      obtain ⟨rfl, hrest⟩ := legible_name (d := d) id c c' (hs c List.mem_cons_self)
        (hs' c' List.mem_cons_self) r r' (hends r hr) (hends r' hr') h
      exact ⟨rfl, hrest⟩
    | left c' name' => exact absurd h (column_ne_left (hs c List.mem_cons_self) c' name' hr r')
  | left c name =>
    cases s' with
    | all => simp [pieces] at h
    | column c' => exact absurd h.symm (column_ne_left (hs' c' List.mem_cons_self) c name hr' r)
    | left c' name' =>
      obtain ⟨hc, hname⟩ := areIdentifiers_pair.1 hs
      obtain ⟨hc', hname'⟩ := areIdentifiers_pair.1 hs'
      simp only [pieces, charsOf_cons, charsOf_nil, List.append_nil, List.append_assoc] at h
      obtain ⟨rfl, h₁⟩ := name_append_inj hc hc' (by simp) (by simp)
        (List.append_cancel_left h)
      obtain ⟨rfl, hrest⟩ := name_append_inj hname hname' (hends r hr) (hends r' hr')
        (List.append_cancel_left h₁)
      exact ⟨rfl, hrest⟩

/-- No selector starts with a blank. -/
theorem Selector.head?_ne {s : Selector} (hs : AreIdentifiers s.names) (r : List Char) :
    (charsOf d s.pieces ++ r).head? ≠ some ' ' := by
  cases s with
  | all => simp [pieces]
  | column c =>
    intro h
    refine not_endsName_pieces (d := d) (hs c List.mem_cons_self) [] r ?_
    rw [show (charsOf d [.name c] ++ r).head? = _ from h]
    simp
  | left c name => simp [pieces]

theorem selection_append_inj {s s' : Selection} (hd : s.IsDefinite) (hd' : s'.IsDefinite)
    (hs : ∀ t ∈ s.selectors, AreIdentifiers t.names)
    (hs' : ∀ t ∈ s'.selectors, AreIdentifiers t.names) {r r' : List Char}
    (hr : r.head? = some ' ') (hr' : r'.head? = some ' ')
    (h : charsOf d s.pieces ++ r = charsOf d s'.pieces ++ r') : s = s' ∧ r = r' := by
  rw [s.pieces_eq, s'.pieces_eq] at h
  obtain ⟨he, hrest⟩ := Selector.legible.separated (c := ',') (by simp) (.inl rfl)
    (fun _ ho => .inr ho) (by simp) (fun t ht r => t.head?_ne ht r) _ _ hs hs' r r' hr hr' h
  rw [List.map_id, List.map_id] at he
  exact ⟨Selection.eq_of_selectors hd hd' he, hrest⟩

/-! ## Statements -/

section
variable {t t' : TableName} (ht : AreIdentifiers [t.keyspace, t.table])
  (ht' : AreIdentifiers [t'.keyspace, t'.table])

include ht ht'

theorem insert_inj {columns columns' : Record} {ttl ttl' : Option Int}
    (hn : AreIdentifiers (columns.map Prod.fst)) (hn' : AreIdentifiers (columns'.map Prod.fst))
    (h : charsOf d (Statement.pieces d ⟨t, .insert columns ttl⟩) =
      charsOf d (Statement.pieces d ⟨t', .insert columns' ttl'⟩)) :
    t = t' ∧ columns.map Prod.fst = columns'.map Prod.fst ∧ ttl = ttl' := by
  simp only [Statement.pieces, charsOf_cons, charsOf_append, List.append_assoc,
    List.cons_append] at h
  obtain ⟨htarget, h₁⟩ := target_append_inj ht ht' (by simp) (by simp) (List.append_cancel_left h)
  obtain ⟨hnames, h₂⟩ := legible_names Prod.fst columns columns' (List.forall_mem_map.1 hn)
    (List.forall_mem_map.1 hn') _ _ (by simp) (by simp) (List.append_cancel_left h₁)
  obtain ⟨-, h₃⟩ := legible_values Prod.snd columns columns' (by simp) (by simp) _ _ (by simp)
    (by simp) (List.append_cancel_left h₂)
  exact ⟨htarget, hnames, ttl_inj (List.append_cancel_left h₃)⟩

theorem update_inj {assignments assignments' : List Assignment} {cs cs' : List Condition}
    {ttl ttl' : Option Int} (ha : AreIdentifiers (assignments.map Assignment.column))
    (ha' : AreIdentifiers (assignments'.map Assignment.column))
    (hcs : AreIdentifiers (cs.map Condition.column))
    (hcs' : AreIdentifiers (cs'.map Condition.column))
    (h : charsOf d (Statement.pieces d ⟨t, .update assignments cs ttl⟩) =
      charsOf d (Statement.pieces d ⟨t', .update assignments' cs' ttl'⟩)) :
    t = t' ∧ assignments.map Assignment.outline = assignments'.map Assignment.outline ∧
      cs.map Condition.outline = cs'.map Condition.outline ∧ ttl = ttl' := by
  simp only [Statement.pieces, charsOf_cons, charsOf_append, List.append_assoc,
    List.cons_append] at h
  have hends : ∀ (ttl : Option Int) (r : List Char),
      EndsName (charsOf d (ttlPieces ttl) ++ (" SET ".toList ++ r)).head? := by
    intro ttl r
    cases ttl <;> simp [ttlPieces]
  have hsets : Legible d (fun o => o = none ∨ o = some ' ')
      (fun as : List Assignment => ∀ a ∈ as, Identifier.holds a.column = true)
      (fun as => separate ", " (as.map Assignment.pieces)) (List.map Assignment.outline) :=
    Assignment.legible.separated (c := ',') (by simp) trivial (fun _ _ => trivial) (by simp)
      fun a ha r ho => by
        rw [a.pieces_eq] at ho
        exact not_endsName_pieces ha _ r (endsName_of_blank ho)
  obtain ⟨htarget, h₁⟩ := target_append_inj ht ht' (hends _ _) (hends _ _)
    (List.append_cancel_left h)
  obtain ⟨httl, h₂⟩ := ttl_append_inj h₁
  obtain ⟨hassignments, h₃⟩ := hsets assignments assignments' (List.forall_mem_map.1 ha)
    (List.forall_mem_map.1 ha') _ _ (head?_where cs) (head?_where cs') h₂
  exact ⟨htarget, hassignments, where_inj hcs hcs' h₃, httl⟩

theorem delete_inj {cs cs' : List Condition} (hcs : AreIdentifiers (cs.map Condition.column))
    (hcs' : AreIdentifiers (cs'.map Condition.column))
    (h : charsOf d (Statement.pieces d ⟨t, .delete cs⟩) =
      charsOf d (Statement.pieces d ⟨t', .delete cs'⟩)) :
    t = t' ∧ cs.map Condition.outline = cs'.map Condition.outline := by
  simp only [Statement.pieces, charsOf_cons, charsOf_append, List.cons_append] at h
  obtain ⟨htarget, h₁⟩ := target_append_inj ht ht' (endsName_where cs) (endsName_where cs')
    (List.append_cancel_left h)
  exact ⟨htarget, where_inj hcs hcs' h₁⟩

theorem select_inj {s s' : Selection} {cs cs' : List Condition} (hd : s.IsDefinite)
    (hd' : s'.IsDefinite) (hs : ∀ t ∈ s.selectors, AreIdentifiers t.names)
    (hs' : ∀ t ∈ s'.selectors, AreIdentifiers t.names)
    (hcs : AreIdentifiers (cs.map Condition.column))
    (hcs' : AreIdentifiers (cs'.map Condition.column))
    (h : charsOf d (Statement.pieces d ⟨t, .select s cs⟩) =
      charsOf d (Statement.pieces d ⟨t', .select s' cs'⟩)) :
    t = t' ∧ s = s' ∧ cs.map Condition.outline = cs'.map Condition.outline := by
  simp only [Statement.pieces, charsOf_cons, charsOf_append, List.append_assoc,
    List.cons_append] at h
  obtain ⟨hselection, h₁⟩ := selection_append_inj hd hd' hs hs' (by simp) (by simp)
    (List.append_cancel_left (List.append_cancel_left h))
  obtain ⟨htarget, h₂⟩ := target_append_inj ht ht' (endsName_where cs) (endsName_where cs')
    (List.append_cancel_left h₁)
  exact ⟨htarget, hselection, where_inj hcs hcs' h₂⟩

end

/-- The names of what a read returns. -/
theorem Selection.names_selectors {s : Selection}
    (h : AreIdentifiers (s.columns.getD [] ++ s.ttl.flatMap fun p => [p.1, p.2])) :
    ∀ t ∈ s.selectors, AreIdentifiers t.names := by
  have hnames : s.selectors.flatMap Selector.names =
      s.columns.getD [] ++ s.ttl.flatMap fun p => [p.1, p.2] := by
    unfold selectors
    cases s.columns with
    | some columns => simp [List.flatMap_map, Selector.names]
    | none => by_cases he : s.ttl.isEmpty = true <;> simp [he, List.flatMap_map, Selector.names]
  intro t ht n hn
  exact h n (hnames ▸ List.mem_flatMap.2 ⟨t, ht, hn⟩)

/-- A statement whose text can be read back: its names are identifiers, and remaining times come
with columns that are read. -/
structure Statement.IsLegible (st : Statement) : Prop where
  names : AreIdentifiers st.names
  definite : ∀ s cs, st.action = .select s cs → s.IsDefinite

/-- The text of a statement decides all of it but the bound values. -/
theorem Statement.outline_eq_of_text {st st' : Statement} (hs : st.IsLegible) (hs' : st'.IsLegible)
    (h : (st.render d).text = (st'.render d).text) : st.outline = st'.outline := by
  rw [render_eq, render_eq] at h
  have hc : charsOf d (st.pieces d) = charsOf d (st'.pieces d) := congrArg String.toList h
  obtain ⟨t, action⟩ := st
  obtain ⟨t', action'⟩ := st'
  obtain ⟨ht, hn⟩ := areIdentifiers_append.1 hs.names
  obtain ⟨ht', hn'⟩ := areIdentifiers_append.1 hs'.names
  -- the first word tells the kinds apart
  cases action with
  | insert columns ttl =>
    cases action' with
    | insert columns' ttl' =>
      obtain ⟨rfl, hcolumns, rfl⟩ := insert_inj ht ht' hn hn' hc
      have hrecord : ∀ r : Record, Record.outline r = (r.map Prod.fst).map fun c => (c, .null) := by
        intro r
        simp [Record.outline, Function.comp_def]
      simp only [outline, Action.outline, hrecord, hcolumns]
    | select s' cs' => cases d <;> simp [pieces, Dialect.select] at hc
    | _ => simp [pieces] at hc
  | update assignments cs ttl =>
    cases action' with
    | update assignments' cs' ttl' =>
      obtain ⟨ha, hcs⟩ := areIdentifiers_append.1 hn
      obtain ⟨ha', hcs'⟩ := areIdentifiers_append.1 hn'
      obtain ⟨rfl, ho, hos, rfl⟩ := update_inj ht ht' ha ha' hcs hcs' hc
      simp only [outline, Action.outline, ho, hos]
    | select s' cs' => cases d <;> simp [pieces, Dialect.select] at hc
    | _ => simp [pieces] at hc
  | delete cs =>
    cases action' with
    | delete cs' =>
      obtain ⟨rfl, hos⟩ := delete_inj ht ht' hn hn' hc
      simp only [outline, Action.outline, hos]
    | select s' cs' => cases d <;> simp [pieces, Dialect.select] at hc
    | _ => simp [pieces] at hc
  | select s cs =>
    cases action' with
    | select s' cs' =>
      obtain ⟨hsel, hcs⟩ := areIdentifiers_append.1 hn
      obtain ⟨hsel', hcs'⟩ := areIdentifiers_append.1 hn'
      obtain ⟨rfl, rfl, hos⟩ := select_inj ht ht' (hs.definite s cs rfl) (hs'.definite s' cs' rfl)
        (Selection.names_selectors hsel) (Selection.names_selectors hsel') hcs hcs' hc
      simp only [outline, Action.outline, hos]
    | _ => cases d <;> simp [pieces, Dialect.select] at hc

/-- Statements have one text if they differ in their values only. -/
theorem Statement.text_eq_iff {st st' : Statement} (hs : st.IsLegible) (hs' : st'.IsLegible) :
    (st.render d).text = (st'.render d).text ↔ st.outline = st'.outline := by
  refine ⟨outline_eq_of_text hs hs', fun h => ?_⟩
  rw [← st.text_outline, h, st'.text_outline]

/-! ## Compiled statements -/

/-- Remaining times that are read without fields return the fields whose times are read. -/
theorem Projection.isDefinite (p : Projection) : (Selection.mk p.columns p.ttl).IsDefinite := by
  intro h
  unfold columns at h
  cases hf : p.fields with
  | some fields => simp [hf] at h
  | none => simpa [hf] using h

/-- A compiled statement can be read back. -/
theorem isLegible_of_compile {t : TableName} {op : Operation} {plan : Plan}
    (h : compile t op = .ok plan) {st : Statement} (hst : st ∈ plan.statements) :
    st.IsLegible where
  names := names_of_compile h st hst
  definite s cs ha := by
    rw [compile_eq_plan h] at hst
    cases op with
    | select c p =>
      obtain rfl := List.mem_singleton.1 hst
      obtain ⟨rfl, -⟩ := Action.select.inj ha
      exact p.isDefinite
    | batch items =>
      obtain ⟨item, -, rfl⟩ := List.mem_map.1 hst
      cases item <;> cases ha
    | _ =>
      obtain rfl := List.mem_singleton.1 hst
      cases ha

theorem looksInside_eq : LooksInside Eq where
  entry h := by simpa using h
  key h := by simpa using h

theorem looksInside_same : LooksInside fun v w => v.same w = true where
  entry {k k' v v'} h := by
    obtain ⟨-, hf⟩ := (Json.same_obj_iff _ _).1 h
    obtain ⟨w, hw, hs⟩ := hf (k, v) List.mem_cons_self
    rw [Assoc.find?_cons, Assoc.find?_nil] at hw
    split at hw
    · next hk =>
      obtain rfl := Option.some.inj hw
      exact ⟨hk.symm, hs⟩
    · cases hw
  key h := by simpa [Json.same, Json.sameItems] using h

/-- Rendering loses no information.

Compiled statements that are rendered to the same text in one dialect, with equal values, are one
statement.  With values that are the same up to the order of keys they are one statement up to that
order: on the same table, of the same kind, with the same columns, assignments, times to live,
selection and conditions. -/
theorem statement_of_rendered {t t' : TableName} {op op' : Operation} {plan plan' : Plan}
    (h : compile t op = .ok plan) (h' : compile t' op' = .ok plan') {st st' : Statement}
    (hst : st ∈ plan.statements) (hst' : st' ∈ plan'.statements) (d : Dialect)
    (htext : (st.render d).text = (st'.render d).text) :
    ((st.render d).values = (st'.render d).values → st = st') ∧
      (List.Forall₂ (fun v w => v.same w = true) (st.render d).values (st'.render d).values →
        st.Alike (fun v w => v.same w = true) st') := by
  have ho : st.outline = st'.outline :=
    Statement.outline_eq_of_text (isLegible_of_compile h hst) (isLegible_of_compile h' hst') htext
  rw [st.render_eq, st'.render_eq]
  refine ⟨fun hv => ?_, fun hv => Statement.alike_of_values looksInside_same ho hv⟩
  have hvalues : List.Forall₂ Eq (valuesOf (st.pieces d)) (valuesOf (st'.pieces d)) := by
    rw [show valuesOf (st.pieces d) = _ from hv]
    exact List.forall₂_refl _
  exact (Statement.alike_of_values looksInside_eq ho hvalues).eq

/-- A read whose names are words of the language. -/
def readWords (criteria : Criteria) : Operation :=
  .select criteria ⟨some ["AND"], [("TTL", "IN")]⟩

/-- The edit of a map entry whose names are words of the language. -/
def putWords (v : Json) : Operation := .putEntry (.id "7") "AND" "IN" v

/-- The row is asked for by its key and by a filter, and the entry is put with its keys in two
orders. -/
theorem statement_of_rendered_words :
    (∃ st st', compile ⟨"FROM", "WHERE"⟩ (readWords (.key (.id "7"))) = .ok (.single st) ∧
      compile ⟨"FROM", "WHERE"⟩ (readWords (.properties ⟨[("id", .scalar (.str "7"))], []⟩)) =
        .ok (.single st') ∧
      (st.render .json).text =
        "SELECT JSON AND, TTL(TTL) AS IN FROM FROM.WHERE WHERE id = fromJson(?)" ∧
      st = st') ∧
    ∃ st st', compile ⟨"FROM", "WHERE"⟩ (putWords (.obj [("a", .null), ("b", .bool true)])) =
        .ok (.single st) ∧
      compile ⟨"FROM", "WHERE"⟩ (putWords (.obj [("b", .bool true), ("a", .null)])) =
        .ok (.single st') ∧
      (st.render .plain).text = "UPDATE FROM.WHERE SET AND = AND + ? WHERE id = ?" ∧
      st.Alike (fun v w => v.same w = true) st' := by
  have hmem : ∀ st : Statement, st ∈ (Plan.single st).statements := fun _ => List.mem_cons_self
  refine ⟨⟨_, _, rfl, rfl, rfl, ?_⟩, ⟨_, _, rfl, rfl, rfl, ?_⟩⟩
  · exact (@statement_of_rendered ⟨"FROM", "WHERE"⟩ ⟨"FROM", "WHERE"⟩ (readWords (.key (.id "7")))
      (readWords (.properties ⟨[("id", .scalar (.str "7"))], []⟩)) _ _ rfl rfl _ _ (hmem _) (hmem _)
      .json rfl).1 rfl
  · refine (@statement_of_rendered ⟨"FROM", "WHERE"⟩ ⟨"FROM", "WHERE"⟩
      (putWords (.obj [("a", .null), ("b", .bool true)]))
      (putWords (.obj [("b", .bool true), ("a", .null)])) _ _ rfl rfl _ _ (hmem _) (hmem _)
      .plain rfl).2 ?_
    exact .cons rfl (.cons rfl .nil)

end Polystore
