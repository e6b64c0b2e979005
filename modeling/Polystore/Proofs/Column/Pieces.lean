import Polystore.Column.Text

/-!
# What a rendered statement is made of

A statement reads as a sequence of pieces: fixed words, names, a number of seconds, and bound
values, each value where its column asks for it.  Rendering writes the pieces in this order, a
marker in place of each value, and lists the values in the order of their markers.

    s.render d = ⟨textOf d (s.pieces d), valuesOf (s.pieces d)⟩                      (render_eq)
    (∀ p ∈ ps, p.IsPlain) → (textOf d ps).toList.count '?' = (valuesOf ps).length  (count_marker)
-/

namespace Polystore

/-- A part of a rendered statement. -/
inductive Piece where
  /-- Text that is the same in every statement of a kind. -/
  | word (s : String)
  /-- A keyspace, a table, a column or an alias. -/
  | name (s : String)
  /-- A time to live. -/
  | seconds (n : Int)
  /-- A bound value. -/
  | value (v : Json)

namespace Piece

/-- The text of a piece. -/
def text (d : Dialect) : Piece → String
  | word s => s
  | name s => s
  | seconds n => toString n
  | value _ => d.marker

/-- The value that a piece binds. -/
def value? : Piece → Option Json
  | value v => some v
  | _ => none

/-- The fixed words. -/
def words : List String :=
  ["INSERT INTO ", "UPDATE ", "DELETE FROM ", "SELECT", "SELECT JSON", " ", ".", " (", ") VALUES (",
    ")", ", ", " SET ", " = ", " + ", " - ", " USING TTL ", " WHERE ", " AND ", " IN (", " > ",
    " >= ", " < ", " <= ", " CONTAINS ", "*", "TTL(", ") AS ", " FROM "]

/-- Is the piece a fixed word, an identifier, a number or a value? -/
def IsPlain : Piece → Prop
  | word s => s ∈ words
  | name s => Identifier.holds s = true
  | _ => True

end Piece

/-- The text of pieces. -/
def textOf (d : Dialect) : List Piece → String
  | [] => ""
  | p :: ps => p.text d ++ textOf d ps

/-- The values that pieces bind, in order. -/
def valuesOf (ps : List Piece) : List Json := ps.filterMap Piece.value?

/-- Groups of pieces with a word between them. -/
def separate (sep : String) : List (List Piece) → List Piece
  | [] => []
  | [ps] => ps
  | ps :: rest => ps ++ .word sep :: separate sep rest

/-! ## Pieces of statements -/

def TableName.pieces (t : TableName) : List Piece := [.name t.keyspace, .word ".", .name t.table]

/-- An added entry is bound as a map, the key of a removed one as a list. -/
def Assignment.pieces : Assignment → List Piece
  | set column v => [.name column, .word " = ", .value v]
  | put column key v =>
    [.name column, .word " = ", .name column, .word " + ", .value (.obj [(key, v)])]
  | remove column key =>
    [.name column, .word " = ", .name column, .word " - ", .value (.arr [.str key])]

def Condition.pieces (c : Condition) : List Piece :=
  match c.relation with
  | .equals v => [.name c.column, .word " = ", .value v]
  | .oneOf vs =>
    [.name c.column, .word " IN ("] ++ separate ", " (vs.map fun v => [.value v]) ++ [.word ")"]
  | .bound b v => [.name c.column, .word (" " ++ b.symbol ++ " "), .value v]
  | .contains v => [.name c.column, .word " CONTAINS ", .value v]

def wherePieces (cs : List Condition) : List Piece :=
  if cs.isEmpty then [] else .word " WHERE " :: separate " AND " (cs.map Condition.pieces)

def ttlPieces : Option Int → List Piece
  | some seconds => [.word " USING TTL ", .seconds seconds]
  | none => []

def Selection.pieces (s : Selection) : List Piece :=
  separate ", "
    ((match s.columns with
      | some columns => columns.map fun c => [.name c]
      | none => if s.ttl.isEmpty then [[.word "*"]] else []) ++
    s.ttl.map fun p => [.word "TTL(", .name p.1, .word ") AS ", .name p.2])

def Statement.pieces (d : Dialect) (s : Statement) : List Piece :=
  match s.action with
  | .insert columns ttl =>
    .word "INSERT INTO " :: s.target.pieces ++
      .word " (" :: separate ", " (columns.map fun p => [.name p.1]) ++
      .word ") VALUES (" :: separate ", " (columns.map fun p => [.value p.2]) ++
      .word ")" :: ttlPieces ttl
  | .update assignments conditions ttl =>
    .word "UPDATE " :: s.target.pieces ++ ttlPieces ttl ++
      .word " SET " :: separate ", " (assignments.map Assignment.pieces) ++ wherePieces conditions
  | .delete conditions => .word "DELETE FROM " :: s.target.pieces ++ wherePieces conditions
  | .select selection conditions =>
    .word d.select :: .word " " :: selection.pieces ++ .word " FROM " :: s.target.pieces ++
      wherePieces conditions

/-! ## Text and values of pieces -/

section
variable (d : Dialect)

@[simp] theorem textOf_nil : textOf d [] = "" := rfl

@[simp] theorem textOf_cons (p : Piece) (ps : List Piece) :
    textOf d (p :: ps) = p.text d ++ textOf d ps := rfl

@[simp] theorem textOf_append (ps qs : List Piece) :
    textOf d (ps ++ qs) = textOf d ps ++ textOf d qs := by
  induction ps with
  | nil => simp [textOf]
  | cons p ps ih => simp only [List.cons_append, textOf, ih, String.append_assoc]

@[simp] theorem textOf_separate (sep : String) (pss : List (List Piece)) :
    textOf d (separate sep pss) = Text.join sep (pss.map (textOf d)) := by
  fun_induction separate sep pss with
  | case1 => rfl
  | case2 ps => rfl
  | case3 ps rest hne ih =>
    obtain ⟨qs, rest, rfl⟩ := List.exists_cons_of_ne_nil hne
    simp only [textOf_append, textOf, ih, List.map_cons, Text.join, Piece.text,
      String.append_assoc]

end

@[simp] theorem valuesOf_nil : valuesOf [] = [] := rfl

@[simp] theorem valuesOf_cons (p : Piece) (ps : List Piece) :
    valuesOf (p :: ps) = p.value?.toList ++ valuesOf ps := by
  cases p <;> rfl

@[simp] theorem valuesOf_append (ps qs : List Piece) :
    valuesOf (ps ++ qs) = valuesOf ps ++ valuesOf qs := List.filterMap_append

@[simp] theorem valuesOf_separate (sep : String) (pss : List (List Piece)) :
    valuesOf (separate sep pss) = pss.flatMap valuesOf := by
  fun_induction separate sep pss with
  | case1 => rfl
  | case2 ps => simp
  | case3 ps rest hne ih =>
    rw [valuesOf_append, List.flatMap_cons, ← ih]
    rfl

/-- What holds of all groups and of the word between them holds of all of it. -/
theorem forall_mem_separate {sep : String} {pss : List (List Piece)} {P : Piece → Prop}
    (hs : P (.word sep)) (h : ∀ ps ∈ pss, ∀ p ∈ ps, P p) : ∀ p ∈ separate sep pss, P p := by
  fun_induction separate sep pss with
  | case1 => simp
  | case2 ps => exact h ps List.mem_cons_self
  | case3 ps rest hne ih =>
    obtain ⟨hp, hr⟩ := List.forall_mem_cons.1 h
    exact List.forall_mem_append.2 ⟨hp, List.forall_mem_cons.2 ⟨hs, ih hr⟩⟩

/-! ## Rendering writes the pieces -/

theorem Writing.pure_apply {α : Type} (a : α) (values : List Json) :
    (pure a : Writing α) values = (a, values) := rfl

theorem Writing.bind_apply {α β : Type} (w : Writing α) (f : α → Writing β) (values : List Json) :
    (w >>= f) values = f (w values).1 (w values).2 := rfl

/-- What is written is the text of the pieces, and their values are bound. -/
def Writes (d : Dialect) (w : Writing String) (ps : List Piece) : Prop :=
  ∀ values, w values = (textOf d ps, values ++ valuesOf ps)

attribute [local simp] Piece.text Piece.value? String.append_assoc

section
variable {d : Dialect} {w : Writing String} {ps : List Piece}

theorem writes_bind (d : Dialect) (v : Json) : Writes d (d.bind v) [.value v] := fun values => by
  simp [Dialect.bind]

/-- Text that stands around what is written binds no value. -/
theorem Writes.around (h : Writes d w ps) {f : String → String} {qs : List Piece}
    (ht : textOf d qs = f (textOf d ps)) (hv : valuesOf qs = valuesOf ps) :
    Writes d (do return f (← w)) qs := by
  intro values
  simp only [Writing.bind_apply, Writing.pure_apply, h values, ht, hv]

/-- Parts are written one after the other. -/
theorem mapM_of_writes {α : Type} {f : α → Writing String} {pieces : α → List Piece}
    (h : ∀ a, Writes d (f a) (pieces a)) (as : List α) (values : List Json) :
    (as.mapM f) values =
      (as.map fun a => textOf d (pieces a), values ++ as.flatMap fun a => valuesOf (pieces a)) := by
  induction as generalizing values with
  | nil => simp [Writing.pure_apply]
  | cons a as ih =>
    rw [List.mapM_cons]
    simp only [Writing.bind_apply, Writing.pure_apply, h a values, ih, List.map_cons,
      List.flatMap_cons, List.append_assoc]

/-- Parts are written with a word between them. -/
theorem Writes.separated {α : Type} {f : α → Writing String} {pieces : α → List Piece}
    (h : ∀ a, Writes d (f a) (pieces a)) (sep : String) (as : List α) :
    Writes d (do return Text.join sep (← as.mapM f)) (separate sep (as.map pieces)) := by
  intro values
  simp only [Writing.bind_apply, Writing.pure_apply, mapM_of_writes h, textOf_separate,
    valuesOf_separate, List.map_map, List.flatMap_map]
  rfl

theorem Assignment.writes (d : Dialect) (a : Assignment) : Writes d (a.write d) a.pieces := by
  cases a with
  | set column v => exact (writes_bind d v).around (by simp [pieces]) rfl
  | put column key v => exact (writes_bind d _).around (by simp [pieces]) rfl
  | remove column key => exact (writes_bind d _).around (by simp [pieces]) rfl

theorem Condition.writes (d : Dialect) (c : Condition) : Writes d (c.write d) c.pieces := by
  obtain ⟨column, relation⟩ := c
  cases relation with
  | equals v => exact (writes_bind d v).around (by simp [pieces]) rfl
  | oneOf vs =>
    exact (Writes.separated (writes_bind d) ", " vs).around
      (f := fun markers => column ++ " IN (" ++ markers ++ ")") (by simp [pieces])
      (by simp [pieces])
  | bound b v => exact (writes_bind d v).around (by simp [pieces]) rfl
  | contains v => exact (writes_bind d v).around (by simp [pieces]) rfl

theorem writes_where (d : Dialect) (cs : List Condition) :
    Writes d (writeWhere d cs) (wherePieces cs) := by
  unfold writeWhere wherePieces
  split
  · intro values
    simp [Writing.pure_apply]
  · exact (Writes.separated (Condition.writes d) " AND " cs).around (f := fun s => " WHERE " ++ s)
      rfl rfl

end

section
variable (d : Dialect)

@[simp] theorem textOf_target (t : TableName) : textOf d t.pieces = t.text := by
  simp [TableName.pieces, TableName.text]

@[simp] theorem textOf_ttlPieces (ttl : Option Int) : textOf d (ttlPieces ttl) = ttlText ttl := by
  cases ttl <;> simp [ttlPieces, ttlText]

@[simp] theorem textOf_selection (s : Selection) :
    textOf d s.pieces = Text.join ", " s.terms := by
  unfold Selection.pieces Selection.terms
  rw [textOf_separate]
  congr 1
  cases s.columns with
  | some columns => simp [Function.comp_def]
  | none => by_cases h : s.ttl.isEmpty = true <;> simp [h, Function.comp_def]

end

@[simp] theorem valuesOf_target (t : TableName) : valuesOf t.pieces = [] := rfl

@[simp] theorem valuesOf_ttlPieces (ttl : Option Int) : valuesOf (ttlPieces ttl) = [] := by
  cases ttl <;> rfl

@[simp] theorem valuesOf_selection (s : Selection) : valuesOf s.pieces = [] := by
  unfold Selection.pieces
  rw [valuesOf_separate]
  cases s.columns with
  | some columns => simp [List.flatMap_map, List.flatMap_eq_nil_iff]
  | none =>
    by_cases h : s.ttl.isEmpty = true <;> simp [h, List.flatMap_map, List.flatMap_eq_nil_iff]

theorem Statement.writes (d : Dialect) (s : Statement) : Writes d (s.write d) (s.pieces d) := by
  obtain ⟨target, action⟩ := s
  cases action with
  | insert columns ttl =>
    intro values
    have hm := mapM_of_writes (fun p : String × Json => writes_bind d p.2) columns values
    have hn : columns.flatMap (fun _ => ([] : List Json)) = [] := by simp
    simp only [write, Writing.bind_apply, Writing.pure_apply, hm]
    simp [pieces, Function.comp_def, List.flatMap_map, hn]
  | update assignments conditions ttl =>
    intro values
    have hm := mapM_of_writes (Assignment.writes d) assignments values
    simp only [write, Writing.bind_apply, Writing.pure_apply, hm, writes_where d conditions _]
    simp [pieces, Function.comp_def, List.flatMap_map]
  | delete conditions =>
    exact (writes_where d conditions).around (by simp [pieces]) (by simp [pieces])
  | select selection conditions =>
    exact (writes_where d conditions).around (by simp [pieces]) (by simp [pieces])

/-- Both dialects bind the same values. -/
theorem Statement.valuesOf_pieces (d d' : Dialect) (s : Statement) :
    valuesOf (s.pieces d) = valuesOf (s.pieces d') := by
  obtain ⟨target, action⟩ := s
  cases action <;> simp [pieces]

/-- A statement is rendered piece by piece. -/
theorem Statement.render_eq (d : Dialect) (s : Statement) :
    s.render d = ⟨textOf d (s.pieces d), valuesOf (s.pieces d)⟩ := by
  unfold render
  rw [s.writes d []]
  rfl

/-! ## Markers -/

/-- A number is written with digits and a sign. -/
theorem isDigit_or_sign_of_mem_toString (n : Int) :
    ∀ c ∈ (toString n).toList, (c.isDigit || c = '-') = true := by
  have hd : ∀ m : Nat, ∀ c ∈ (Nat.repr m).toList, (c.isDigit || c = '-') = true := by
    intro m c hm
    rw [Nat.repr, String.toList_ofList] at hm
    rw [Nat.isDigit_of_mem_toDigits (by decide) (by decide) hm, Bool.true_or]
  cases n with
  | ofNat m => exact hd m
  | negSucc m =>
    show ∀ c ∈ ("-" ++ Nat.repr (m + 1)).toList, (c.isDigit || c = '-') = true
    rw [String.toList_append]
    exact List.forall_mem_append.2 ⟨by simp, hd _⟩

theorem not_mem_toString (n : Int) : '?' ∉ (toString n).toList := fun h =>
  absurd (isDigit_or_sign_of_mem_toString n _ h) (by decide)

/-- Of the pieces that are plain only the values are written with a marker, each with one. -/
theorem Piece.count_marker {p : Piece} (h : p.IsPlain) (d : Dialect) :
    (p.text d).toList.count '?' = p.value?.toList.length := by
  cases p with
  | word s =>
    have hw : ∀ s ∈ words, s.toList.count '?' = 0 := by decide
    exact hw s h
  | name s =>
    exact List.count_eq_zero.2 fun hm => absurd (Identifier.isPart_of_mem h hm) (by decide)
  | seconds n => exact List.count_eq_zero.2 (not_mem_toString n)
  | value v =>
    have hm : ∀ d : Dialect, d.marker.toList.count '?' = 1 := fun d => by cases d <;> decide
    exact hm d

/-- A text of plain pieces has as many markers as values. -/
theorem count_marker {ps : List Piece} (h : ∀ p ∈ ps, p.IsPlain) (d : Dialect) :
    (textOf d ps).toList.count '?' = (valuesOf ps).length := by
  induction ps with
  | nil => rfl
  | cons p ps ih =>
    obtain ⟨hp, hps⟩ := List.forall_mem_cons.1 h
    rw [textOf_cons, String.toList_append, List.count_append, Piece.count_marker hp, ih hps,
      valuesOf_cons, List.length_append]

end Polystore
