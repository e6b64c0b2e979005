import Polystore.Proofs.Column.Conditions
import Polystore.Proofs.Table.Rows

/-!
# Key cells

Every write into a row writes the cells of its key columns, and they never run out.  A later write
may address the row by values that are the same but written otherwise, so a key cell holds a value
that is the same as that of the key, which is all that a condition can tell (`Keyed`):

    r.Keyed l → SameValue (l.valueIn? r.key c) (r.value? c now)         for key columns c
-/

namespace Polystore

/-! ## Keys -/

namespace KeyLayout

variable {l : KeyLayout}

theorem isKey_iff {name : String} : l.isKey name = true ↔ name ∈ l.names := by
  simp [isKey, names, List.any_eq_true]

theorem not_isKey_iff {name : String} : l.isKey name = false ↔ name ∉ l.names := by
  rw [← isKey_iff, Bool.not_eq_true]

theorem nodup_names (l : KeyLayout) : l.names.Nodup := l.names_nodup

/-- The key that values by column make up; a missing value counts as null. -/
def keyIn (l : KeyLayout) (values : List (String × Json)) : List Json :=
  l.names.map fun name => (Assoc.find? name values).getD .null

/-- The value of a key in a column. -/
def valueIn? (l : KeyLayout) (key : List Json) (column : String) : Option Json :=
  Assoc.find? column (l.names.zip key)

theorem find?_zip_map {f : String → Json} {names : List String} {c : String} (hc : c ∈ names) :
    Assoc.find? c (names.zip (names.map f)) = some (f c) := by
  induction names with
  | nil => cases hc
  | cons n names ih =>
    rw [List.map_cons, List.zip_cons_cons, Assoc.find?_cons]
    split
    · next h => rw [h]
    · next h => exact ih ((List.mem_cons.1 hc).resolve_left fun e => h e.symm)

theorem valueIn?_keyIn {values : List (String × Json)} {c : String} (hc : l.isKey c = true) :
    l.valueIn? (l.keyIn values) c = some ((Assoc.find? c values).getD .null) :=
  find?_zip_map (isKey_iff.1 hc)

theorem keys_zip_subset {names : List String} {key : List Json} {c : String}
    (h : c ∈ Assoc.keys (names.zip key)) : c ∈ names := by
  obtain ⟨p, hp, rfl⟩ := List.mem_map.1 h
  exact (List.of_mem_zip hp).1

theorem nodup_keys_zip {names : List String} (h : names.Nodup) (key : List Json) :
    (Assoc.keys (names.zip key)).Nodup := by
  induction names generalizing key with
  | nil => exact List.nodup_nil
  | cons n names ih =>
    obtain ⟨hn, h⟩ := List.nodup_cons.1 h
    cases key with
    | nil => exact List.nodup_nil
    | cons v key => exact List.nodup_cons.2 ⟨fun hm => hn (keys_zip_subset hm), ih h key⟩

theorem isKey_of_valueIn? {key : List Json} {c : String} {v : Json}
    (h : l.valueIn? key c = some v) : l.isKey c = true :=
  isKey_iff.2 (keys_zip_subset (Assoc.mem_keys_of_find?_eq_some h))

/-- A key of full length has a value in every key column. -/
theorem exists_valueIn? {key : List Json} (hl : key.length = l.names.length) {c : String}
    (hc : l.isKey c = true) : ∃ v, l.valueIn? key c = some v := by
  refine Assoc.exists_find?_of_mem_keys ?_
  rw [Assoc.keys, List.map_fst_zip (by omega)]
  exact isKey_iff.1 hc

theorem sameValue_zip {key key' : List Json} (hw : Json.areWellKeyed key = true)
    (h : Json.sameItems key key' = true) (names : List String) (c : String) :
    SameValue (Assoc.find? c (names.zip key)) (Assoc.find? c (names.zip key')) := by
  rw [Json.areWellKeyed_iff] at hw
  rw [Json.sameItems_iff] at h
  induction h generalizing names with
  | nil =>
    cases names <;> exact .none
  | cons hv _ ih =>
    cases names with
    | nil => exact .none
    | cons n names =>
      rw [List.zip_cons_cons, List.zip_cons_cons, Assoc.find?_cons, Assoc.find?_cons]
      split
      · exact .some (hw _ List.mem_cons_self) hv
      · exact ih (fun x hx => hw x (List.mem_cons_of_mem _ hx)) names

theorem sameValue_valueIn? {key key' : List Json} (hw : Json.areWellKeyed key = true)
    (h : Json.sameItems key key' = true) (c : String) :
    SameValue (l.valueIn? key c) (l.valueIn? key' c) := sameValue_zip hw h l.names c

end KeyLayout

theorem Table.fullKey_eq_ok {lookup : String → Option Json} {names : List String}
    {key : List Json} (h : fullKey lookup names = .ok key) :
    key = names.map (fun name => (lookup name).getD .null) ∧
      ∀ name ∈ names, ∃ v, lookup name = some v := by
  induction names generalizing key with
  | nil =>
    obtain rfl := Outcome.pure_eq_ok.1 h
    exact ⟨rfl, by simp⟩
  | cons name names ih =>
    unfold fullKey at h
    split at h
    · next v hv =>
      rw [Outcome.bind_eq_ok] at h
      obtain ⟨vs, hvs, h⟩ := h
      obtain rfl := Outcome.pure_eq_ok.1 h
      obtain ⟨rfl, hall⟩ := ih hvs
      refine ⟨by rw [List.map_cons, hv]; rfl, List.forall_mem_cons.2 ⟨⟨v, hv⟩, hall⟩⟩
    · exact absurd h Outcome.throw_ne_ok

/-! ## Cells after writes -/

namespace Row

variable (r : Row)

theorem find?_write (column : String) (cell : Cell) (c : String) :
    Assoc.find? c (r.write column cell).cells =
      if c = column then some cell else Assoc.find? c r.cells := Assoc.find?_put _ _ _ _

theorem find?_store (column : String) (v : Json) (d : Deadline) (c : String) :
    Assoc.find? c (r.store column v d).cells =
      if c = column then (if v.isNull then none else some ⟨v, d⟩) else Assoc.find? c r.cells := by
  unfold store clear
  split
  · exact Assoc.find?_erase _ _ _
  · exact find?_write r column _ c

theorem find?_assign_of_ne {a : Assignment} {c : String} (h : c ≠ a.column) (now : Nat)
    (d : Deadline) : Assoc.find? c (r.assign now d a).cells = Assoc.find? c r.cells := by
  cases a with
  | set column v => exact (find?_store r column v d c).trans (if_neg h)
  | put column entry v => exact (find?_write r column _ c).trans (if_neg h)
  | remove column entry =>
    unfold assign
    dsimp only
    split
    · exact (find?_write r column _ c).trans (if_neg h)
    · rfl

variable {r}

theorem nodup_write (h : (Assoc.keys r.cells).Nodup) (column : String) (cell : Cell) :
    (Assoc.keys (r.write column cell).cells).Nodup := Assoc.nodup_keys_put _ _ h

theorem nodup_store (h : (Assoc.keys r.cells).Nodup) (column : String) (v : Json) (d : Deadline) :
    (Assoc.keys (r.store column v d).cells).Nodup := by
  unfold store
  split
  · exact Assoc.nodup_keys_erase _ h
  · exact nodup_write h column _

theorem nodup_assign (h : (Assoc.keys r.cells).Nodup) (now : Nat) (d : Deadline)
    (a : Assignment) : (Assoc.keys (r.assign now d a).cells).Nodup := by
  cases a with
  | set column v => exact nodup_store h column v d
  | put column entry v => exact nodup_write h column _
  | remove column entry =>
    unfold assign
    dsimp only
    split
    · exact nodup_write h column _
    · exact h

/-! ## Cells after many writes -/

section
variable {α : Type} {f : Row → α → Row}

theorem nodup_foldl (hf : ∀ r a, (Assoc.keys r.cells).Nodup → (Assoc.keys (f r a).cells).Nodup)
    (as : List α) (h : (Assoc.keys r.cells).Nodup) : (Assoc.keys (as.foldl f r).cells).Nodup := by
  induction as generalizing r with
  | nil => exact h
  | cons a as ih => exact ih (hf r a h)

theorem find?_foldl_of_keeps {c : String} {as : List α}
    (hf : ∀ r, ∀ a ∈ as, Assoc.find? c (f r a).cells = Assoc.find? c r.cells) :
    Assoc.find? c (as.foldl f r).cells = Assoc.find? c r.cells := by
  induction as generalizing r with
  | nil => rfl
  | cons a as ih =>
    rw [List.foldl_cons, ih fun r b hb => hf r b (List.mem_cons_of_mem _ hb)]
    exact hf r a List.mem_cons_self

end

/-- After values by column were written, a column holds the cell of its value, or what it held
before if it has none. -/
theorem find?_foldl_cells {f : Row → String × Json → Row} {cell? : Json → Option Cell}
    {c : String}
    (hself : ∀ r v, Assoc.find? c (f r (c, v)).cells = cell? v)
    (hother : ∀ r p, p.1 ≠ c → Assoc.find? c (f r p).cells = Assoc.find? c r.cells)
    {values : List (String × Json)} (hn : (Assoc.keys values).Nodup) :
    Assoc.find? c (values.foldl f r).cells =
      (Assoc.find? c values).elim (Assoc.find? c r.cells) cell? := by
  induction values generalizing r with
  | nil => rfl
  | cons p values ih =>
    obtain ⟨c', v⟩ := p
    obtain ⟨hp, hn⟩ := List.nodup_cons.1 hn
    rw [List.foldl_cons, ih hn, Assoc.find?_cons]
    split
    · next h =>
      subst h
      rw [(Assoc.find?_eq_none_iff _ _).2 hp, Option.elim_none, hself]
      rfl
    · next h => rw [hother r _ h]

/-! ## Rows with their key cells -/

/-- A row whose key has full length and holds no ill-keyed value, and which has one cell for a
column. -/
structure Proper (l : KeyLayout) (r : Row) : Prop where
  length : r.key.length = l.names.length
  wellKeyed : Json.areWellKeyed r.key = true
  nodup : (Assoc.keys r.cells).Nodup

/-- A row with cells for its key that never run out. -/
structure Keyed (l : KeyLayout) (r : Row) : Prop extends Proper l r where
  keyCell : ∀ c v, l.valueIn? r.key c = some v →
    ∃ w, Assoc.find? c r.cells = some ⟨w, .never⟩ ∧ v.same w = true

theorem Keyed.sameValue {l : KeyLayout} (h : r.Keyed l) {c : String} (hc : l.isKey c = true)
    (now : Nat) : SameValue (l.valueIn? r.key c) (r.value? c now) := by
  obtain ⟨v, hv⟩ := KeyLayout.exists_valueIn? h.length hc
  obtain ⟨w, hw, hs⟩ := h.keyCell c v hv
  have hr : r.value? c now = some w := by
    unfold value? cell?
    rw [hw]
    rfl
  rw [hv, hr]
  refine .some ((Json.areWellKeyed_iff _).1 h.wellKeyed v ?_) hs
  exact (List.of_mem_zip (Assoc.mem_of_find?_eq_some hv)).2

/-- Conditions on key columns hold of a row if they hold of its key. -/
theorem Keyed.all_conditions {l : KeyLayout} (h : r.Keyed l) {conditions : List Condition}
    (hc : ∀ d ∈ conditions, l.isKey d.column = true) (now : Nat) :
    (conditions.all fun d => d.holds r now) = conditions.all (·.holdsIn (l.valueIn? r.key)) := by
  rw [Bool.eq_iff_iff, List.all_eq_true, List.all_eq_true]
  refine forall₂_congr fun d hd => ?_
  rw [Condition.holds_eq_holdsIn, ← Condition.holdsIn_congr (h.sameValue (hc d hd) now)]

/-- A row is keyed if its key cells hold the values of a key that is the same. -/
theorem Proper.keyed {l : KeyLayout} (h : r.Proper l) {key : List Json}
    (hs : Json.sameItems r.key key = true)
    (hc : ∀ c w, l.valueIn? key c = some w → Assoc.find? c r.cells = some ⟨w, .never⟩) :
    r.Keyed l := by
  refine ⟨h, fun c v hv => ?_⟩
  have hsv := KeyLayout.sameValue_valueIn? (l := l) h.wellKeyed hs c
  rw [hv] at hsv
  cases hw : l.valueIn? key c with
  | none =>
    rw [hw] at hsv
    cases hsv
  | some w =>
    rw [hw] at hsv
    cases hsv with
    | some _ hs => exact ⟨w, hc c w hw, hs⟩

end Row

namespace Table

variable {l : KeyLayout} {r : Row} {key : List Json}

/-- An insertion writes the cells of the key for good, and removes the other cells that it gives no
value. -/
theorem find?_insertCells {columns : List (String × Json)} (hn : (Assoc.keys columns).Nodup)
    (d : Deadline) (c : String) :
    Assoc.find? c (insertCells l d r columns).cells =
      (Assoc.find? c columns).elim (Assoc.find? c r.cells) fun v =>
        if l.isKey c then some ⟨v, .never⟩ else if v.isNull then none else some ⟨v, d⟩ := by
  refine Row.find?_foldl_cells (fun r v => ?_) (fun r p hpc => ?_) hn
  · split
    · rw [Row.find?_write, if_pos rfl]
    · rw [Row.find?_store, if_pos rfl]
  · split
    · rw [Row.find?_write, if_neg (Ne.symm hpc)]
    · rw [Row.find?_store, if_neg (Ne.symm hpc)]

theorem nodup_insertCells (h : (Assoc.keys r.cells).Nodup) (l : KeyLayout) (d : Deadline)
    (columns : List (String × Json)) : (Assoc.keys (insertCells l d r columns).cells).Nodup := by
  refine Row.nodup_foldl (fun r p hr => ?_) columns h
  split
  · exact Row.nodup_write hr _ _
  · exact Row.nodup_store hr _ _ _

/-- An update writes the cells of the key for good. -/
theorem find?_updateCells_of_key {assignments : List Assignment}
    (ha : ∀ a ∈ assignments, l.isKey a.column = false) (now : Nat) (d : Deadline) {c : String}
    {v : Json} (hv : l.valueIn? key c = some v) :
    Assoc.find? c (updateCells l key now d r assignments).cells = some ⟨v, .never⟩ := by
  have hc : l.isKey c = true := KeyLayout.isKey_of_valueIn? hv
  unfold updateCells
  rw [Row.find?_foldl_of_keeps fun r a hm => Row.find?_assign_of_ne r ?_ now d]
  · have hcells : Assoc.find? c
        ((l.names.zip key).foldl (fun r p => r.write p.1 ⟨p.2, .never⟩) r).cells =
          (l.valueIn? key c).elim (Assoc.find? c r.cells) fun v => some ⟨v, .never⟩ := by
      refine Row.find?_foldl_cells (fun r v => ?_) (fun r p hpc => ?_)
        (KeyLayout.nodup_keys_zip l.nodup_names key)
      · rw [Row.find?_write, if_pos rfl]
      · rw [Row.find?_write, if_neg (Ne.symm hpc)]
    rw [hcells, hv]
    rfl
  · rintro rfl
    rw [ha a hm] at hc
    cases hc

theorem nodup_updateCells (h : (Assoc.keys r.cells).Nodup) (l : KeyLayout) (key : List Json)
    (now : Nat) (d : Deadline) (assignments : List Assignment) :
    (Assoc.keys (updateCells l key now d r assignments).cells).Nodup := by
  refine Row.nodup_foldl (fun r a hr => Row.nodup_assign hr _ _ a) assignments ?_
  exact Row.nodup_foldl (fun r p hr => Row.nodup_write hr _ _) _ h

theorem keyed_insertCells (h : r.Proper l) {columns : List (String × Json)}
    (hn : (Assoc.keys columns).Nodup)
    (hk : fullKey (fun name => Assoc.find? name columns) l.names = .ok key)
    (hs : Json.sameItems r.key key = true) (d : Deadline) :
    (insertCells l d r columns).Keyed l := by
  obtain ⟨rfl, hall⟩ := fullKey_eq_ok hk
  have hp : (insertCells l d r columns).Proper l :=
    ⟨by rw [key_insertCells, h.length], by rw [key_insertCells, h.wellKeyed],
      nodup_insertCells h.nodup l d columns⟩
  refine hp.keyed (by rw [key_insertCells]; exact hs) fun c w hw => ?_
  have hc : l.isKey c = true := KeyLayout.isKey_of_valueIn? hw
  obtain ⟨v, hv⟩ := hall c (KeyLayout.isKey_iff.1 hc)
  have he : l.valueIn? (l.keyIn columns) c = some ((Assoc.find? c columns).getD .null) :=
    KeyLayout.valueIn?_keyIn hc
  have hvw : v = w := by
    rw [KeyLayout.keyIn, hw, hv] at he
    exact (Option.some.inj he).symm
  rw [find?_insertCells hn, hv, Option.elim_some, if_pos hc, hvw]

theorem keyed_updateCells (h : r.Proper l) {assignments : List Assignment}
    (ha : ∀ a ∈ assignments, l.isKey a.column = false)
    (hs : Json.sameItems r.key key = true) (now : Nat) (d : Deadline) :
    (updateCells l key now d r assignments).Keyed l := by
  have hp : (updateCells l key now d r assignments).Proper l :=
    ⟨by rw [key_updateCells, h.length], by rw [key_updateCells, h.wellKeyed],
      nodup_updateCells h.nodup l key now d assignments⟩
  exact hp.keyed (by rw [key_updateCells]; exact hs) fun c w hw =>
    find?_updateCells_of_key ha now d hw

end Table

end Polystore
