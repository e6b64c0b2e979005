import Polystore.Proofs.Table.Effects

/-!
# What a table tells of its past

The history of a table is what accepted calls told it, newest first.  `History.of` is its part about
a key: what was told about the key since it was last deleted.  That part alone says whether the key
is visible (`IsVisible`) and what its columns read (`reading`).

A table tells its history if each of its rows shows the part about its key, and nothing was told
about a key without a row.  Every write keeps that up:

    t.Tells h → (t.inserted key columns ttl now).Tells (h.add now …)          (Tells.inserted)
    t.Tells h → (t.updated key assignments ttl now).Tells (h.add now …)       (Tells.updated)
    t.Tells h → (t.deleted conditions now).Tells (h.add now …)                (Tells.deleted)
-/

namespace Polystore

/-! ## Histories -/

/-- What a table is told: that a key was inserted, that a column of a key was written, or that the
keys that criteria address were deleted. -/
inductive Event where
  | inserted (key : List Json) (ttl : Option Int)
  | assigned (key : List Json) (a : Assignment) (ttl : Option Int)
  | deleted (c : Criteria)

/-- Events with their instants, newest first. -/
abbrev History := List (Nat × Event)

/-- Has something written with a time to live not run out yet? -/
def lasts (instant : Nat) (ttl : Option Int) (t : Nat) : Bool :=
  match ttl with
  | none => true
  | some seconds => t < instant + seconds.toNat * Clock.second

/-- A value with the instant and the time to live that it was written with. -/
structure Written where
  value : Json
  instant : Nat
  ttl : Option Int

/-- Has the value not run out yet? -/
def Written.isLive (w : Written) (t : Nat) : Bool := lasts w.instant w.ttl t

/-- What stands in a column after an assignment.  An entry is put into the live map of the column,
or into an empty one, which is written anew; it is removed from a live map, which keeps its instant
and its time to live. -/
def Assignment.outcome (a : Assignment) (before : Option Written) (now : Nat)
    (ttl : Option Int) : Option Written :=
  match a with
  | .set _ v => some ⟨v, now, ttl⟩
  | .put _ entry v =>
    match before.filter (·.isLive now) with
    | some ⟨.obj fields, _, _⟩ => some ⟨.obj (Assoc.put entry v fields), now, ttl⟩
    | _ => some ⟨.obj [(entry, v)], now, ttl⟩
  | .remove _ entry =>
    match before.filter (·.isLive now) with
    | some ⟨.obj fields, instant, ttl'⟩ => some ⟨.obj (Assoc.erase entry fields), instant, ttl'⟩
    | _ => before

namespace Event

/-- Is the key deleted? -/
def ends (l : KeyLayout) (key : List Json) : Event → Bool
  | deleted c => c.admits (l.valueIn? key)
  | _ => false

/-- Is the key inserted, or a column of it written? -/
def concerns (key : List Json) : Event → Bool
  | inserted k _ => Json.sameItems k key
  | assigned k _ _ => Json.sameItems k key
  | deleted _ => false

end Event

namespace History

/-- The history with events added that happened at one instant, in their order. -/
def add (h : History) (now : Nat) (es : List Event) : History :=
  es.foldl (fun h e => (now, e) :: h) h

/-- What was told about a key since it was last deleted. -/
def of (h : History) (l : KeyLayout) (key : List Json) : History :=
  (h.takeWhile fun e => !e.2.ends l key).filter fun e => e.2.concerns key

/-- The instant and the time to live of the last insertion. -/
def lastInsert : History → Option (Nat × Option Int)
  | [] => none
  | (now, .inserted _ ttl) :: _ => some (now, ttl)
  | _ :: past => lastInsert past

/-- What was last written to a column. -/
def lastWrite (column : String) : History → Option Written
  | [] => none
  | (now, .assigned _ a ttl) :: past =>
    if a.column = column then a.outcome (lastWrite column past) now ttl else lastWrite column past
  | _ :: past => lastWrite column past

/-- The value that a column reads, if it is not null: that of its last write unless it ran out. -/
def reading (h : History) (column : String) (t : Nat) : Option Json :=
  ((h.lastWrite column).filter fun w => w.isLive t && !w.value.isNull).map Written.value

/-- A key is visible if its last insertion has not run out, or a column outside the key reads a
value. -/
def IsVisible (h : History) (l : KeyLayout) (t : Nat) : Prop :=
  (∃ i, h.lastInsert = some i ∧ lasts i.1 i.2 t = true) ∨
    ∃ column, l.isKey column = false ∧ ∃ v, h.reading column t = some v

theorem not_isVisible_nil (l : KeyLayout) (t : Nat) : ¬IsVisible [] l t := by
  rintro (⟨i, hi, -⟩ | ⟨c, -, v, hv⟩)
  · cases hi
  · cases hv

/-! ## The part about a key -/

variable {h : History} {l : KeyLayout} {key k : List Json} {now : Nat}

theorem add_append (h : History) (now : Nat) (es es' : List Event) :
    h.add now (es ++ es') = (h.add now es).add now es' := List.foldl_append

theorem mem_add {es : List Event} {e : Nat × Event} :
    e ∈ h.add now es ↔ e ∈ h ∨ e.1 = now ∧ e.2 ∈ es := by
  unfold add
  induction es generalizing h with
  | nil => simp
  | cons e' es ih =>
    rw [List.foldl_cons, ih, List.mem_cons, List.mem_cons, Prod.ext_iff]
    tauto

theorem of_cons (e : Nat × Event) (h : History) :
    of (e :: h) l key =
      if e.2.ends l key then [] else if e.2.concerns key then e :: h.of l key else h.of l key := by
  unfold of
  by_cases he : e.2.ends l key = true
  · simp [he]
  · by_cases hc : e.2.concerns key = true <;> simp [he, hc]

/-- Are the events writes to the key? -/
def AllAbout (key : List Json) (es : List Event) : Prop :=
  ∀ e ∈ es, (∃ ttl, e = .inserted key ttl) ∨ ∃ a ttl, e = .assigned key a ttl

theorem ends_eq_false_of_about {e : Event}
    (he : (∃ ttl, e = .inserted key ttl) ∨ ∃ a ttl, e = .assigned key a ttl) :
    e.ends l k = false ∧ e.concerns k = Json.sameItems key k := by
  obtain ⟨_, rfl⟩ | ⟨_, _, rfl⟩ := he
  · exact ⟨rfl, rfl⟩
  · exact ⟨rfl, rfl⟩

theorem of_add_same {es : List Event} (he : AllAbout key es) (hs : Json.sameItems key k = true) :
    (h.add now es).of l k = (h.of l k).add now es := by
  unfold add
  induction es generalizing h with
  | nil => rfl
  | cons e es ih =>
    obtain ⟨h₁, h₂⟩ := ends_eq_false_of_about (l := l) (k := k) (he e List.mem_cons_self)
    rw [List.foldl_cons, List.foldl_cons, ih fun e hm => he e (List.mem_cons_of_mem _ hm), of_cons]
    simp only [h₁, h₂, hs, Bool.false_eq_true, if_false, if_true]

theorem of_add_other {es : List Event} (he : AllAbout key es)
    (hs : Json.sameItems key k = false) : (h.add now es).of l k = h.of l k := by
  unfold add
  induction es generalizing h with
  | nil => rfl
  | cons e es ih =>
    obtain ⟨h₁, h₂⟩ := ends_eq_false_of_about (l := l) (k := k) (he e List.mem_cons_self)
    rw [List.foldl_cons, ih fun e hm => he e (List.mem_cons_of_mem _ hm), of_cons]
    simp only [h₁, h₂, hs, Bool.false_eq_true, if_false]

/-- Keys that are the same have the same part of a history. -/
theorem of_congr (hw : Json.areWellKeyed key = true) (hs : Json.sameItems key k = true)
    (h : History) : h.of l key = h.of l k := by
  have hends : ∀ e : Event, e.ends l key = e.ends l k := by
    intro e
    cases e with
    | deleted c => exact Criteria.admits_congr (KeyLayout.sameValue_valueIn? hw hs) c
    | _ => rfl
  have hsame := Json.sameItems_congr_right hw hs
  have hconcerns : ∀ e : Event, e.concerns key = e.concerns k := by
    intro e
    cases e with
    | deleted c => rfl
    | inserted k' _ => exact hsame k'
    | assigned k' _ _ => exact hsame k'
  unfold of
  simp only [hends, hconcerns]

/-- A column with a last write was assigned. -/
theorem exists_assigned_of_lastWrite {column : String} {w : Written}
    (hw : h.lastWrite column = some w) :
    ∃ e ∈ h, ∃ key a ttl, e.2 = .assigned key a ttl ∧ a.column = column := by
  induction h with
  | nil => cases hw
  | cons e h ih =>
    obtain ⟨now, e⟩ := e
    have hpast : lastWrite column h = some w →
        ∃ e' ∈ (now, e) :: h, ∃ key a ttl, e'.2 = .assigned key a ttl ∧ a.column = column := by
      intro hw
      obtain ⟨e', hm, he'⟩ := ih hw
      exact ⟨e', List.mem_cons_of_mem _ hm, he'⟩
    cases e with
    | inserted key ttl => exact hpast hw
    | deleted c => exact hpast hw
    | assigned key a ttl =>
      simp only [lastWrite] at hw
      split at hw
      · next hc => exact ⟨_, List.mem_cons_self, key, a, ttl, rfl, hc⟩
      · exact hpast hw

theorem mem_of_mem_of {e : Nat × Event} (he : e ∈ h.of l key) : e ∈ h :=
  (List.takeWhile_sublist _).subset (List.mem_of_mem_filter he)

end History

/-! ## Rows that show a history -/

/-- The cell that a write leaves; null leaves none. -/
def cellOf (clock : Clock) (w? : Option Written) : Option Cell :=
  w?.bind fun w => if w.value.isNull then none else some ⟨w.value, .after clock w.instant w.ttl⟩

/-- Deadlines run out when times to live do, at every instant that the clock can show. -/
theorem isOpen_after {clock : Clock} {t : Nat} (ht : t ≤ clock.latest) (instant : Nat)
    (ttl : Option Int) : (Deadline.after clock instant ttl).isOpen t = lasts instant ttl t := by
  cases ttl with
  | none => rfl
  | some seconds =>
    unfold Deadline.after lasts
    dsimp only
    split
    · rfl
    · next h =>
      have : t < instant + seconds.toNat * Clock.second := by omega
      simp only [Deadline.isOpen, this, decide_true]

theorem filter_cellOf {clock : Clock} {t : Nat} (ht : t ≤ clock.latest) (w? : Option Written) :
    (cellOf clock w?).filter (·.isLive t) = cellOf clock (w?.filter (·.isLive t)) := by
  cases w? with
  | none => rfl
  | some w =>
    have h : Cell.isLive ⟨w.value, .after clock w.instant w.ttl⟩ t = w.isLive t :=
      isOpen_after ht _ _
    unfold cellOf
    by_cases hn : w.value.isNull = true
    · by_cases hw : w.isLive t = true <;> simp [Option.filter, hn, hw]
    · by_cases hw : w.isLive t = true <;> simp [Option.filter, hn, hw, h]

/-- Does the row show what was told about its key? -/
structure Row.Shows (clock : Clock) (l : KeyLayout) (r : Row) (h : History) : Prop where
  cell : ∀ c, l.isKey c = false → Assoc.find? c r.cells = cellOf clock (h.lastWrite c)
  inserted : r.inserted = h.lastInsert.map fun i => .after clock i.1 i.2

namespace Row

variable {clock : Clock} {l : KeyLayout} {r : Row} {h : History} {now : Nat}

theorem shows_fresh (clock : Clock) (l : KeyLayout) (key : List Json) :
    (fresh key).Shows clock l [] :=
  ⟨fun _ _ => rfl, rfl⟩

theorem Shows.cell? (hr : r.Shows clock l h) (ht : now ≤ clock.latest) {c : String}
    (hc : l.isKey c = false) :
    r.cell? c now = cellOf clock ((h.lastWrite c).filter (·.isLive now)) := by
  unfold Row.cell?
  rw [hr.cell c hc, filter_cellOf ht]

/-- A live value is what the column reads. -/
theorem Shows.value? (hr : r.Shows clock l h) (ht : now ≤ clock.latest) {c : String}
    (hc : l.isKey c = false) : r.value? c now = h.reading c now := by
  unfold Row.value? History.reading
  rw [hr.cell? ht hc]
  cases h.lastWrite c with
  | none => rfl
  | some w =>
    by_cases hw : w.isLive now = true <;> by_cases hn : w.value.isNull = true <;>
      simp [Option.filter, cellOf, hw, hn]

theorem cell_any_iff (hn : (Assoc.keys r.cells).Nodup) (l : KeyLayout) (t : Nat) :
    (r.cells.any fun p => !l.isKey p.1 && p.2.isLive t) = true ↔
      ∃ c, l.isKey c = false ∧ ∃ v, r.value? c t = some v := by
  simp only [List.any_eq_true, Bool.and_eq_true, Bool.not_eq_true', Row.value?, Row.cell?]
  constructor
  · rintro ⟨⟨c, cell⟩, hm, hk, hl⟩
    refine ⟨c, hk, cell.value, ?_⟩
    rw [Assoc.find?_eq_some_of_mem hn hm]
    simp [Option.filter, hl]
  · rintro ⟨c, hk, v, hv⟩
    simp only [Option.map_eq_some_iff, Option.filter_eq_some_iff] at hv
    obtain ⟨cell, ⟨hf, hl⟩, -⟩ := hv
    exact ⟨(c, cell), Assoc.mem_of_find?_eq_some hf, hk, hl⟩

/-- A row is visible if what was told about its key says so. -/
theorem Shows.isVisible_iff (hr : r.Shows clock l h) (hn : (Assoc.keys r.cells).Nodup)
    (ht : now ≤ clock.latest) : r.isVisible l now = true ↔ h.IsVisible l now := by
  unfold Row.isVisible History.IsVisible
  rw [Bool.or_eq_true, cell_any_iff hn, hr.inserted]
  refine or_congr ?_ ?_
  · cases hi : h.lastInsert with
    | none => simp
    | some i => simp [isOpen_after ht]
  · refine exists_congr fun c => and_congr_right fun hc => ?_
    rw [hr.value? ht hc]

theorem inserted_store (r : Row) (column : String) (v : Json) (d : Deadline) :
    (r.store column v d).inserted = r.inserted := by
  unfold store
  split <;> rfl

theorem inserted_assign (r : Row) (now : Nat) (d : Deadline) (a : Assignment) :
    (r.assign now d a).inserted = r.inserted := by
  cases a with
  | set column v => exact inserted_store r column v d
  | put column entry v => rfl
  | remove column entry =>
    unfold assign
    dsimp only
    split <;> rfl

/-- An assignment leaves the cell of what then stands in its column. -/
theorem Shows.find?_assign (hr : r.Shows clock l h) (ht : now ≤ clock.latest)
    {a : Assignment} (hc : l.isKey a.column = false) (ttl : Option Int) :
    Assoc.find? a.column (r.assign now (.after clock now ttl) a).cells =
      cellOf clock (a.outcome (h.lastWrite a.column) now ttl) := by
  have hcell := hr.cell? ht hc
  have hfind := hr.cell a.column hc
  cases a with
  | set column v =>
    refine (find?_store r column v _ column).trans ?_
    rw [if_pos rfl]
    rfl
  | put column entry v =>
    refine (find?_write r column _ column).trans ?_
    rw [if_pos rfl]
    simp only [Assignment.column] at hcell
    simp only [Row.map, Row.value?, Assignment.outcome, Assignment.column, hcell]
    cases hw : (h.lastWrite column).filter (·.isLive now) with
    | none => rfl
    | some w =>
      obtain ⟨v', instant, ttl'⟩ := w
      cases v' <;> rfl
  | remove column entry =>
    simp only [Assignment.column] at hcell hfind
    simp only [Row.assign, Assignment.outcome, Assignment.column, hcell]
    cases hw : (h.lastWrite column).filter (·.isLive now) with
    | none => exact hfind
    | some w =>
      obtain ⟨v', instant, ttl'⟩ := w
      cases v' with
      | obj fields =>
        refine (find?_write r column _ column).trans ?_
        rw [if_pos rfl]
        rfl
      | _ => exact hfind

theorem Shows.assign (hr : r.Shows clock l h) (ht : now ≤ clock.latest) {a : Assignment}
    (hc : l.isKey a.column = false) (key : List Json) (ttl : Option Int) :
    (r.assign now (.after clock now ttl) a).Shows clock l ((now, .assigned key a ttl) :: h) where
  cell c hk := by
    simp only [History.lastWrite]
    split
    · next he =>
      subst he
      exact hr.find?_assign ht hc ttl
    · next he =>
      rw [find?_assign_of_ne r (Ne.symm he)]
      exact hr.cell c hk
  inserted := by
    rw [inserted_assign]
    exact hr.inserted

theorem Shows.assigns (hr : r.Shows clock l h) (ht : now ≤ clock.latest)
    {assignments : List Assignment} (ha : ∀ a ∈ assignments, l.isKey a.column = false)
    (key : List Json) (ttl : Option Int) :
    (assignments.foldl (Row.assign now (.after clock now ttl)) r).Shows clock l
      (h.add now (assignments.map fun a => .assigned key a ttl)) := by
  induction assignments generalizing r h with
  | nil => exact hr
  | cons a as ih =>
    rw [List.forall_mem_cons] at ha
    exact ih (hr.assign ht ha.1 key ttl) ha.2

/-- Writes to key columns do not show. -/
theorem Shows.write_key (hr : r.Shows clock l h) {column : String} (hc : l.isKey column = true)
    (cell : Cell) : (r.write column cell).Shows clock l h where
  cell c hk := by
    rw [find?_write, if_neg, hr.cell c hk]
    rintro rfl
    rw [hc] at hk
    cases hk
  inserted := hr.inserted

end Row

/-! ## Writes to rows -/

/-- What an insertion tells. -/
def insertion (l : KeyLayout) (columns : List (String × Json)) (ttl : Option Int) : List Event :=
  .inserted (l.keyIn columns) ttl ::
    (columns.filter fun p => !l.isKey p.1).map fun p =>
      .assigned (l.keyIn columns) (.set p.1 p.2) ttl

/-- What assignments to a key tell. -/
def assignments (key : List Json) (as : List Assignment) (ttl : Option Int) : List Event :=
  as.map fun a => .assigned key a ttl

namespace Row

variable {clock : Clock} {l : KeyLayout} {r : Row} {h : History} {now : Nat}

theorem Shows.insertCells (hr : r.Shows clock l h) (ht : now ≤ clock.latest)
    (key : List Json) (columns : List (String × Json)) (ttl : Option Int) :
    (Table.insertCells l (.after clock now ttl) r columns).Shows clock l
      (h.add now ((columns.filter fun p => !l.isKey p.1).map fun p =>
        .assigned key (.set p.1 p.2) ttl)) := by
  unfold Table.insertCells
  induction columns generalizing r h with
  | nil => exact hr
  | cons p columns ih =>
    by_cases hk : l.isKey p.1 = true
    · rw [List.foldl_cons, if_pos hk, List.filter_cons_of_neg (by simpa using hk)]
      exact ih (hr.write_key hk _)
    · rw [List.foldl_cons, if_neg hk, List.filter_cons_of_pos (by simpa using hk)]
      have hc : l.isKey (Assignment.set p.1 p.2).column = false := by
        show l.isKey p.1 = false
        simpa using hk
      exact ih (hr.assign ht hc key ttl)

theorem Shows.insert (hr : r.Shows clock l h) (ht : now ≤ clock.latest)
    (columns : List (String × Json)) (ttl : Option Int) :
    (Table.insertCells l (.after clock now ttl) { r with inserted := some (.after clock now ttl) }
      columns).Shows clock l (h.add now (insertion l columns ttl)) := by
  have hi : ({ r with inserted := some (.after clock now ttl) } : Row).Shows clock l
      ((now, .inserted (l.keyIn columns) ttl) :: h) := ⟨hr.cell, rfl⟩
  exact hi.insertCells ht (l.keyIn columns) columns ttl

theorem Shows.update (hr : r.Shows clock l h) (ht : now ≤ clock.latest)
    {as : List Assignment} (ha : ∀ a ∈ as, l.isKey a.column = false) (key : List Json)
    (ttl : Option Int) :
    (Table.updateCells l key now (.after clock now ttl) r as).Shows clock l
      (h.add now (assignments key as ttl)) := by
  unfold Table.updateCells
  refine Shows.assigns ?_ ht ha key ttl
  have hz : ∀ p ∈ l.names.zip key, l.isKey p.1 = true := by
    intro p hp
    exact KeyLayout.isKey_iff.2 (List.of_mem_zip hp).1
  generalize l.names.zip key = values at hz
  induction values generalizing r with
  | nil => exact hr
  | cons p values ih =>
    rw [List.forall_mem_cons] at hz
    exact ih (hr.write_key hz.1 _) hz.2

end Row

/-! ## Tables that tell their history -/

namespace Table

/-- Does each row show the part of the history about its key, and was nothing told about keys
without a row? -/
structure Tells (t : Table) (h : History) : Prop where
  keyed : ∀ r ∈ t.rows, r.Keyed t.layout
  shows : ∀ r ∈ t.rows, r.Shows t.clock t.layout (h.of t.layout r.key)
  complete : ∀ key, (∀ r ∈ t.rows, Json.sameItems r.key key = false) → h.of t.layout key = []
  known : ∀ e ∈ h, ∀ key a ttl, e.2 = .assigned key a ttl → a.column ∈ t.columns

variable {t : Table} {h : History} {key : List Json} {rows : List Row} {now : Nat}

theorem tells_fresh (layout : KeyLayout) (declared : Option (List String)) (clock : Clock) :
    (fresh layout declared clock).Tells [] :=
  ⟨by simp [fresh], by simp [fresh], fun _ _ => rfl, by simp⟩

/-- A write changes the row with its key, a fresh one if there is none, and keeps all rows with
other keys. -/
theorem exists_changed (ho : KeysDiffer rows) (hr : ∀ r ∈ rows, Json.areWellKeyed r.key = true)
    (hw : Json.areWellKeyed key = true) (f : Row → Row) :
    ∃ r, Json.sameItems r.key key = true ∧
      (r ∈ rows ∨ r = .fresh key ∧ ∀ b ∈ rows, Json.sameItems b.key key = false) ∧
      ∀ b, b ∈ Table.changeRow key f rows ↔
        b = f r ∨ b ∈ rows ∧ Json.sameItems b.key key = false := by
  obtain ⟨before, r, after, rfl, hk, hb, hc⟩ | ⟨hn, hc⟩ := changeRow_cases key f rows
  · refine ⟨r, hk, .inl (by simp), fun b => ?_⟩
    unfold KeysDiffer at ho
    rw [List.pairwise_append, List.pairwise_cons] at ho
    have ha : ∀ a ∈ after, Json.sameItems a.key key = false := by
      intro a hm
      have hra := ho.2.1.1 a hm
      rw [Bool.eq_false_iff] at hra ⊢
      exact fun hs => hra (Json.sameItems_trans hk (Json.sameItems_symm (hr a (by simp [hm])) hs))
    rw [hc]
    simp only [List.mem_append, List.mem_cons]
    constructor
    · rintro (hm | rfl | hm)
      · exact .inr ⟨.inl hm, hb b hm⟩
      · exact .inl rfl
      · exact .inr ⟨.inr (.inr hm), ha b hm⟩
    · rintro (rfl | ⟨hm | rfl | hm, hs⟩)
      · exact .inr (.inl rfl)
      · exact .inl hm
      · rw [hk] at hs
        cases hs
      · exact .inr (.inr hm)
  · refine ⟨.fresh key, Json.sameItems_refl hw, .inr ⟨rfl, hn⟩, fun b => ?_⟩
    rw [hc, List.mem_append, List.mem_singleton, or_comm]
    exact or_congr_right ⟨fun hm => ⟨hm, hn b hm⟩, And.left⟩

/-- A write to the row with a key is told by the table if it is shown by that row. -/
theorem Tells.change (ht : t.Tells h) (ho : t.Orderly) {f : Row → Row} {noted : List String}
    (hf : Effect.Keeps t.layout key f noted) {es : List Event} (he : History.AllAbout key es)
    (hshows : ∀ (r : Row) (h : History), r.Shows t.clock t.layout h →
      (f r).Shows t.clock t.layout (h.add now es))
    (hnoted : ∀ k a ttl, Event.assigned k a ttl ∈ es → a.column ∈ noted) :
    (Effect.apply (.change key f noted) t).Tells (h.add now es) := by
  obtain ⟨r, hrk, hr, hmem⟩ :=
    exists_changed ho.keysDiffer (fun r hm => (ht.keyed r hm).wellKeyed) hf.wellKeyed f
  have hrow : r.Proper t.layout ∧ r.Shows t.clock t.layout (h.of t.layout r.key) := by
    obtain hm | ⟨rfl, hn⟩ := hr
    · exact ⟨(ht.keyed r hm).toProper, ht.shows r hm⟩
    · have hnone : h.of t.layout (Row.fresh key).key = [] := ht.complete key hn
      rw [hnone]
      exact ⟨⟨hf.length, hf.wellKeyed, List.nodup_nil⟩, Row.shows_fresh t.clock t.layout key⟩
  have hkr := Json.sameItems_symm hrow.1.wellKeyed hrk
  refine ⟨fun b hm => ?_, fun b hm => ?_, fun k hk => ?_, fun e hm k a ttl hek => ?_⟩
  · obtain rfl | ⟨hm, -⟩ := (hmem b).1 hm
    · exact hf.keyed r hrow.1 hrk
    · exact ht.keyed b hm
  · obtain rfl | ⟨hm, hs⟩ := (hmem b).1 hm
    · show (f r).Shows t.clock t.layout ((h.add now es).of t.layout (f r).key)
      rw [hf.key_eq, History.of_add_same he hkr]
      exact hshows r _ hrow.2
    · show b.Shows t.clock t.layout ((h.add now es).of t.layout b.key)
      rw [History.of_add_other he]
      · exact ht.shows b hm
      · rw [Bool.eq_false_iff] at hs ⊢
        exact fun hk => hs (Json.sameItems_symm hf.wellKeyed hk)
  · -- no changed row has the key `k`, so it is not the key that was written
    have hkk : Json.sameItems key k = false := by
      have hrk' := hk (f r) ((hmem _).2 (.inl rfl))
      rwa [hf.key_eq, Json.sameItems_congr_left hrow.1.wellKeyed hrk] at hrk'
    show (h.add now es).of t.layout k = []
    rw [History.of_add_other he hkk]
    refine ht.complete k fun b hm => ?_
    by_cases hs : Json.sameItems b.key key = true
    · rw [Json.sameItems_congr_left (ht.keyed b hm).wellKeyed hs]
      exact hkk
    · exact hk b ((hmem b).2 (.inr ⟨hm, by simpa using hs⟩))
  · rcases History.mem_add.1 hm with hm | ⟨-, hm⟩
    · exact mem_noteColumns.2 (.inl (ht.known e hm k a ttl hek))
    · rw [hek] at hm
      exact mem_noteColumns.2 (.inr (hnoted k a ttl hm))

theorem Tells.inserted (ht : t.Tells h) (ho : t.Orderly) (hnow : now ≤ t.clock.latest)
    {columns : List (String × Json)} (hc : (Json.obj columns).isWellKeyed = true)
    (hk : t.insertKey columns = .ok key) (ttl : Option Int) :
    (t.inserted key columns ttl now).Tells (h.add now (insertion t.layout columns ttl)) := by
  obtain ⟨-, hk⟩ := insertKey_eq_ok hk
  have hkeyIn : key = t.layout.keyIn columns := (fullKey_eq_ok hk).1
  refine ht.change ho (keeps_insertCells hc hk (.after t.clock now ttl)) (fun e he => ?_)
    (fun r h hr => hr.insert hnow columns ttl) fun k a ttl' hm => ?_
  · rw [insertion, List.mem_cons, List.mem_map] at he
    obtain rfl | ⟨p, -, rfl⟩ := he
    · exact .inl ⟨ttl, by rw [hkeyIn]⟩
    · exact .inr ⟨_, ttl, by rw [hkeyIn]⟩
  · rw [insertion, List.mem_cons, List.mem_map] at hm
    obtain hm | ⟨p, hp, hm⟩ := hm
    · cases hm
    · obtain ⟨-, rfl, -⟩ := Event.assigned.inj hm
      exact List.mem_map_of_mem (List.mem_of_mem_filter hp)

theorem Tells.updated (ht : t.Tells h) (ho : t.Orderly) (hnow : now ≤ t.clock.latest)
    {as : List Assignment} {conditions : List Condition}
    (hc : ∀ column v, equalityOn? column conditions = some v → v.isWellKeyed = true)
    (hk : t.updateKey as conditions = .ok key) (ttl : Option Int) :
    (t.updated key as ttl now).Tells (h.add now (assignments key as ttl)) := by
  obtain ⟨ha, hk⟩ := updateKey_eq_ok hk
  have hna : ∀ a ∈ as, t.layout.isKey a.column = false := fun a hm => (ha a hm).2
  refine ht.change ho (keeps_updateCells hc hna hk now (.after t.clock now ttl)) (fun e he => ?_)
    (fun r h hr => hr.update hnow hna key ttl) fun k a ttl' hm => ?_
  · obtain ⟨a, -, rfl⟩ := List.mem_map.1 he
    exact .inr ⟨a, ttl, rfl⟩
  · obtain ⟨a', ha', hm⟩ := List.mem_map.1 hm
    obtain ⟨-, rfl, -⟩ := Event.assigned.inj hm
    exact List.mem_map_of_mem ha'

/-- A deletion tells of the criteria that its conditions stand for. -/
theorem Tells.deleted (ht : t.Tells h) {c : Criteria} {conditions : List Condition}
    (hc : c.conditions = .ok conditions) (hd : t.deleteCheck conditions = .ok ()) (now : Nat) :
    (t.deleted conditions now).Tells (h.add now [.deleted c]) := by
  have hkeys := isKey_of_deleteCheck hd
  -- the conditions hold of a row if the criteria address its key
  have hends : ∀ r ∈ t.rows, (conditions.all fun d => d.holds r now) =
      (Event.deleted c).ends t.layout r.key := by
    intro r hm
    rw [(ht.keyed r hm).all_conditions hkeys now, Criteria.all_conditions _ hc]
    rfl
  have hmem : ∀ r, r ∈ (t.deleted conditions now).rows ↔
      r ∈ t.rows ∧ (Event.deleted c).ends t.layout r.key = false := by
    intro r
    unfold Table.deleted
    rw [List.mem_filter]
    refine and_congr_right fun hm => ?_
    rw [hends r hm, Bool.not_eq_true']
  have hof : ∀ k, (h.add now [.deleted c]).of t.layout k =
      if (Event.deleted c).ends t.layout k then [] else h.of t.layout k := by
    intro k
    exact History.of_cons (now, .deleted c) h
  refine ⟨fun r hm => ?_, fun r hm => ?_, fun k hk => ?_, fun e hm k a ttl hek => ?_⟩
  · exact ht.keyed r ((hmem r).1 hm).1
  · obtain ⟨hm, he⟩ := (hmem r).1 hm
    show r.Shows t.clock t.layout ((h.add now [.deleted c]).of t.layout r.key)
    rw [hof, he]
    exact ht.shows r hm
  · show (h.add now [.deleted c]).of t.layout k = []
    rw [hof]
    split
    · rfl
    · next he =>
      refine ht.complete k fun r hm => ?_
      rw [Bool.eq_false_iff]
      intro hs
      -- a row with the key `k` was kept, as the criteria do not address `k`
      have hr := Criteria.admits_congr
        (KeyLayout.sameValue_valueIn? (l := t.layout) (ht.keyed r hm).wellKeyed hs) c
      have hkept := hk r ((hmem r).2 ⟨hm, hr.trans (Bool.eq_false_iff.2 he)⟩)
      rw [hs] at hkept
      cases hkept
  · rcases History.mem_add.1 hm with hm | ⟨-, hm⟩
    · exact ht.known e hm k a ttl hek
    · rw [hek, List.mem_singleton] at hm
      cases hm

end Table

end Polystore
