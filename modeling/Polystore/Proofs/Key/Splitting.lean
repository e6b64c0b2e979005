import Mathlib.Data.List.Forall2
import Mathlib.Data.List.Nodup
import Polystore.Key.Layout
import Polystore.Proofs.Column.Names
import Polystore.Proofs.Table.Cells

/-!
# Splitting records

A full record is a key and other columns.  `KeyLayout.split` takes it apart into them, if every key
column is there with a scalar (`split_isOk_iff`), and nothing is lost, added or reordered
(`parts_of_split`):

    l.split r = .ok (key, rest) → l.Parts r key rest

An update of the row with the key by the rest is accepted whenever the rest is not empty and the
names are identifiers, since no column of the rest belongs to the key
(`compileUpdate_of_split`).
-/

namespace Polystore

/-! ## Checked keys -/

namespace CompositeKey

theorem checkColumns_eq_ok {columns : List (String × Json)} :
    checkColumns columns = .ok () ↔
      ∀ p ∈ columns, Text.isBlank p.1 = false ∧ p.2.isScalar = true := by
  induction columns with
  | nil => simp [checkColumns]
  | cons p columns ih =>
    rw [checkColumns, Outcome.then_eq_ok, requireText_eq_ok, List.forall_mem_cons, ← ih]
    split
    · next hv => simp [hv]
    · next hv => simp [hv]

/-- A key is accepted if it has a column, and its columns have names and scalars. -/
theorem check_eq_ok {k : CompositeKey} :
    k.check = .ok () ↔ k.columns ≠ [] ∧
      ∀ p ∈ k.columns, Text.isBlank p.1 = false ∧ p.2.isScalar = true := by
  rw [check, ne_eq, ← List.isEmpty_iff, ← checkColumns_eq_ok]
  split
  · next he => simp [he]
  · next he => simp [he]

theorem contains_iff {k : CompositeKey} {c : String} :
    k.contains c = true ↔ c ∈ Assoc.keys k.columns := by
  rw [contains, get?, ← not_iff_not, ← Assoc.find?_eq_none_iff, Bool.not_eq_true,
    Option.isSome_eq_false_iff, Option.isNone_iff_eq_none]

end CompositeKey

theorem Json.isNull_of_isScalar {v : Json} (h : v.isScalar = true) : v.isNull = false := by
  cases v with
  | null => cases h
  | _ => rfl

namespace KeyLayout

variable {l : KeyLayout} {r rest : Record} {key : CompositeKey}

/-! ## Taking a record apart -/

theorem names_ne_nil (l : KeyLayout) : l.names ≠ [] := by
  obtain ⟨c, hc, -⟩ := l.partition_exists
  exact List.ne_nil_of_mem (List.mem_map_of_mem hc)

/-- A layout that is made has the partition columns and then the clustering columns. -/
theorem names_of_make {partition clustering : List String}
    (h : make partition clustering = .ok l) : l.names = partition ++ clustering := by
  unfold make at h
  dsimp only at h
  split at h
  · split at h
    · exact absurd h Outcome.throw_ne_ok
    · obtain rfl := Outcome.pure_eq_ok.1 h
      simp [names, Function.comp_def]
  · exact absurd h Outcome.throw_ne_ok

theorem value?_eq_some {c : String} {v : Json} :
    value? r c = some v ↔ Assoc.find? c r = some v ∧ v.isNull = false := by
  rw [value?, Option.filter_eq_some_iff, Bool.not_eq_true']

/-- The values of the key columns are found one by one. -/
theorem keyOf?_eq_some {values : List Json} :
    l.keyOf? r = some values ↔
      List.Forall₂ (fun c v => value? r c = some v) l.names values := by
  rw [keyOf?]
  induction l.names generalizing values with
  | nil =>
    rw [List.mapM_nil, List.forall₂_nil_left_iff]
    exact Option.some_inj.trans eq_comm
  | cons c names ih =>
    simp only [List.mapM_cons, Option.bind_eq_bind, Option.bind_eq_some_iff, ih, Option.pure_def,
      Option.some_inj, List.forall₂_cons_left_iff]
    constructor
    · rintro ⟨v, hv, vs, hvs, rfl⟩
      exact ⟨v, vs, hv, hvs, rfl⟩
    · rintro ⟨v, vs, hv, hvs, rfl⟩
      exact ⟨v, hv, vs, hvs, rfl⟩

/-- Collecting appends the columns in the order in which they are asked for, since none of them is
in the key yet. -/
theorem collect_eq_ok {names : List String} {key k : CompositeKey}
    (hn : (Assoc.keys key.columns ++ names).Nodup) :
    collect r key names = .ok k ↔
      ∃ values, List.Forall₂ (fun c v => value? r c = some v) names values ∧
        k = ⟨key.columns ++ names.zip values⟩ := by
  induction names generalizing key with
  | nil =>
    rw [collect, Outcome.pure_eq_ok]
    simp [eq_comm]
  | cons c names ih =>
    have hc : c ∉ Assoc.keys key.columns := fun h =>
      (List.nodup_append.1 hn).2.2 _ h _ List.mem_cons_self rfl
    have hset (v : Json) : key.set c v = ⟨key.columns ++ [(c, v)]⟩ := by
      rw [CompositeKey.set, Assoc.put_of_not_mem v hc]
    simp only [collect, List.forall₂_cons_left_iff]
    cases value? r c with
    | none => simp
    | some v =>
      have hn' : (Assoc.keys (key.set c v).columns ++ names).Nodup := by
        rw [hset]
        simpa [Assoc.keys] using hn
      rw [ih hn', hset]
      constructor
      · rintro ⟨vs, hvs, rfl⟩
        exact ⟨v :: vs, ⟨v, vs, rfl, hvs, rfl⟩, by simp⟩
      · rintro ⟨_, ⟨w, vs, hw, hvs, rfl⟩, rfl⟩
        obtain rfl := Option.some.inj hw
        exact ⟨vs, hvs, by simp⟩

/-- A record is split into its key and the other columns if the key is there and can be bound. -/
theorem split_eq_ok :
    l.split r = .ok (key, rest) ↔
      ∃ values, l.keyOf? r = some values ∧ (∀ p ∈ l.names.zip values, p.2.isScalar = true) ∧
        key = ⟨l.names.zip values⟩ ∧ rest = r.filter fun p => !l.isKey p.1 := by
  have hn : (Assoc.keys CompositeKey.empty.columns ++ l.names).Nodup := l.nodup_names
  rw [split, Outcome.bind_eq_ok]
  simp only [collect_eq_ok hn, ← keyOf?_eq_some, Outcome.then_eq_ok, Outcome.pure_eq_ok,
    CompositeKey.check_eq_ok, Prod.mk.injEq]
  constructor
  · rintro ⟨_, ⟨values, hv, rfl⟩, ⟨-, hcheck⟩, rfl, rfl⟩
    exact ⟨values, hv, fun p hp => (hcheck p hp).2, rfl, rfl⟩
  · rintro ⟨values, hv, hscalar, rfl, rfl⟩
    refine ⟨_, ⟨values, hv, rfl⟩, ⟨?_, fun p hp => ⟨?_, hscalar p hp⟩⟩, rfl, rfl⟩
    · intro he
      rcases List.zip_eq_nil_iff.1 he with hnil | rfl
      · exact l.names_ne_nil hnil
      · cases hnames : l.names with
        | nil => exact l.names_ne_nil hnames
        | cons c names =>
          rw [keyOf?_eq_some, hnames] at hv
          cases hv
    · obtain ⟨c, hc, he⟩ := List.mem_map.1 (List.of_mem_zip hp).1
      rw [← he]
      exact l.names_not_blank c hc

/-- A record can be split if it has a string, a number or a boolean in every key column. -/
theorem split_isOk_iff :
    (∃ key rest, l.split r = .ok (key, rest)) ↔
      ∀ c ∈ l.names, ∃ v, Assoc.find? c r = some v ∧ v.isScalar = true := by
  simp only [split_eq_ok]
  constructor
  · rintro ⟨_, _, values, hv, hscalar, -, -⟩ c hc
    obtain ⟨hl, hvalues⟩ := List.forall₂_iff_zip.1 (keyOf?_eq_some.1 hv)
    obtain ⟨v, hz⟩ := l.exists_valueIn? hl.symm (isKey_iff.2 hc)
    have hmem := Assoc.mem_of_find?_eq_some hz
    exact ⟨v, (value?_eq_some.1 (hvalues hmem)).1, hscalar _ hmem⟩
  · intro h
    obtain ⟨values, hv⟩ := exists_forall₂ h
    obtain ⟨hl, hvalues⟩ := List.forall₂_iff_zip.1 hv
    refine ⟨_, _, values, ?_, fun p hp => (hvalues hp).2, rfl, rfl⟩
    exact keyOf?_eq_some.2 (hv.imp fun c v hcv =>
      value?_eq_some.2 ⟨hcv.1, Json.isNull_of_isScalar hcv.2⟩)

/-- Are a key and other columns the parts of a record? -/
structure Parts (l : KeyLayout) (r : Record) (key : CompositeKey) (rest : Record) : Prop where
  /-- The key has the columns of the layout, in its order. -/
  keys : Assoc.keys key.columns = l.names
  /-- The key has the values of the record, and each column is in one part, once. -/
  perm : (key.columns ++ rest).Perm r
  /-- The other columns keep their order. -/
  sublist : rest.Sublist r
  /-- The other columns are those that do not belong to the key. -/
  mem_rest : ∀ p, p ∈ rest ↔ p ∈ r ∧ p.1 ∉ l.names
  /-- The values of the key are those that are read without splitting. -/
  keyOf : l.keyOf? r = some (key.columns.map Prod.snd)

theorem parts_of_split (hr : (Assoc.keys r).Nodup) (h : l.split r = .ok (key, rest)) :
    l.Parts r key rest := by
  obtain ⟨values, hv, hscalar, rfl, rfl⟩ := split_eq_ok.1 h
  obtain ⟨hl, hvalues⟩ := List.forall₂_iff_zip.1 (keyOf?_eq_some.1 hv)
  have hkeys : Assoc.keys (l.names.zip values) = l.names := List.map_fst_zip (Nat.le_of_eq hl)
  have hnodup : (Assoc.keys (l.names.zip values)).Nodup := hkeys.symm ▸ l.nodup_names
  -- the pairs of the key are those of the record in key columns
  have hmem (p : String × Json) :
      p ∈ l.names.zip values ↔ p ∈ r.filter fun p => l.isKey p.1 := by
    rw [List.mem_filter, isKey_iff]
    constructor
    · intro hp
      have hf := (value?_eq_some.1 (hvalues hp)).1
      exact ⟨Assoc.mem_of_find?_eq_some hf, (List.of_mem_zip hp).1⟩
    · rintro ⟨hp, hc⟩
      obtain ⟨v, hz⟩ := l.exists_valueIn? hl.symm (isKey_iff.2 hc)
      have hzip := Assoc.mem_of_find?_eq_some hz
      have hf := (value?_eq_some.1 (hvalues hzip)).1
      rw [Assoc.find?_eq_some_of_mem hr hp, Option.some_inj] at hf
      rwa [← hf] at hzip
  have hperm : (l.names.zip values).Perm (r.filter fun p => l.isKey p.1) :=
    (List.perm_ext_iff_of_nodup hnodup.of_map (hr.of_map.filter _)).2 hmem
  exact
    { keys := hkeys
      perm := (hperm.append_right _).trans (List.filter_append_perm _ r)
      sublist := List.filter_sublist
      mem_rest := fun p => by rw [List.mem_filter, Bool.not_eq_true', not_isKey_iff]
      keyOf := by rw [List.map_snd_zip (Nat.le_of_eq hl.symm), hv] }

/-- The key pairs the key columns with their values in the record, all of which are scalars. -/
theorem values_of_split (h : l.split r = .ok (key, rest)) :
    key.columns = l.names.zip (key.columns.map Prod.snd) ∧
      List.Forall₂ (fun c v => Assoc.find? c r = some v ∧ v.isScalar = true) l.names
        (key.columns.map Prod.snd) := by
  obtain ⟨values, hv, hscalar, rfl, rfl⟩ := split_eq_ok.1 h
  obtain ⟨hl, hvalues⟩ := List.forall₂_iff_zip.1 (keyOf?_eq_some.1 hv)
  have hk : (l.names.zip values).map Prod.snd = values := List.map_snd_zip (Nat.le_of_eq hl.symm)
  rw [hk]
  refine ⟨rfl, List.forall₂_iff_zip.2 ⟨hl, fun hm => ?_⟩⟩
  exact ⟨(value?_eq_some.1 (hvalues hm)).1, hscalar _ hm⟩

/-- The rest has the values of the record in all other columns. -/
theorem find?_rest_of_split (h : l.split r = .ok (key, rest)) {c : String}
    (hc : l.isKey c = false) : Assoc.find? c rest = Assoc.find? c r := by
  obtain ⟨values, -, -, -, rfl⟩ := split_eq_ok.1 h
  rw [Assoc.find?_filter (fun c => !l.isKey c), hc]
  rfl

/-! ## Updates by a key and the rest -/

theorem checkValueColumns_eq_ok {k : RowKey} {columns : List String} :
    checkValueColumns k columns = .ok () ↔
      ∀ c ∈ columns, Identifier.holds c = true ∧ k.binds c = false := by
  induction columns with
  | nil => simp [checkValueColumns]
  | cons c columns ih =>
    rw [checkValueColumns, Outcome.then_eq_ok, Identifier.check_eq_ok, List.forall_mem_cons, ← ih]
    split
    · next hb => simp [hb]
    · next hb => simp [hb]

/-- The update of the row with a key by the rest of the record is accepted.  It sets the columns of
the rest and asks for the columns of the key. -/
theorem compileUpdate_of_split (hr : (Assoc.keys r).Nodup) (h : l.split r = .ok (key, rest))
    (hrest : rest ≠ []) (hnames : ∀ p ∈ r, Identifier.holds p.1 = true) (t : TableName) {ttl : Int}
    (httl : ttl ≤ maxTtl) :
    compileUpdate t (.composite key) rest ttl =
      .ok ⟨t, .update (rest.map fun p => .set p.1 p.2)
        (key.columns.map fun p => ⟨p.1, .equals p.2⟩) (askedTtl ttl)⟩ := by
  have hparts := parts_of_split hr h
  have hcheck : (RowKey.composite key).check = .ok () := by
    rw [split, Outcome.bind_eq_ok] at h
    obtain ⟨_, -, h⟩ := h
    obtain ⟨hk, h⟩ := Outcome.then_eq_ok.1 h
    obtain ⟨rfl, -⟩ := Prod.mk.inj (Outcome.pure_eq_ok.1 h)
    exact hk
  have hempty : ¬ rest.isEmpty = true := by rwa [List.isEmpty_iff]
  have hvalues : checkValueColumns (.composite key) (rest.map Prod.fst) = .ok () := by
    refine checkValueColumns_eq_ok.2 (List.forall_mem_map.2 fun p hp => ?_)
    obtain ⟨hm, hc⟩ := (hparts.mem_rest p).1 hp
    refine ⟨hnames p hm, Bool.not_eq_true _ |>.mp fun hb => hc ?_⟩
    rw [← hparts.keys]
    exact CompositeKey.contains_iff.1 hb
  have hkey : Identifier.checkAll (key.columns.map Prod.fst) = .ok () := by
    refine Identifier.checkAll_eq_ok.2 (List.forall_mem_map.2 fun p hp => hnames p ?_)
    exact hparts.perm.subset (List.mem_append_left _ hp)
  rw [compileUpdate, hcheck]
  show (if rest.isEmpty = true then _ else _) = _
  rw [if_neg hempty, hvalues, RowKey.conditions]
  show (Identifier.checkAll (key.columns.map Prod.fst) >>= _ >>= _) = _
  rw [hkey, effectiveTtl_of_le httl]
  rfl

/-- Splitting loses nothing.  A record is split if it has a string, a number or a boolean in every
key column.  Then it falls into the key, in the order of the layout, and the other columns, in the
order of the record.  The row with the key can be updated by the other columns, on its own or in a
batch: they are what is set, and the key is what is asked for. -/
theorem splits_losslessly (l : KeyLayout) {r : Record} (hr : (Assoc.keys r).Nodup) :
    (∀ partition clustering, make partition clustering = .ok l →
      l.names = partition ++ clustering) ∧
    ((∃ key rest, l.split r = .ok (key, rest)) ↔
      ∀ c ∈ l.names, ∃ v, Assoc.find? c r = some v ∧ v.isScalar = true) ∧
    ∀ key rest, l.split r = .ok (key, rest) →
      l.Parts r key rest ∧
      ∀ t : TableName, t.check = .ok () → rest ≠ [] →
        (∀ p ∈ r, Identifier.holds p.1 = true) →
        (∀ ttl ≤ maxTtl, compile t (.update (.composite key) rest ttl) =
          .ok (.single ⟨t, .update (rest.map fun p => .set p.1 p.2)
            (key.columns.map fun p => ⟨p.1, .equals p.2⟩) (askedTtl ttl)⟩)) ∧
        compile t (.batch [.update (.composite key) rest]) =
          .ok (.batch [⟨t, .update (rest.map fun p => .set p.1 p.2)
            (key.columns.map fun p => ⟨p.1, .equals p.2⟩) none⟩]) := by
  refine ⟨fun _ _ => names_of_make, split_isOk_iff, fun key rest h => ⟨parts_of_split hr h, ?_⟩⟩
  intro t ht hrest hnames
  have hupdate {ttl : Int} (httl : ttl ≤ maxTtl) :=
    compileUpdate_of_split hr h hrest hnames t httl
  refine ⟨fun ttl httl => ?_, ?_⟩
  · exact single_eq_ok.2 ⟨ht, _, hupdate httl, rfl⟩
  · refine compile_batch_eq_ok.2 ⟨ht, by simp, _, ?_, rfl⟩
    have hnone : (0 : Int) ≤ maxTtl := by decide
    exact .cons (hupdate hnone) .nil

/-- Visits are kept by day, and within a day by who came. -/
def visitsByDay : KeyLayout where
  columns := [⟨"day", .partition⟩, ⟨"who", .clustering⟩]
  partition_exists := ⟨_, List.mem_cons_self, rfl⟩
  names_nodup := by decide
  names_not_blank := by decide +kernel

/-- A visit, which does not list the key first. -/
def visit : Record := [("who", .str "ann"), ("minutes", .ofNat 5), ("day", .ofNat 3)]

theorem splits_losslessly_visit :
    make ["day"] ["who"] = .ok visitsByDay ∧
      visitsByDay.Parts visit ⟨[("day", .ofNat 3), ("who", .str "ann")]⟩
        [("minutes", .ofNat 5)] ∧
      compile ⟨"shop", "visits"⟩ (.update (.composite ⟨[("day", .ofNat 3), ("who", .str "ann")]⟩)
          [("minutes", .ofNat 5)] 60) =
        .ok (.single ⟨⟨"shop", "visits"⟩, .update [.set "minutes" (.ofNat 5)]
          [⟨"day", .equals (.ofNat 3)⟩, ⟨"who", .equals (.str "ann")⟩] (some 60)⟩) := by
  have hvisit : (Assoc.keys visit).Nodup := by decide
  obtain ⟨-, -, hparts⟩ := splits_losslessly visitsByDay hvisit
  obtain ⟨hvisitParts, hupdates⟩ := hparts ⟨[("day", .ofNat 3), ("who", .str "ann")]⟩
    [("minutes", .ofNat 5)] rfl
  obtain ⟨hupdate, -⟩ := hupdates ⟨"shop", "visits"⟩ rfl (List.cons_ne_nil _ _) (by decide)
  exact ⟨rfl, hvisitParts, hupdate 60 (by decide)⟩

end KeyLayout

end Polystore
