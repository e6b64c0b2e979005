import Polystore.Key.Composite

/-!
# Key layouts

The primary key of a table: partition columns, then clustering columns.  A layout has at least one
partition column, and no name is blank or occurs twice; `KeyLayout.make` refuses anything else, so
these facts are part of the type.

`split` separates a full record into its key and the other columns.
-/

namespace Polystore

/-- What a key column is for. -/
inductive KeyRole where
  | partition
  | clustering
  deriving DecidableEq, Repr

/-- The name of the role. -/
def KeyRole.text : KeyRole → String
  | partition => "partition"
  | clustering => "clustering"

/-- A column of a primary key. -/
structure KeyColumn where
  name : String
  role : KeyRole
  deriving DecidableEq, Repr

namespace KeyLayout

/-- The first fault of a list of key columns. -/
def firstFault? : List KeyColumn → Option LayoutFault
  | [] => none
  | c :: cs =>
    if Text.isBlank c.name then some .blankName
    else if cs.any fun d => d.name == c.name then some (.declaredTwice c.name)
    else firstFault? cs

theorem nodup_of_firstFault? {cs : List KeyColumn} (h : firstFault? cs = none) :
    (cs.map (·.name)).Nodup := by
  induction cs with
  | nil => simp
  | cons c cs ih =>
    simp only [firstFault?] at h
    split at h
    · simp at h
    · split at h
      · simp at h
      · rename_i hd
        simp only [List.any_eq_true, beq_iff_eq, not_exists, not_and] at hd
        simp only [List.map_cons, List.nodup_cons, List.mem_map, not_exists, not_and]
        exact ⟨hd, ih h⟩

theorem not_blank_of_firstFault? {cs : List KeyColumn} (h : firstFault? cs = none) :
    ∀ c ∈ cs, Text.isBlank c.name = false := by
  induction cs with
  | nil => simp
  | cons c cs ih =>
    simp only [firstFault?] at h
    split at h
    · simp at h
    · rename_i hb
      split at h
      · simp at h
      · intro d hd
        rcases List.mem_cons.1 hd with rfl | hd
        · simpa using hb
        · exact ih h d hd

end KeyLayout

/-- The primary key of a table. -/
structure KeyLayout where
  columns : List KeyColumn
  partition_exists : ∃ c ∈ columns, c.role = .partition
  names_nodup : (columns.map (·.name)).Nodup
  names_not_blank : ∀ c ∈ columns, Text.isBlank c.name = false

namespace KeyLayout

/-- The layout of tables that declare none: the single column `id`. -/
def byId : KeyLayout where
  columns := [⟨idColumn, .partition⟩]
  partition_exists := ⟨_, List.mem_singleton_self _, rfl⟩
  names_nodup := by simp
  names_not_blank := by
    intro c hc
    obtain rfl := List.mem_singleton.1 hc
    decide +kernel

instance : Inhabited KeyLayout := ⟨byId⟩

/-- The layout with these columns. -/
def make (partition clustering : List String) : Checked KeyLayout :=
  let columns := partition.map (⟨·, .partition⟩) ++ clustering.map (⟨·, .clustering⟩)
  if hp : ∃ c ∈ columns, c.role = .partition then
    match hf : firstFault? columns with
    | some fault => throw (.invalidKeyLayout fault)
    | none => pure ⟨columns, hp, nodup_of_firstFault? hf, not_blank_of_firstFault? hf⟩
  else throw (.invalidKeyLayout .noPartition)

/-- The names of the key columns, partition columns first. -/
def names (l : KeyLayout) : List String := l.columns.map (·.name)

/-- The names of the columns with a role. -/
def namesOf (l : KeyLayout) (role : KeyRole) : List String :=
  (l.columns.filter fun c => c.role = role).map (·.name)

/-- Is it the name of a key column? -/
def isKey (l : KeyLayout) (name : String) : Bool := l.columns.any fun c => c.name == name

/-- The value of a column that is there and not null. -/
def value? (r : Record) (name : String) : Option Json :=
  (Assoc.find? name r).filter fun v => !v.isNull

/-- Collects the key columns of a record, after those already collected. -/
def collect (r : Record) (key : CompositeKey) : List String → Checked CompositeKey
  | [] => pure key
  | name :: names =>
    match value? r name with
    | some v => collect r (key.set name v) names
    | none => throw (.missingKeyColumn name)

/-- Separates a record into its key and its other columns. -/
def split (l : KeyLayout) (r : Record) : Checked (CompositeKey × Record) := do
  let key ← collect r .empty l.names
  key.check
  pure (key, r.filter fun p => !l.isKey p.1)

/-- The key values of a record, in the order of the layout. -/
def keyOf? (l : KeyLayout) (r : Record) : Option (List Json) := l.names.mapM (value? r)

end KeyLayout

/-- The declared layouts by table; other tables are keyed by `id`. -/
structure Registry where
  layouts : List (TableName × KeyLayout)

namespace Registry

/-- No table is declared. -/
def empty : Registry := ⟨[]⟩

/-- Declares the layout of a table, in place of an earlier one. -/
def declare (r : Registry) (t : TableName) (l : KeyLayout) : Registry :=
  ⟨Assoc.put t l r.layouts⟩

/-- The layout of a table. -/
def get (r : Registry) (t : TableName) : KeyLayout := (Assoc.find? t r.layouts).getD .byId

end Registry

end Polystore
