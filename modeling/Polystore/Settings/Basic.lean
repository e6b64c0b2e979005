import Polystore.Key.Layout

/-!
# Settings

How the column store and the index are reached, which keys tables have, and how long calls may
take.  Settings with problems are not used:

    problems s = []  →  ∃ r, s.registry = .ok r        (registry_of_problems_nil)
-/

namespace Polystore

/-- A user and a password. -/
structure Credentials where
  username : String
  password : String
  deriving DecidableEq, Repr

/-- The declared key of a table. -/
structure TableKey where
  name : TableName
  partition : List String
  clustering : List String
  deriving DecidableEq, Repr

/-- The layout that the declaration stands for. -/
def TableKey.layout (k : TableKey) : Checked KeyLayout :=
  KeyLayout.make k.partition k.clustering

/-- How the column store is used. -/
structure StoreSettings where
  contactPoints : List String := ["127.0.0.1:9042"]
  credentials : Option Credentials := none
  /-- How long a call may take. -/
  requestTimeoutMs : Nat := 12000
  /-- Logical and physical names of columns, in order of the logical name. -/
  columnMapping : List (String × String) := []
  tables : List TableKey := []

/-- How a caller proves to the index who it is. -/
inductive SearchAuth where
  | basic (c : Credentials)
  | bearer (token : String)
  deriving DecidableEq, Repr

/-- How the index is used. -/
structure SearchSettings where
  nodes : List String := ["http://localhost:9200"]
  auth : Option SearchAuth := none
  /-- How long the transport may take. -/
  requestTimeoutMs : Nat := 30000
  /-- How long a search may take. -/
  searchTimeoutMs : Nat := 5000
  /-- What follows the name of a field in the name of its untokenized sub-field. -/
  rawSuffix : String := ".raw"
  /-- The size of a page if a request has none. -/
  defaultLimit : Nat := 10
  maxLimit : Nat := 10000
  disableCertificateValidation : Bool := false

/-- All settings. -/
structure Settings where
  store : StoreSettings := {}
  search : SearchSettings := {}
  /-- How many workers run reads that answer later. -/
  callbackWorkers : Nat := 2

/-! ## Building -/

/-- The order of logical names. -/
def logicalLt (a b : String) : Bool := decide (a < b)

namespace StoreSettings

/-- Maps a logical name to a physical one, in place of an earlier mapping of the name. -/
def withMapping (s : StoreSettings) (logical physical : String) : StoreSettings :=
  { s with columnMapping := Assoc.putSorted logicalLt logical physical s.columnMapping }

/-- Declares the key of one more table. -/
def withTable (s : StoreSettings) (k : TableKey) : StoreSettings :=
  { s with tables := s.tables ++ [k] }

/-- The layouts of a list of declarations, after those already declared. -/
def declareAll (r : Registry) : List TableKey → Checked Registry
  | [] => pure r
  | k :: ks => do
    let l ← k.layout
    declareAll (r.declare k.name l) ks

/-- The declared layouts; of two declarations of a table the last one counts. -/
def registry (s : StoreSettings) : Checked Registry := declareAll .empty s.tables

end StoreSettings

/-! ## Problems -/

/-- What is wrong with settings. -/
inductive SettingsProblem where
  | noContactPoints
  | noRequestTime
  | blankMapping (logical : String)
  | badTableKey (name : TableName) (r : Rejection)
  | noNodes
  | noSearchTime
  | noDefaultLimit
  | defaultAboveMax (limit max : Nat)
  | noWorkers
  deriving DecidableEq, Repr

/-- The problem in words. -/
def SettingsProblem.text : SettingsProblem → String
  | noContactPoints => "column_store.contact_points must not be empty"
  | noRequestTime => "column_store.request_timeout_ms must be positive"
  | blankMapping logical => "column_store.column_mapping." ++ logical ++ " is blank"
  | badTableKey name r =>
    "column_store.tables." ++ name.keyspace ++ "." ++ name.table ++ ": " ++ r.message
  | noNodes => "search.nodes must not be empty"
  | noSearchTime => "search.search_timeout_ms must be positive"
  | noDefaultLimit => "search.default_limit must be positive"
  | defaultAboveMax limit max =>
    "search.default_limit (" ++ toString limit ++ ") exceeds search.max_limit (" ++ toString max ++
      ")"
  | noWorkers => "callback_workers must be positive"

/-- The problem, if there is one. -/
def problemIf (b : Bool) (p : SettingsProblem) : List SettingsProblem := if b then [p] else []

/-- The problem of a declared key. -/
def TableKey.problem? (k : TableKey) : Option SettingsProblem :=
  match k.layout with
  | .ok _ => none
  | .error r => some (.badTableKey k.name r)

/-- The problems of the settings of the column store. -/
def StoreSettings.problems (s : StoreSettings) : List SettingsProblem :=
  problemIf s.contactPoints.isEmpty .noContactPoints ++
    problemIf (s.requestTimeoutMs == 0) .noRequestTime ++
    s.columnMapping.flatMap (fun p => problemIf (Text.isBlank p.2) (.blankMapping p.1)) ++
    s.tables.filterMap TableKey.problem?

/-- The problems of the settings of the index. -/
def SearchSettings.problems (s : SearchSettings) : List SettingsProblem :=
  problemIf s.nodes.isEmpty .noNodes ++ problemIf (s.searchTimeoutMs == 0) .noSearchTime ++
    problemIf (s.defaultLimit == 0) .noDefaultLimit ++
    problemIf (s.maxLimit < s.defaultLimit) (.defaultAboveMax s.defaultLimit s.maxLimit)

namespace Settings

/-- Every problem, in a fixed order. -/
def problems (s : Settings) : List SettingsProblem :=
  s.store.problems ++ s.search.problems ++ problemIf (s.callbackWorkers == 0) .noWorkers

/-- Refuses settings with problems. -/
def check (s : Settings) : Checked Unit :=
  if s.problems.isEmpty then pure ()
  else throw (.invalidRequest "config" (.problems (s.problems.map SettingsProblem.text)))

end Settings

/-! ## Lemmas -/

theorem declareAll_of_no_problem {ks : List TableKey} (h : ks.filterMap TableKey.problem? = [])
    (r : Registry) : ∃ r', StoreSettings.declareAll r ks = .ok r' := by
  induction ks generalizing r with
  | nil => exact ⟨r, rfl⟩
  | cons k ks ih =>
    have hk : k.problem? = none := by
      cases hp : k.problem? with
      | none => rfl
      | some p => simp [hp] at h
    have hks : ks.filterMap TableKey.problem? = [] := by simpa [hk] using h
    unfold TableKey.problem? at hk
    split at hk
    · rename_i l hl
      obtain ⟨r', hr⟩ := ih hks (r.declare k.name l)
      exact ⟨r', by simp [StoreSettings.declareAll, hl, bind, Except.bind, hr]⟩
    · simp at hk

/-- Settings without problems declare good keys only. -/
theorem registry_of_problems_nil {s : Settings} (h : s.problems = []) :
    ∃ r, s.store.registry = .ok r := by
  have ht : s.store.tables.filterMap TableKey.problem? = [] := by
    simp only [Settings.problems, StoreSettings.problems, List.append_eq_nil_iff] at h
    exact h.1.1.2
  exact declareAll_of_no_problem ht .empty

end Polystore
