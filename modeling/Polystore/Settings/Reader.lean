import Polystore.Json.Basic
import Polystore.Settings.Basic

/-!
# Reading and writing settings

Settings are written as an object.  Every part may be left out and then has its default; keys
that are not known are ignored; `null` stands for no value where a value is optional, and is a
fault everywhere else.
-/

namespace Polystore

/-! ## Parts -/

/-- A part that has to be there. -/
def Json.required? {α : Type} (v : Json) (key : String) (read : Json → Option α) : Option α :=
  (v.get? key).bind read

/-- A part with a default. -/
def Json.partOr? {α : Type} (v : Json) (key : String) (read : Json → Option α) (default : α) :
    Option α :=
  match v.get? key with
  | some w => read w
  | none => some default

/-- A part that may be `null`. -/
def Json.optional? {α : Type} (v : Json) (key : String) (read : Json → Option α) :
    Option (Option α) :=
  v.partOr? key (fun w => if w.isNull then some none else (read w).map some) none

/-- A list of texts. -/
def Json.texts? (v : Json) : Option (List String) := v.arr?.bind fun items => items.mapM Json.str?

/-! ## Parts of settings -/

namespace Credentials

/-- Reads a user and a password. -/
def ofJson? (v : Json) : Option Credentials := do
  let username ← v.required? "username" Json.str?
  let password ← v.required? "password" Json.str?
  pure ⟨username, password⟩

/-- The written form. -/
def toJson (c : Credentials) : Json :=
  .obj [("username", .str c.username), ("password", .str c.password)]

end Credentials

namespace TableKey

/-- Reads a declaration. -/
def ofJson? (v : Json) : Option TableKey := do
  let keyspace ← v.required? "keyspace" Json.str?
  let table ← v.required? "table" Json.str?
  let partition ← v.required? "partition" Json.texts?
  let clustering ← v.partOr? "clustering" Json.texts? []
  pure ⟨⟨keyspace, table⟩, partition, clustering⟩

/-- The written form. -/
def toJson (k : TableKey) : Json :=
  .obj
    [("keyspace", .str k.name.keyspace), ("table", .str k.name.table),
      ("partition", .ofStrings k.partition), ("clustering", .ofStrings k.clustering)]

end TableKey

namespace SearchAuth

/-- Reads an object whose only key is the kind of the proof. -/
def ofJson? : Json → Option SearchAuth
  | .obj [("Basic", v)] => (Credentials.ofJson? v).map basic
  | .obj [("Bearer", v)] => (v.required? "token" Json.str?).map bearer
  | _ => none

/-- The written form. -/
def toJson : SearchAuth → Json
  | basic c => .obj [("Basic", c.toJson)]
  | bearer token => .obj [("Bearer", .obj [("token", .str token)])]

end SearchAuth

namespace StoreSettings

/-- Reads a mapping of columns. -/
def mappingOfJson? (v : Json) : Option (List (String × String)) := do
  let fields ← v.obj?
  let pairs ← fields.mapM fun p => p.2.str?.map fun s => (p.1, s)
  pure (pairs.foldl (fun l p => Assoc.putSorted logicalLt p.1 p.2 l) [])

/-- Reads a list of declarations. -/
def tablesOfJson? (v : Json) : Option (List TableKey) :=
  v.arr?.bind fun items => items.mapM TableKey.ofJson?

/-- Reads the settings of the column store. -/
def ofJson? (v : Json) : Option StoreSettings := do
  let _ ← v.obj?
  let d : StoreSettings := {}
  let contactPoints ← v.partOr? "contact_points" Json.texts? d.contactPoints
  let credentials ← v.optional? "credentials" Credentials.ofJson?
  let requestTimeoutMs ← v.partOr? "request_timeout_ms" Json.u64? d.requestTimeoutMs
  let columnMapping ← v.partOr? "column_mapping" mappingOfJson? d.columnMapping
  let tables ← v.partOr? "tables" tablesOfJson? d.tables
  pure { contactPoints, credentials, requestTimeoutMs, columnMapping, tables }

/-- The written form. -/
def toJson (s : StoreSettings) : Json :=
  .obj
    [("contact_points", .ofStrings s.contactPoints),
      ("credentials", .ofOption Credentials.toJson s.credentials),
      ("request_timeout_ms", .ofNat s.requestTimeoutMs),
      ("column_mapping", .obj (s.columnMapping.map fun p => (p.1, .str p.2))),
      ("tables", .arr (s.tables.map TableKey.toJson))]

end StoreSettings

namespace SearchSettings

/-- Reads the settings of the index. -/
def ofJson? (v : Json) : Option SearchSettings := do
  let _ ← v.obj?
  let d : SearchSettings := {}
  let nodes ← v.partOr? "nodes" Json.texts? d.nodes
  let auth ← v.optional? "auth" SearchAuth.ofJson?
  let requestTimeoutMs ← v.partOr? "request_timeout_ms" Json.u64? d.requestTimeoutMs
  let searchTimeoutMs ← v.partOr? "search_timeout_ms" Json.u64? d.searchTimeoutMs
  let rawSuffix ← v.partOr? "raw_suffix" Json.str? d.rawSuffix
  let defaultLimit ← v.partOr? "default_limit" Json.u64? d.defaultLimit
  let maxLimit ← v.partOr? "max_limit" Json.u64? d.maxLimit
  let disableCertificateValidation ←
    v.partOr? "disable_certificate_validation" Json.bool? d.disableCertificateValidation
  pure
    { nodes, auth, requestTimeoutMs, searchTimeoutMs, rawSuffix, defaultLimit, maxLimit,
      disableCertificateValidation }

/-- The written form. -/
def toJson (s : SearchSettings) : Json :=
  .obj
    [("nodes", .ofStrings s.nodes), ("auth", .ofOption SearchAuth.toJson s.auth),
      ("request_timeout_ms", .ofNat s.requestTimeoutMs),
      ("search_timeout_ms", .ofNat s.searchTimeoutMs), ("raw_suffix", .str s.rawSuffix),
      ("default_limit", .ofNat s.defaultLimit), ("max_limit", .ofNat s.maxLimit),
      ("disable_certificate_validation", .bool s.disableCertificateValidation)]

end SearchSettings

namespace Settings

/-- Reads settings. -/
def ofJson? (v : Json) : Option Settings := do
  let _ ← v.obj?
  let store ← v.partOr? "column_store" StoreSettings.ofJson? {}
  let search ← v.partOr? "search" SearchSettings.ofJson? {}
  let callbackWorkers ← v.partOr? "callback_workers" Json.u64? 2
  pure { store, search, callbackWorkers }

/-- The written form. -/
def toJson (s : Settings) : Json :=
  .obj
    [("column_store", s.store.toJson), ("search", s.search.toJson),
      ("callback_workers", .ofNat s.callbackWorkers)]

end Settings

end Polystore
