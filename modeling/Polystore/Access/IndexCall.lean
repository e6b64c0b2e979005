import Polystore.Key.Id
import Polystore.Search.Body
import Polystore.Settings.Basic

/-!
# Calls on indices

What a caller can ask of an index by name.  A checked call is a `Lookup`: a search body with the
facets that it was asked for, or a call on documents by id.
-/

namespace Polystore

/-- A call on an index. -/
inductive IndexCall where
  | search (r : SearchRequest)
  /-- Stores a document, under a fresh id if none is given. -/
  | save (id : Option String) (doc : Record)
  /-- Merges a patch into a document. -/
  | update (id : String) (patch : Record)
  /-- Merges a patch into a document, which is created if there is none. -/
  | upsert (id : String) (doc : Record)
  | get (id : String)
  | delete (id : String)
  /-- Stores documents under their own ids. -/
  | saveMany (docs : List Record)
  | getMany (ids fields : List String)

/-- A checked call on an index. -/
inductive Lookup where
  | search (body : Json) (facets : List FacetRequest)
  | put (id : String) (doc : Record)
  | update (id : String) (patch : Record) (upsert : Bool)
  | get (id : String)
  | delete (id : String)
  | putAll (docs : List (String × Record))
  | getMany (ids fields : List String)

/-- The documents with their own ids, unless one of them has none. -/
def withOwnIds : List Record → Checked (List (String × Record))
  | [] => pure []
  | d :: ds => do
    let id ← documentId d
    let rest ← withOwnIds ds
    pure ((id, d) :: rest)

/-! ## Fresh ids -/

/-- The last digits of a number in hexadecimal notation. -/
def hexTail (n digits : Nat) : String :=
  String.ofList <| (List.range digits).reverse.map fun i =>
    Nat.digitChar (n / Decimal.twoTo (4 * i) % 16)

/-- The id of the n-th document that came without one: 36 characters in five groups. -/
def freshId (n : Nat) : String := "00000000-0000-4000-8000-" ++ hexTail n 12

/-! ## Checking -/

namespace IndexCall

/-- The name under which a call is reported. -/
def name : IndexCall → String
  | search _ => "search"
  | save _ _ => "save"
  | update _ _ => "update"
  | upsert _ _ => "upsert"
  | get _ => "get_by_id"
  | delete _ => "delete"
  | saveMany _ => "bulk_insert"
  | getMany _ _ => "get_by_ids"

/-- Does the call need a fresh id? -/
def needsId : IndexCall → Bool
  | save none _ => true
  | _ => false

/-- A call on one document, for which the id is checked first and then the index. -/
def onDocument (index id : String) (l : Lookup) : Checked Lookup := do
  requireText .documentId id
  requireText .index index
  pure l

/-- A call that is checked but for the name of its index. -/
def onIndex (index : String) (l : Lookup) : Checked Lookup := do
  requireText .index index
  pure l

/-- The checked call; `fresh` is the id of a document that comes without one. -/
def toLookup (s : SearchSettings) (index fresh : String) : IndexCall → Checked Lookup
  | search r => do
    requireText .index index
    r.check s.maxLimit
    pure (.search (r.body s.rawSuffix s.defaultLimit) r.facets)
  | save (some id) doc => onDocument index id (.put id doc)
  | save none doc => onIndex index (.put fresh doc)
  | update id patch => onDocument index id (.update id patch false)
  | upsert id doc => onDocument index id (.update id doc true)
  | get id => onDocument index id (.get id)
  | delete id => onDocument index id (.delete id)
  | saveMany docs => do
    if docs.isEmpty then throw .emptyBatch
    let pairs ← withOwnIds docs
    onIndex index (.putAll pairs)
  | getMany ids fields =>
    if ids.isEmpty then throw (.emptyList .documentIds) else onIndex index (.getMany ids fields)

end IndexCall

end Polystore
