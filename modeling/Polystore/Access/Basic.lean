import Polystore.Access.IndexCall
import Polystore.Access.TableCall
import Polystore.Backend.Basic
import Polystore.Column.Compile
import Polystore.Pool
import Polystore.Response.Hits
import Polystore.Response.Rows

/-!
# Uniform access

One way to read and write records in a column store and to search and maintain documents in an
index.  A call goes through three steps: its arguments are checked and compiled; a handle is taken
from the pool; the native call runs, and its result is turned into an answer, its failure into one
of a few kinds.  The first step neither sees nor changes any state:

    prepare  : Request → Checked Task          before any native call
    perform  : Task → Act σ Answer             after all checks
-/

namespace Polystore

/-- Settings that were found to be good, the layouts they declare, and what calls run on. -/
structure Access (σ : Type) where
  settings : Settings
  registry : Registry
  backend : Backend σ

/-- What calls change: the backend, the open handles, and how many ids were given out. -/
structure AccessState (σ : Type) where
  backend : σ
  stores : Pool Unit
  indices : Pool Unit
  issued : Nat

/-- A computation that changes the state and may fail; what it changed stays changed. -/
abbrev Act (σ α : Type) := ExceptT AccessFailure (StateM (AccessState σ)) α

/-- What a caller asks for. -/
inductive Request where
  | table (name : TableName) (call : TableCall)
  | index (name : String) (call : IndexCall)
  | health

/-- What a caller gets. -/
inductive Answer where
  | response (r : Response)
  | flag (b : Bool)
  | id (value : String)
  | document (doc : Record)
  | documents (docs : Record)
  | done

/-- A checked request. -/
inductive Task where
  | table (context : CallContext) (plan : Plan)
  | index (context : CallContext) (lookup : Lookup)
  | health

namespace AccessState

variable {σ : Type}

/-- No handle is open and no id was given out. -/
def fresh (s : σ) : AccessState σ := ⟨s, .empty, .empty, 0⟩

end AccessState

namespace Access

variable {σ : Type}

/-- Access with these settings, which must not have problems. -/
def make (backend : Backend σ) (settings : Settings) : Checked (Access σ) := do
  settings.check
  let registry ← settings.store.registry
  pure ⟨settings, registry, backend⟩

/-! ## Checking -/

/-- The checked request; `fresh` is the id of a document that comes without one. -/
def prepare (a : Access σ) (fresh : String) : Request → Checked Task
  | .table name call => do
    let operation ← call.toOperation (a.registry.get name)
    let plan ← compile name operation
    pure (.table ⟨call.name, name.keyspace, name.table⟩ plan)
  | .index name call => do
    let lookup ← call.toLookup a.settings.search name fresh
    pure (.index ⟨call.name, name, name⟩ lookup)
  | .health => pure .health

/-! ## Performing -/

/-- A native call. -/
def native {α : Type} (call : StateM σ α) : Act σ α :=
  ExceptT.mk fun s =>
    let (reply, b) := call s.backend
    (.ok reply, { s with backend := b })

/-- Takes the handle of a keyspace. -/
def openStore (a : Access σ) (name : String) : Act σ Unit :=
  ExceptT.mk fun s =>
    let (result, b, pool) := s.stores.get a.backend.openStore name s.backend
    (result.mapError .handle, { s with backend := b, stores := pool })

/-- Takes the handle of an index. -/
def openIndex (a : Access σ) (name : String) : Act σ Unit :=
  ExceptT.mk fun s =>
    let (result, b, pool) := s.indices.get a.backend.openIndex name s.backend
    (result.mapError .handle, { s with backend := b, indices := pool })

/-- The result of a reply, whose failure is classified. -/
def settle {α : Type} (context : CallContext) (r : Reply α) : Except AccessFailure α :=
  r.result.mapError (Breakdown.told context r.delayMs)

/-- The result of a reply that has to come in time. -/
def settleWithin {α : Type} (limitMs : Nat) (context : CallContext) (r : Reply α) :
    Except AccessFailure α :=
  if limitMs < r.delayMs then .error (timedOut context limitMs) else settle context r

/-- Executes a plan; a batch returns no rows. -/
def execute (a : Access σ) : Plan → Act σ (Reply RowSet)
  | .single st => native (a.backend.execute st)
  | .batch sts => return (← native (a.backend.executeBatch sts)).map fun _ => .none

/-- Performs a checked call on a table.  Only reads return rows. -/
def performTable (a : Access σ) (context : CallContext) (plan : Plan) : Act σ Response := do
  a.openStore context.space
  let reply ← a.execute plan
  let rows ← settleWithin a.settings.store.requestTimeoutMs context reply
  pure
    (if plan.statements.any Statement.isRead then .ofRows a.settings.store.columnMapping rows
    else .empty)

/-- Performs a checked call on an index.  Only searches have to answer in time. -/
def performLookup (a : Access σ) (context : CallContext) (index : String) : Lookup → Act σ Answer
  | .search body facets => do
    let reply ← native (a.backend.search index body)
    let body ← settleWithin a.settings.search.searchTimeoutMs context reply
    pure (.response (.ofHits body facets))
  | .put id doc => do
    settle context (← native (a.backend.put index id doc))
    pure (.id id)
  | .update id patch upsert => do
    return .flag (← settle context (← native (a.backend.update index id patch upsert)))
  | .get id => do
    return .document ((← settle context (← native (a.backend.get index id))).getD [])
  | .delete id => do
    return .flag (← settle context (← native (a.backend.delete index id)))
  | .putAll docs => do
    settle context (← native (a.backend.putAll index docs))
    pure .done
  | .getMany ids fields => do
    let body ← settle context (← native (a.backend.getMany index ids fields))
    pure (.documents (foundDocuments body))

/-- The name of the handle for questions about the index as a whole. -/
def wholeIndex : String := "_cluster"

/-- Performs a checked request.  An index that cannot tell its health has none. -/
def perform (a : Access σ) : Task → Act σ Answer
  | .table context plan => return .response (← a.performTable context plan)
  | .index context lookup => do
    a.openIndex context.space
    a.performLookup context context.space lookup
  | .health => do
    a.openIndex wholeIndex
    let reply ← native a.backend.health
    match reply.result with
    | .ok b => pure (.flag b)
    | .error (.failure _) => pure (.flag false)
    | .error (.panic p) => throw (.panicked p)

/-! ## Calls -/

/-- Gives out a fresh id, if the request needs one. -/
def issueFor (request : Request) : Act σ Unit :=
  match request with
  | .index _ call =>
    if call.needsId then modify fun s => { s with issued := s.issued + 1 } else pure ()
  | _ => pure ()

/-- The answer as the caller wants it: a delete by ids tells only that it was applied. -/
def shape : Request → Answer → Answer
  | .table _ (.deleteByIds _), _ => .flag true
  | _, answer => answer

/-- Answers a request. -/
def run (a : Access σ) (request : Request) : Act σ Answer := do
  let s ← get
  match a.prepare (freshId s.issued) request with
  | .error r => throw (.refused r)
  | .ok task =>
    issueFor request
    return shape request (← a.perform task)

end Access

end Polystore
