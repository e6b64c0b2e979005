import Polystore.Column.Statement
import Polystore.Failure
import Polystore.Table.Basic

/-!
# Backends

What calls run on: a column store and an index, each reached through a handle that is opened for a
keyspace or an index.  A backend is given by its native calls, which change a state of its own.
-/

namespace Polystore

/-- What a native call comes to, and how long that takes. -/
structure Reply (α : Type) where
  result : Except Breakdown α
  delayMs : Nat

namespace Reply

/-- A reply without delay. -/
def now {α : Type} (result : Except Breakdown α) : Reply α := ⟨result, 0⟩

/-- The reply with another result. -/
def map {α β : Type} (f : α → β) (r : Reply α) : Reply β := ⟨r.result.map f, r.delayMs⟩

end Reply

/-- The native calls of a column store and an index over a common state. -/
structure Backend (σ : Type) where
  /-- Opens a handle to the column store for a keyspace. -/
  openStore : String → StateM σ (Except HandleFailure Unit)
  /-- Opens a handle to the index with a name. -/
  openIndex : String → StateM σ (Except HandleFailure Unit)
  execute : Statement → StateM σ (Reply RowSet)
  executeBatch : List Statement → StateM σ (Reply Unit)
  /-- Answers a search body. -/
  search : (index : String) → (body : Json) → StateM σ (Reply Json)
  /-- Stores a document. -/
  put : (index id : String) → Record → StateM σ (Reply Unit)
  /-- Reads a document. -/
  get : (index id : String) → StateM σ (Reply (Option Record))
  /-- Merges a patch into a document, which may be created. -/
  update : (index id : String) → Record → (upsert : Bool) → StateM σ (Reply Bool)
  delete : (index id : String) → StateM σ (Reply Bool)
  /-- Stores several documents. -/
  putAll : (index : String) → List (String × Record) → StateM σ (Reply Unit)
  /-- Reads several documents. -/
  getMany : (index : String) → (ids fields : List String) → StateM σ (Reply Json)
  /-- Is the index in good health? -/
  health : StateM σ (Reply Bool)

end Polystore
