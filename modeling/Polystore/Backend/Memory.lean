import Polystore.Backend.Basic
import Polystore.Search.Index
import Polystore.Table.Store

/-!
# The backend in memory

A column store and an index that live in memory.  Handles can always be opened, and every call
answers at once.  Time is part of the state and stands still during a call.
-/

namespace Polystore

/-- A column store, an index and the time on the clock of the store. -/
structure Memory where
  store : Store
  index : SearchIndex
  now : Nat

namespace Memory

/-- Neither rows nor documents, at time zero. -/
def empty (registry : Registry) (clock : Clock) (suffix : String) : Memory :=
  ⟨.empty registry clock, .empty suffix, 0⟩

/-- The memory at a later time. -/
def advance (m : Memory) (nanos : Nat) : Memory := { m with now := m.now + nanos }

/-- The result of a call on the store. -/
def ofStore {α : Type} (f : Store → Nat → Except StoreFault α × Store) : StateM Memory (Reply α) :=
  fun m =>
    let (result, store) := f m.store m.now
    (.now (result.mapError fun f => .failure f.failure), { m with store })

/-- The result of a call on the index that cannot fail. -/
def ofIndex {α : Type} (f : SearchIndex → α × SearchIndex) : StateM Memory (Reply α) :=
  fun m =>
    let (result, index) := f m.index
    (.now (.ok result), { m with index })

/-- The native calls. -/
def backend : Backend Memory where
  openStore _ := pure (.ok ())
  openIndex _ := pure (.ok ())
  execute st := ofStore fun s now => s.execute st now
  executeBatch sts := ofStore fun s now => s.executeBatch sts now
  search index body := fun m =>
    (.now ((m.index.search index body).mapError SearchFault.breakdown), m)
  put index id doc := ofIndex fun s => ((), s.put index id doc)
  get index id := ofIndex fun s => (s.get? index id, s)
  update index id patch upsert := ofIndex fun s => s.update index id patch upsert
  delete index id := ofIndex fun s => s.delete index id
  putAll index docs := ofIndex fun s => ((), s.putAll index docs)
  getMany index ids fields := ofIndex fun s => (s.getMany index ids fields, s)
  health := ofIndex fun s => (true, s)

end Memory

end Polystore
