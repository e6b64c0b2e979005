import Polystore.Backend.Basic

/-!
# The scripted backend

A backend that stores nothing: every native call is noted and answered with the next outcome of a
script, so that callers can be tried against any behaviour of a backend.  A call beyond the end of
the script succeeds with nothing.
-/

namespace Polystore

/-- How the handle of a name fails to open. -/
inductive Breakage where
  | unavailable
  | connection
  | internal
  deriving DecidableEq, Repr

/-- The failure that a breakage leads to. -/
def Breakage.failure (name : String) : Breakage → HandleFailure
  | unavailable => .unavailable "scripted" "no contact points"
  | connection => .connectionFailed "scripted" name "no contact points"
  | internal => .internal "scripted" "no contact points"

/-- The names whose handles fail to open. -/
abbrev Breakages := List (String × Breakage)

/-- Opens the handle of a name, unless it is broken. -/
def Breakages.openHandle {η : Type} (bs : List (String × Breakage)) (name : String) (h : η) :
    Except HandleFailure η :=
  match Assoc.find? name bs with
  | some b => .error (b.failure name)
  | none => .ok h

/-- A native call that was noted. -/
inductive NativeCall where
  | openStore (name : String)
  | openIndex (name : String)
  | execute (st : Statement)
  | executeBatch (sts : List Statement)
  | search (index : String) (body : Json)
  | put (index id : String) (doc : Record)
  | get (index id : String)
  | update (index id : String) (patch : Record) (upsert : Bool)
  | delete (index id : String)
  | putAll (index : String) (docs : List (String × Record))
  | getMany (index : String) (ids fields : List String)
  | health

/-- The outcomes that are left, the names that are broken, and the calls so far, the last one
first. -/
structure Scripted where
  outcomes : List (Reply Json)
  broken : Breakages
  calls : List NativeCall

namespace Scripted

/-- Notes a call. -/
def note (c : NativeCall) (s : Scripted) : Scripted := { s with calls := c :: s.calls }

/-- The rows of a scripted value. -/
def rowsOf (v : Json) : RowSet where
  columns := (((v.get? "columns").bind Json.arr?).getD []).filterMap Json.str?
  rows := (((v.get? "rows").bind Json.arr?).getD []).filterMap Json.obj?

/-- Notes a call and takes the next outcome. -/
def answer {α : Type} (c : NativeCall) (read : Json → α) : StateM Scripted (Reply α) := fun s =>
  match s.outcomes with
  | [] => (.now (.ok (read .null)), s.note c)
  | r :: rest => (r.map read, { s with outcomes := rest }.note c)

/-- Notes that a handle is opened. -/
def opened (c : NativeCall) (name : String) : StateM Scripted (Except HandleFailure Unit) :=
  fun s => (Breakages.openHandle s.broken name (), s.note c)

/-- Is the value the truth value true? -/
def isTrue (v : Json) : Bool := v.bool? == some true

/-- The native calls. -/
def backend : Backend Scripted where
  openStore name := opened (.openStore name) name
  openIndex name := opened (.openIndex name) name
  execute st := answer (.execute st) rowsOf
  executeBatch sts := answer (.executeBatch sts) fun _ => ()
  search index body := answer (.search index body) id
  put index id doc := answer (.put index id doc) fun _ => ()
  get index id := answer (.get index id) Json.obj?
  update index id patch upsert := answer (.update index id patch upsert) isTrue
  delete index id := answer (.delete index id) isTrue
  putAll index docs := answer (.putAll index docs) fun _ => ()
  getMany index ids fields := answer (.getMany index ids fields) id
  health := answer .health isTrue

end Scripted

end Polystore
