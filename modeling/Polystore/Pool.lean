import Polystore.Assoc
import Polystore.Failure
import Polystore.Sorting
import Polystore.Text.Message

/-!
# Pools of handles

One handle for each keyspace or index.  A handle is opened when its name is first asked for, and
is kept from then on; a name that could not be opened is tried again the next time.

Main statement: a handle that was had once is had again, and nothing is opened for it
(`get_of_get_eq_ok`).
-/

namespace Polystore

/-- The open handles by name. -/
structure Pool (η : Type) where
  handles : List (String × η)

namespace Pool

variable {η σ : Type}

/-- No handle is open. -/
def empty : Pool η := ⟨[]⟩

/-- The number of open handles. -/
def size (p : Pool η) : Nat := p.handles.length

/-- Is no handle open? -/
def isEmpty (p : Pool η) : Bool := p.handles.isEmpty

/-- The handle of a name, opened if there is none yet. -/
def get (p : Pool η) (connect : String → σ → Except HandleFailure η × σ) (name : String) (s : σ) :
    Except HandleFailure η × σ × Pool η :=
  match Assoc.find? name p.handles with
  | some h => (.ok h, s, p)
  | none =>
    match connect name s with
    | (.ok h, s') => (.ok h, s', ⟨Assoc.put name h p.handles⟩)
    | (.error e, s') => (.error e, s', p)

/-- The names of the open handles, in order. -/
def names (p : Pool η) : List String := sortBy (fun a b => compare a b) (Assoc.keys p.handles)

/-- The pool in one line: the quoted names of its handles. -/
def text (p : Pool η) : String :=
  "HandlePool \x7b namespaces: [" ++ ", ".intercalate (p.names.map Text.quoted) ++ "] \x7d"

/-- A handle that was had once is had again, without opening anything. -/
theorem get_of_get_eq_ok {p p' : Pool η} {connect : String → σ → Except HandleFailure η × σ}
    {name : String} {s s' : σ} {h : η} (hg : p.get connect name s = (.ok h, s', p')) (t : σ) :
    p'.get connect name t = (.ok h, t, p') := by
  unfold get at hg
  split at hg
  · rename_i h' hf
    simp only [Prod.mk.injEq, Except.ok.injEq] at hg
    obtain ⟨rfl, _, rfl⟩ := hg
    simp [get, hf]
  · split at hg
    · simp only [Prod.mk.injEq, Except.ok.injEq] at hg
      obtain ⟨rfl, _, rfl⟩ := hg
      simp [get, Assoc.find?_put_self]
    · simp at hg

end Pool

end Polystore
