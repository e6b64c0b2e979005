import Polystore.Pool

/-!
# Callers of one pool at the same time

Several callers may ask a pool at once.  Each looks for its handle first; one that finds none
waits at a gate that lets one caller in at a time, looks again behind it, and only then opens the
handle.  A `Crowd` is the pool with its callers between two steps, and `Crowd.step?` is one step of
one caller; any list of steps that `Crowd.run?` accepts is a possible history.

Main statement: a caller that nobody disturbs gets what `Pool.get` answers, and leaves the same
pool behind (`Crowd.run?_undisturbed`).
-/

namespace Polystore

/-! ## Steps -/

/-- How far a caller of a pool has come. -/
inductive Phase (η : Type) where
  /-- It has not looked yet. -/
  | asking
  /-- It found nothing, and waits to be let in. -/
  | waiting
  /-- It is let in, and has to look again. -/
  | entered
  /-- It found nothing a second time, and opens the handle. -/
  | connecting
  /-- Its handle is open, but the pool does not have it yet. -/
  | opened (h : η)
  /-- It has its answer, and is still inside. -/
  | leaving (answer : Except HandleFailure η)
  /-- It has its answer, and is not inside. -/
  | done (answer : Except HandleFailure η)

/-- One call for the handle of a name. -/
structure Caller (η : Type) where
  name : String
  phase : Phase η

/-- One step: of a new caller, or of the caller with a number. -/
inductive PoolEvent (η : Type) where
  | arrive (name : String)
  | look (i : Nat)
  | enter (i : Nat)
  | lookAgain (i : Nat)
  | connect (i : Nat) (result : Except HandleFailure η)
  | keep (i : Nat)
  | leave (i : Nat)

/-- A pool, the number of the caller behind the gate, and the callers by number. -/
structure Crowd (η : Type) where
  pool : Pool η
  inside : Option Nat
  callers : List (Caller η)

namespace Crowd

variable {η σ : Type}

/-- No caller has come, and no handle is open. -/
def empty : Crowd η := ⟨.empty, none, []⟩

/-- One caller comes to another phase. -/
def turn (c : Crowd η) (i : Nat) (phase : Phase η) : Crowd η :=
  { c with callers := c.callers.modify i fun caller => { caller with phase := phase } }

/-- The crowd after a step, if the caller named by it has come so far and the gate allows it. -/
def step? (c : Crowd η) : PoolEvent η → Option (Crowd η)
  | .arrive name => some { c with callers := c.callers ++ [⟨name, .asking⟩] }
  | .look i =>
    match c.callers[i]? with
    | some ⟨name, .asking⟩ =>
      match Assoc.find? name c.pool.handles with
      | some h => some (c.turn i (.done (.ok h)))
      | none => some (c.turn i .waiting)
    | _ => none
  | .enter i =>
    match c.callers[i]?, c.inside with
    | some ⟨_, .waiting⟩, none => some { c.turn i .entered with inside := some i }
    | _, _ => none
  | .lookAgain i =>
    match c.callers[i]? with
    | some ⟨name, .entered⟩ =>
      match Assoc.find? name c.pool.handles with
      | some h => some (c.turn i (.leaving (.ok h)))
      | none => some (c.turn i .connecting)
    | _ => none
  | .connect i result =>
    match c.callers[i]?, result with
    | some ⟨_, .connecting⟩, .ok h => some (c.turn i (.opened h))
    | some ⟨_, .connecting⟩, .error e => some (c.turn i (.leaving (.error e)))
    | _, _ => none
  | .keep i =>
    match c.callers[i]? with
    | some ⟨name, .opened h⟩ =>
      some { c.turn i (.leaving (.ok h)) with pool := ⟨Assoc.put name h c.pool.handles⟩ }
    | _ => none
  | .leave i =>
    match c.callers[i]? with
    | some ⟨_, .leaving answer⟩ => some { c.turn i (.done answer) with inside := none }
    | _ => none

/-- The crowd after a history, if each of its steps can be made. -/
def run? (c : Crowd η) : List (PoolEvent η) → Option (Crowd η)
  | [] => some c
  | e :: es =>
    match c.step? e with
    | some c' => c'.run? es
    | none => none

/-! ## One caller alone -/

/-- The steps of the first caller of a pool from its look to its answer, for what opening the
handle comes to. -/
def undisturbed (p : Pool η) (name : String) (result : Except HandleFailure η) :
    List (PoolEvent η) :=
  match Assoc.find? name p.handles, result with
  | some _, _ => [.look 0]
  | none, .ok _ => [.look 0, .enter 0, .lookAgain 0, .connect 0 result, .keep 0, .leave 0]
  | none, .error _ => [.look 0, .enter 0, .lookAgain 0, .connect 0 result, .leave 0]

/-- A caller that nobody disturbs gets what the pool answers, and leaves the same pool behind. -/
theorem run?_undisturbed (p : Pool η) (connect : String → σ → Except HandleFailure η × σ)
    (name : String) (s : σ) :
    Crowd.run? ⟨p, none, [⟨name, .asking⟩]⟩ (undisturbed p name (connect name s).1) =
      some ⟨(p.get connect name s).2.2, none, [⟨name, .done (p.get connect name s).1⟩]⟩ := by
  unfold undisturbed Pool.get
  cases hf : Assoc.find? name p.handles with
  | some h => simp [run?, step?, turn, hf]
  | none =>
    rcases hc : connect name s with ⟨_ | h, s'⟩
    · simp [run?, step?, turn, hf]
    · simp [run?, step?, turn, hf]

end Crowd

end Polystore
