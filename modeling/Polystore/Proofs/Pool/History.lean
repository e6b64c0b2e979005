import Mathlib.Data.Finset.Card
import Polystore.Pool.Gate

/-!
# Histories of a pool

Whatever the order in which callers take their steps, the handles that a history opens are those in
the pool, in the order in which they were opened, and after them the one that is open and not kept
yet, if there is one.  No name occurs twice among them.

    c.run? es = some c' → c'.handles = c.handles ++ c.opens es                  (Sound.handles_run)

What carries the induction is `Sound`: only the caller inside is past the gate, nothing is in the
pool under a name whose handle is being opened, and the pool has every handle that was an answer.
What callers can rely on is read from it (`one_handle_each`).
-/

namespace Polystore

variable {η : Type}

/-! ## What holds between two steps -/

/-- Is a caller in this phase past the gate? -/
def Phase.isInside : Phase η → Bool
  | .entered | .connecting | .opened _ | .leaving _ => true
  | .asking | .waiting | .done _ => false

/-- The answer of a caller that has one. -/
def Phase.answer? : Phase η → Option (Except HandleFailure η)
  | .leaving answer | .done answer => some answer
  | _ => none

namespace Caller

/-- The handle that a caller has opened and not put into the pool, with its name. -/
def unkept? : Caller η → Option (String × η)
  | ⟨name, .opened h⟩ => some (name, h)
  | _ => none

/-- What the pool holds for a caller: nothing under its name while it opens a handle, and the handle
that is its answer. -/
def Fits (p : Pool η) : Caller η → Prop
  | ⟨name, .connecting⟩ | ⟨name, .opened _⟩ => Assoc.find? name p.handles = none
  | ⟨name, .leaving (.ok h)⟩ | ⟨name, .done (.ok h)⟩ => Assoc.find? name p.handles = some h
  | _ => True

theorem answer_of_fits {p : Pool η} {caller : Caller η} {h : η} (hf : caller.Fits p)
    (ha : caller.phase.answer? = some (.ok h)) : Assoc.find? caller.name p.handles = some h := by
  rcases caller with ⟨name, _ | _ | _ | _ | _ | answer | answer⟩
  all_goals simp only [Phase.answer?, reduceCtorEq, Option.some.injEq] at ha
  all_goals subst ha; exact hf

/-- A handle put under a new name changes nothing for a caller that is not inside. -/
theorem Fits.put {p : Pool η} {caller : Caller η} {name : String} {h : η}
    (hn : Assoc.find? name p.handles = none) (hout : caller.Fits p)
    (hc : caller.phase.isInside = false) : caller.Fits ⟨Assoc.put name h p.handles⟩ := by
  rcases caller with ⟨own, _ | _ | _ | _ | _ | answer | answer⟩
  all_goals simp only [Phase.isInside, Bool.true_eq_false] at hc
  · trivial
  · trivial
  · cases answer with
    | error e => trivial
    | ok h' =>
      have hf : Assoc.find? own p.handles = some h' := hout
      have hne : own ≠ name := by
        rintro rfl
        rw [hn] at hf
        cases hf
      show Assoc.find? own (Assoc.put name h p.handles) = some h'
      rw [Assoc.find?_put_of_ne hne, hf]

end Caller

namespace Crowd

variable {c c' : Crowd η}

/-- The handle that is open and not in the pool yet, with its name. -/
def unkept? (c : Crowd η) : Option (String × η) :=
  c.inside.bind fun i => c.callers[i]?.bind Caller.unkept?

/-- The open handles: those in the pool, and the one that is not in it yet. -/
def handles (c : Crowd η) : List (String × η) := c.pool.handles ++ c.unkept?.toList

/-- The handle that a step opens, with the name of the caller that opens it. -/
def opened? (c : Crowd η) : PoolEvent η → Option (String × η)
  | .connect i (.ok h) => c.callers[i]?.map fun caller => (caller.name, h)
  | _ => none

/-- The handles that a history opens, with their names. -/
def opens (c : Crowd η) : List (PoolEvent η) → List (String × η)
  | [] => []
  | e :: es =>
    match c.step? e with
    | some c' => (c.opened? e).toList ++ c'.opens es
    | none => []

/-- What holds of a crowd between two steps. -/
structure Sound (c : Crowd η) : Prop where
  /-- No name is in the pool twice. -/
  nodup : (Assoc.keys c.pool.handles).Nodup
  /-- The caller inside is the only one past the gate. -/
  gate : ∀ i : Nat, c.inside = some i ↔
    ∃ caller : Caller η, c.callers[i]? = some caller ∧ caller.phase.isInside = true
  /-- The pool has what each caller needs. -/
  fits : ∀ (i : Nat) (caller : Caller η), c.callers[i]? = some caller → caller.Fits c.pool

theorem sound_empty : (empty : Crowd η).Sound where
  nodup := List.nodup_nil
  gate i := by simp [empty]
  fits i caller h := by simp [empty] at h

theorem getElem?_turn (c : Crowd η) (i j : Nat) (phase : Phase η) :
    (c.turn i phase).callers[j]? =
      if i = j then c.callers[j]?.map fun caller => { caller with phase := phase }
      else c.callers[j]? := by
  unfold turn
  rw [List.getElem?_modify]
  split
  · rfl
  · exact Option.map_id'

section
variable {i : Nat} {name : String} {phase phase' : Phase η}

/-- A caller that comes to another phase leaves a sound crowd if the gate and the pool are as its
new phase and the other callers need them. -/
theorem Sound.turn {pool : Pool η} {inside : Option Nat} (hc : c.Sound)
    (hi : c.callers[i]? = some ⟨name, phase⟩) (hn : (Assoc.keys pool.handles).Nodup)
    (hin : inside = some i ↔ phase'.isInside = true)
    (hout : ∀ j, j ≠ i → (inside = some j ↔ c.inside = some j))
    (hf : Caller.Fits pool ⟨name, phase'⟩)
    (hother : ∀ (j : Nat) (caller : Caller η), j ≠ i → c.callers[j]? = some caller →
      caller.Fits pool) :
    Sound ⟨pool, inside, (c.turn i phase').callers⟩ where
  nodup := hn
  gate j := by
    by_cases hj : i = j
    · subst hj
      simp [getElem?_turn, hi, hin]
    · rw [hout j (Ne.symm hj), hc.gate j, getElem?_turn, if_neg hj]
  fits j caller h := by
    rw [getElem?_turn] at h
    split at h
    · next hj =>
      subst hj
      rw [hi] at h
      cases h
      exact hf
    · next hj => exact hother j caller (Ne.symm hj) h

/-- A step that neither passes the gate nor touches the pool. -/
theorem Sound.turn_same (hc : c.Sound) (hi : c.callers[i]? = some ⟨name, phase⟩)
    (hg : phase'.isInside = phase.isInside) (hf : Caller.Fits c.pool ⟨name, phase'⟩) :
    (c.turn i phase').Sound := by
  have hin : c.inside = some i ↔ phase'.isInside = true := by
    rw [hc.gate i, hi, hg]
    simp
  exact hc.turn hi hc.nodup hin (fun _ _ => Iff.rfl) hf fun j caller _ => hc.fits j caller

/-- A caller past the gate is the one inside. -/
theorem Sound.inside_eq (hc : c.Sound) (hi : c.callers[i]? = some ⟨name, phase⟩)
    (hp : phase.isInside = true) : c.inside = some i :=
  (hc.gate i).2 ⟨_, hi, hp⟩

/-- A caller that is not past the gate is not the one inside. -/
theorem Sound.inside_ne (hc : c.Sound) (hi : c.callers[i]? = some ⟨name, phase⟩)
    (hp : phase.isInside = false) : c.inside ≠ some i := by
  intro h
  obtain ⟨caller, hi', hp'⟩ := (hc.gate i).1 h
  rw [hi] at hi'
  cases hi'
  rw [hp] at hp'
  cases hp'

/-- The callers other than the one inside are not past the gate. -/
theorem Sound.outside (hc : c.Sound) {j : Nat} {caller : Caller η} (h : c.inside = some i)
    (hj : j ≠ i) (hcaller : c.callers[j]? = some caller) : caller.phase.isInside = false := by
  by_contra hp
  have hin : c.inside = some j := (hc.gate j).2 ⟨caller, hcaller, by simpa using hp⟩
  rw [h, Option.some.injEq] at hin
  exact hj hin.symm

end

/-! ## One step -/

/-- The steps that can be made, and what each of them makes of a crowd. -/
inductive Makes (c : Crowd η) : PoolEvent η → Crowd η → Prop where
  | arrive (name : String) :
    Makes c (.arrive name) { c with callers := c.callers ++ [⟨name, .asking⟩] }
  | find {i : Nat} {name : String} {h : η} (hi : c.callers[i]? = some ⟨name, .asking⟩)
      (hf : Assoc.find? name c.pool.handles = some h) :
    Makes c (.look i) (c.turn i (.done (.ok h)))
  | miss {i : Nat} {name : String} (hi : c.callers[i]? = some ⟨name, .asking⟩)
      (hf : Assoc.find? name c.pool.handles = none) :
    Makes c (.look i) (c.turn i .waiting)
  | enter {i : Nat} {name : String} (hi : c.callers[i]? = some ⟨name, .waiting⟩)
      (hin : c.inside = none) :
    Makes c (.enter i) { c.turn i .entered with inside := some i }
  | findAgain {i : Nat} {name : String} {h : η} (hi : c.callers[i]? = some ⟨name, .entered⟩)
      (hf : Assoc.find? name c.pool.handles = some h) :
    Makes c (.lookAgain i) (c.turn i (.leaving (.ok h)))
  | missAgain {i : Nat} {name : String} (hi : c.callers[i]? = some ⟨name, .entered⟩)
      (hf : Assoc.find? name c.pool.handles = none) :
    Makes c (.lookAgain i) (c.turn i .connecting)
  | connect {i : Nat} {name : String} (h : η) (hi : c.callers[i]? = some ⟨name, .connecting⟩) :
    Makes c (.connect i (.ok h)) (c.turn i (.opened h))
  | fail {i : Nat} {name : String} (e : HandleFailure)
      (hi : c.callers[i]? = some ⟨name, .connecting⟩) :
    Makes c (.connect i (.error e)) (c.turn i (.leaving (.error e)))
  | keep {i : Nat} {name : String} {h : η} (hi : c.callers[i]? = some ⟨name, .opened h⟩) :
    Makes c (.keep i)
      { c.turn i (.leaving (.ok h)) with pool := ⟨Assoc.put name h c.pool.handles⟩ }
  | leave {i : Nat} {name : String} {answer : Except HandleFailure η}
      (hi : c.callers[i]? = some ⟨name, .leaving answer⟩) :
    Makes c (.leave i) { c.turn i (.done answer) with inside := none }

theorem makes_of_step? {e : PoolEvent η} (h : c.step? e = some c') : c.Makes e c' := by
  cases e with
  | arrive name =>
    cases h
    exact .arrive name
  | look i =>
    simp only [step?] at h
    split at h
    · next name hi =>
      split at h
      · next h' hf => cases h; exact .find hi hf
      · next hf => cases h; exact .miss hi hf
    · cases h
  | enter i =>
    simp only [step?] at h
    split at h
    · next hi hin => cases h; exact .enter hi hin
    · cases h
  | lookAgain i =>
    simp only [step?] at h
    split at h
    · next name hi =>
      split at h
      · next h' hf => cases h; exact .findAgain hi hf
      · next hf => cases h; exact .missAgain hi hf
    · cases h
  | connect i result =>
    simp only [step?] at h
    split at h
    · next hi => cases h; exact .connect _ hi
    · next hi => cases h; exact .fail _ hi
    · cases h
  | keep i =>
    simp only [step?] at h
    split at h
    · next hi => cases h; exact .keep hi
    · cases h
  | leave i =>
    simp only [step?] at h
    split at h
    · next hi => cases h; exact .leave hi
    · cases h

/-- One step of any caller keeps a crowd sound. -/
theorem Sound.step {e : PoolEvent η} (hc : c.Sound) (h : c.step? e = some c') : c'.Sound := by
  cases makes_of_step? h with
  | arrive name =>
    refine ⟨hc.nodup, fun i => ?_, fun i caller h => ?_⟩
    · -- the new caller is outside, and the others keep their numbers
      rw [hc.gate i]
      dsimp only
      rw [List.getElem?_append]
      split
      · rfl
      · next hi =>
        rw [List.getElem?_eq_none (by omega), List.getElem?_singleton]
        split
        · simp [Phase.isInside]
        · simp
    · dsimp only at h
      rw [List.getElem?_append, List.getElem?_singleton] at h
      split at h
      · exact hc.fits i caller h
      · split at h
        · cases h; trivial
        · cases h
  | find hi hf => exact hc.turn_same hi rfl hf
  | miss hi hf => exact hc.turn_same hi rfl trivial
  | enter hi hin =>
    refine hc.turn hi hc.nodup (by simp [Phase.isInside]) (fun j hj => ?_) trivial
      fun j caller _ => hc.fits j caller
    rw [hin]
    simp [Ne.symm hj]
  | findAgain hi hf => exact hc.turn_same hi rfl hf
  | missAgain hi hf => exact hc.turn_same hi rfl hf
  | connect h hi =>
    have hf := hc.fits _ _ hi
    exact hc.turn_same hi rfl hf
  | fail e hi => exact hc.turn_same hi rfl trivial
  | keep hi =>
    have hin := hc.inside_eq hi rfl
    have hnone := hc.fits _ _ hi
    refine hc.turn hi (Assoc.nodup_keys_put _ _ hc.nodup) (iff_of_true hin rfl)
      (fun _ _ => Iff.rfl) (Assoc.find?_put_self _ _ _) fun j caller hj hcaller => ?_
    exact (hc.fits j caller hcaller).put hnone (hc.outside hin hj hcaller)
  | @leave i name answer hi =>
    have hin := hc.inside_eq hi rfl
    have hf : Caller.Fits c.pool ⟨name, .done answer⟩ := by
      have := hc.fits _ _ hi
      cases answer with
      | error e => trivial
      | ok h => exact this
    refine hc.turn hi hc.nodup (by simp [Phase.isInside]) (fun j hj => ?_) hf
      fun j caller _ => hc.fits j caller
    rw [hin]
    simp [Ne.symm hj]

theorem getElem?_turn_self {i : Nat} {name : String} {phase phase' : Phase η}
    (hi : c.callers[i]? = some ⟨name, phase⟩) :
    (c.turn i phase').callers[i]? = some ⟨name, phase'⟩ := by
  rw [getElem?_turn, if_pos rfl, hi, Option.map_some]

section
variable {pool : Pool η} {inside : Option Nat} {callers : List (Caller η)}

theorem handles_of_free (h : inside = none) :
    handles ⟨pool, inside, callers⟩ = pool.handles := by
  simp [handles, unkept?, h]

theorem handles_of_inside {i : Nat} {caller : Caller η} (hin : inside = some i)
    (hi : callers[i]? = some caller) :
    handles ⟨pool, inside, callers⟩ = pool.handles ++ caller.unkept?.toList := by
  simp [handles, unkept?, hin, hi]

end

/-- A caller outside has no part in the open handles. -/
theorem handles_turn_of_outside {i : Nat} {phase : Phase η} (h : c.inside ≠ some i) :
    (c.turn i phase).handles = c.handles := by
  have hu : (c.turn i phase).unkept? = c.unkept? := by
    show c.inside.bind _ = c.inside.bind _
    cases hin : c.inside with
    | none => rfl
    | some j =>
      have hj : i ≠ j := by
        rintro rfl
        exact h hin
      rw [Option.bind_some, Option.bind_some, getElem?_turn, if_neg hj]
  unfold handles
  rw [hu]
  rfl

/-- Nor has the caller inside, before it has opened its handle and after it has kept it. -/
theorem Sound.handles_turn {i : Nat} {name : String} {phase phase' : Phase η} (hc : c.Sound)
    (hi : c.callers[i]? = some ⟨name, phase⟩) (hp : phase.isInside = true)
    (hu : Caller.unkept? ⟨name, phase⟩ = none) (hu' : Caller.unkept? ⟨name, phase'⟩ = none) :
    (c.turn i phase').handles = c.handles := by
  have hin := hc.inside_eq hi hp
  calc (c.turn i phase').handles
      = c.pool.handles ++ (Caller.unkept? ⟨name, phase'⟩).toList :=
        handles_of_inside hin (getElem?_turn_self hi)
    _ = c.pool.handles ++ (Caller.unkept? ⟨name, phase⟩).toList := by rw [hu, hu']
    _ = c.handles := (handles_of_inside hin hi).symm

/-- The open handles after a step are those before it and the one that it opens. -/
theorem Sound.handles_step {e : PoolEvent η} (hc : c.Sound) (hstep : c.step? e = some c') :
    c'.handles = c.handles ++ (c.opened? e).toList := by
  cases makes_of_step? hstep with
  | arrive name =>
    refine Eq.trans ?_ (List.append_nil _).symm
    cases hin : c.inside with
    | none => exact (handles_of_free rfl).trans (handles_of_free hin).symm
    | some i =>
      obtain ⟨caller, hi, -⟩ := (hc.gate i).1 hin
      have hi' : (c.callers ++ [⟨name, .asking⟩])[i]? = some caller := by
        rw [List.getElem?_append_left (List.getElem?_eq_some_iff.1 hi).1, hi]
      exact (handles_of_inside rfl hi').trans (handles_of_inside hin hi).symm
  | find hi hf => simpa [opened?] using handles_turn_of_outside (hc.inside_ne hi rfl)
  | miss hi hf => simpa [opened?] using handles_turn_of_outside (hc.inside_ne hi rfl)
  | @enter i name hi hin =>
    calc handles ⟨c.pool, some i, (c.turn i .entered).callers⟩
        = c.pool.handles ++ [] := handles_of_inside rfl (getElem?_turn_self hi)
      _ = c.handles ++ [] := congrArg (· ++ []) (handles_of_free hin).symm
  | findAgain hi hf => simpa [opened?] using hc.handles_turn hi rfl rfl rfl
  | missAgain hi hf => simpa [opened?] using hc.handles_turn hi rfl rfl rfl
  | @connect i name h hi =>
    have hin := hc.inside_eq hi rfl
    have hbefore : c.handles = c.pool.handles ++ [] := handles_of_inside hin hi
    have hafter : (c.turn i (.opened h)).handles = c.pool.handles ++ [(name, h)] :=
      handles_of_inside hin (getElem?_turn_self hi)
    rw [hafter, hbefore, List.append_nil, opened?, hi]
    rfl
  | fail e hi => simpa [opened?] using hc.handles_turn hi rfl rfl rfl
  | @keep i name h hi =>
    have hin := hc.inside_eq hi rfl
    have hnew : name ∉ Assoc.keys c.pool.handles :=
      (Assoc.find?_eq_none_iff _ _).1 (hc.fits _ _ hi)
    calc handles ⟨⟨Assoc.put name h c.pool.handles⟩, c.inside,
          (c.turn i (.leaving (.ok h))).callers⟩
        = Assoc.put name h c.pool.handles ++ [] :=
          handles_of_inside hin (getElem?_turn_self hi)
      _ = c.pool.handles ++ [(name, h)] ++ [] := by rw [Assoc.put_of_not_mem h hnew]
      _ = c.handles ++ [] := congrArg (· ++ []) (handles_of_inside hin hi).symm
  | @leave i name answer hi =>
    have hin := hc.inside_eq hi rfl
    have hbefore : c.handles = c.pool.handles ++ [] := handles_of_inside hin hi
    calc handles ⟨c.pool, none, (c.turn i (.done answer)).callers⟩
        = c.pool.handles := handles_of_free rfl
      _ = c.handles ++ [] := by rw [hbefore, List.append_nil, List.append_nil]

/-! ## A whole history -/

theorem run?_cons_eq_some {e : PoolEvent η} {es : List (PoolEvent η)} :
    c.run? (e :: es) = some c' ↔ ∃ mid, c.step? e = some mid ∧ mid.run? es = some c' := by
  simp only [run?]
  cases c.step? e with
  | none => simp
  | some mid => simp

theorem Sound.run {es : List (PoolEvent η)} (hc : c.Sound) (h : c.run? es = some c') :
    c'.Sound := by
  induction es generalizing c with
  | nil =>
    cases h
    exact hc
  | cons e es ih =>
    obtain ⟨mid, he, h⟩ := run?_cons_eq_some.1 h
    exact ih (hc.step he) h

/-- The open handles after a history are those before it and those that it opens, in order. -/
theorem Sound.handles_run {es : List (PoolEvent η)} (hc : c.Sound) (h : c.run? es = some c') :
    c'.handles = c.handles ++ c.opens es := by
  induction es generalizing c with
  | nil =>
    cases h
    exact (List.append_nil _).symm
  | cons e es ih =>
    obtain ⟨mid, he, h⟩ := run?_cons_eq_some.1 h
    rw [ih (hc.step he) h, hc.handles_step he, List.append_assoc]
    simp only [opens, he]

/-- No name has two open handles. -/
theorem Sound.nodup_handles (hc : c.Sound) : (Assoc.keys c.handles).Nodup := by
  cases hu : c.unkept? with
  | none => simpa [handles, hu] using hc.nodup
  | some p =>
    obtain ⟨i, -, hp⟩ := Option.bind_eq_some_iff.1 hu
    obtain ⟨⟨name, phase⟩, hi, hp⟩ := Option.bind_eq_some_iff.1 hp
    have hf := hc.fits i _ hi
    cases phase with
    | opened h =>
      cases hp
      have hnew : name ∉ Assoc.keys c.pool.handles := (Assoc.find?_eq_none_iff _ _).1 hf
      have := Assoc.nodup_keys_put name h hc.nodup
      rw [Assoc.put_of_not_mem h hnew] at this
      simpa [handles, hu] using this
    | _ => cases hp

/-- Every handle is in the pool if no caller has yet to keep its own. -/
theorem handles_of_kept (h : ∀ name handle, ⟨name, .opened handle⟩ ∉ c.callers) :
    c.handles = c.pool.handles := by
  have hu : c.unkept? = none := by
    cases hu : c.unkept? with
    | none => rfl
    | some p =>
      obtain ⟨i, -, hp⟩ := Option.bind_eq_some_iff.1 hu
      obtain ⟨⟨name, phase⟩, hi, hp⟩ := Option.bind_eq_some_iff.1 hp
      cases phase with
      | opened handle => exact absurd (List.mem_of_getElem? hi) (h name handle)
      | _ => cases hp
  rw [handles, hu]
  exact List.append_nil _

/-- A handle stays in the pool. -/
theorem Sound.find?_step {e : PoolEvent η} {name : String} {handle : η} (hc : c.Sound)
    (hstep : c.step? e = some c') (hf : Assoc.find? name c.pool.handles = some handle) :
    Assoc.find? name c'.pool.handles = some handle := by
  cases makes_of_step? hstep with
  | @keep i name' h hi =>
    have hnone : Assoc.find? name' c.pool.handles = none := hc.fits _ _ hi
    have hne : name ≠ name' := by
      rintro rfl
      rw [hnone] at hf
      cases hf
    exact (Assoc.find?_put_of_ne hne _ _).trans hf
  | _ => exact hf

theorem Sound.find?_run {es : List (PoolEvent η)} {name : String} {handle : η} (hc : c.Sound)
    (h : c.run? es = some c') (hf : Assoc.find? name c.pool.handles = some handle) :
    Assoc.find? name c'.pool.handles = some handle := by
  induction es generalizing c with
  | nil =>
    cases h
    exact hf
  | cons e es ih =>
    obtain ⟨mid, he, h⟩ := run?_cons_eq_some.1 h
    exact ih (hc.step he) h (hc.find?_step he hf)

/-! ## One handle for each name -/

/-- The steps of a new caller, with the number `i`, that gets as far as opening its handle. -/
def attempt (i : Nat) (name : String) (result : Except HandleFailure η) : List (PoolEvent η) :=
  [.arrive name, .look i, .enter i, .lookAgain i, .connect i result]

theorem modify_last {α : Type} (l : List α) (x : α) (f : α → α) :
    (l ++ [x]).modify l.length f = l ++ [f x] := by
  induction l with
  | nil => rfl
  | cons y l ih => simpa using ih

/-- As long as a name has no handle, a new caller can come to open one when the gate is free. -/
theorem run?_attempt {name : String} (hin : c.inside = none)
    (hf : Assoc.find? name c.pool.handles = none) (result : Except HandleFailure η) :
    ∃ phase, c.run? (attempt c.callers.length name result) =
      some ⟨c.pool, some c.callers.length, c.callers ++ [⟨name, phase⟩]⟩ := by
  cases result with
  | error e =>
    exact ⟨.leaving (.error e), by simp [attempt, run?, step?, turn, modify_last, hin, hf]⟩
  | ok h => exact ⟨.opened h, by simp [attempt, run?, step?, turn, modify_last, hin, hf]⟩

/-- Whatever the order of the callers' steps, a name has one handle.  At most one opening of a name
succeeds, and its handle is what every caller for the name gets that gets one.  The pool keeps it
for good.  A failed opening leaves the pool as it is, its caller leaves the gate free, and then any
caller can try again.  The pool holds the handles that were opened, in order, without the one that
is not kept yet: as many as there are names with a successful opening, when there is no such one. -/
theorem one_handle_each {es : List (PoolEvent η)} (h : empty.run? es = some c) :
    (Assoc.keys (empty.opens es)).Nodup ∧
    (∀ caller ∈ c.callers, ∀ handle, caller.phase.answer? = some (.ok handle) →
      Assoc.find? caller.name c.pool.handles = some handle ∧
      (caller.name, handle) ∈ empty.opens es) ∧
    (∀ es' c' name handle, c.run? es' = some c' →
      Assoc.find? name c.pool.handles = some handle →
      Assoc.find? name c'.pool.handles = some handle) ∧
    ((∀ i e c', c.step? (.connect i (.error e)) = some c' →
        c'.pool = c.pool ∧ ∃ name, c'.callers[i]? = some ⟨name, .leaving (.error e)⟩) ∧
      (∀ i name answer, c.callers[i]? = some ⟨name, .leaving answer⟩ →
        ∃ c', c.step? (.leave i) = some c' ∧ c'.pool = c.pool ∧ c'.inside = none) ∧
      (∀ name result, c.inside = none → Assoc.find? name c.pool.handles = none →
        ∃ c', c.run? (attempt c.callers.length name result) = some c')) ∧
    c.pool.handles ++ c.unkept?.toList = empty.opens es ∧
    ((∀ name handle, ⟨name, .opened handle⟩ ∉ c.callers) →
      c.pool.size = (Assoc.keys (empty.opens es)).toFinset.card) := by
  have hc : c.Sound := sound_empty.run h
  have hopens : c.handles = empty.opens es := sound_empty.handles_run h
  have hnodup : (Assoc.keys (empty.opens es)).Nodup := by
    rw [← hopens]
    exact hc.nodup_handles
  refine ⟨hnodup, ?_, fun es' c' name handle hrun hf => hc.find?_run hrun hf,
    ⟨?_, ?_, ?_⟩, hopens, ?_⟩
  · intro caller hm handle ha
    obtain ⟨i, hi⟩ := List.getElem?_of_mem hm
    have hf := Caller.answer_of_fits (hc.fits i caller hi) ha
    refine ⟨hf, ?_⟩
    rw [← hopens]
    exact List.mem_append_left _ (Assoc.mem_of_find?_eq_some hf)
  · intro i e c' hstep
    cases makes_of_step? hstep with
    | fail e hi => exact ⟨rfl, _, getElem?_turn_self hi⟩
  · intro i name answer hi
    refine ⟨{ c.turn i (.done answer) with inside := none }, ?_, rfl, rfl⟩
    simp only [step?, hi]
  · intro name result hin hf
    obtain ⟨phase, hrun⟩ := run?_attempt hin hf result
    exact ⟨_, hrun⟩
  · intro hkept
    rw [List.toFinset_card_of_nodup hnodup, ← hopens, handles_of_kept hkept, Pool.size, Assoc.keys,
      List.length_map]

/-- Three callers for one name and one for another; the first to be let in fails. -/
def fourCallers : List (PoolEvent Nat) :=
  [.arrive "shop", .arrive "shop", .look 0, .look 1, .enter 1, .lookAgain 1, .arrive "depot",
    .look 2, .connect 1 (.error (.unavailable "store" "starting")), .leave 1, .enter 0,
    .lookAgain 0, .arrive "shop", .look 3, .connect 0 (.ok 7), .keep 0, .leave 0, .enter 2,
    .lookAgain 2, .connect 2 (.ok 8), .keep 2, .leave 2, .enter 3, .lookAgain 3]

/-- What comes of them. -/
def afterFourCallers : Crowd Nat :=
  ⟨⟨[("shop", 7), ("depot", 8)]⟩, some 3,
    [⟨"shop", .done (.ok 7)⟩, ⟨"shop", .done (.error (.unavailable "store" "starting"))⟩,
      ⟨"depot", .done (.ok 8)⟩, ⟨"shop", .leaving (.ok 7)⟩]⟩

theorem one_handle_fourCallers :
    empty.run? fourCallers = some afterFourCallers ∧
      ("shop", 7) ∈ empty.opens fourCallers ∧
      afterFourCallers.pool.size = (Assoc.keys (empty.opens fourCallers)).toFinset.card := by
  have hrun : empty.run? fourCallers = some afterFourCallers := rfl
  obtain ⟨-, hanswer, -, -, -, hsize⟩ := one_handle_each hrun
  have hmem : ⟨"shop", .leaving (.ok 7)⟩ ∈ afterFourCallers.callers := by simp [afterFourCallers]
  exact ⟨hrun, (hanswer _ hmem 7 rfl).2, hsize (by simp [afterFourCallers])⟩

end Crowd

end Polystore
