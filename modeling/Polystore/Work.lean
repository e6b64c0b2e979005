/-!
# Work on a state

Work is carried out on a state in place.  A refusal ends it, and what it wrote before that stays
written.  So every check has to come before the first write.
-/

namespace Polystore

/-- Work on a state: its result or the reason why it was refused, and the state that is left in
either case. -/
abbrev Work (ε σ α : Type) : Type := ExceptT ε (StateM σ) α

namespace Work

variable {ε σ α β : Type}

/-- Looks at the state, which may be a reason to refuse. -/
def check (f : σ → Except ε α) : Work ε σ α := ExceptT.mk fun s => (f s, s)

/-- Changes the state. -/
def write (f : σ → σ) : Work ε σ Unit := ExceptT.mk fun s => (.ok (), f s)

/-- What the work makes of a state; the state is dropped if it is refused. -/
def result (x : Work ε σ Unit) (s : σ) : Except ε σ :=
  match x.run s with
  | (.ok (), s') => .ok s'
  | (.error e, _) => .error e

/-! ## Lemmas -/

@[simp] theorem check_run (f : σ → Except ε α) (s : σ) : (check f).run s = (f s, s) := rfl

theorem bind_run (x : Work ε σ α) (f : α → Work ε σ β) (s : σ) :
    (x >>= f).run s =
      match x.run s with
      | (.ok a, s') => (f a).run s'
      | (.error e, s') => (.error e, s') := by
  have h : (x >>= f).run s = ExceptT.bindCont f (x.run s).1 (x.run s).2 := rfl
  rw [h]
  rcases x.run s with ⟨_ | _, s'⟩ <;> rfl

/-- After a check comes the rest, unless the check refuses. -/
theorem check_bind_run (g : σ → Except ε α) (f : α → Work ε σ β) (s : σ) :
    (check g >>= f).run s =
      match g s with
      | .ok a => (f a).run s
      | .error e => (.error e, s) := by
  rw [bind_run, check_run]
  cases g s <;> rfl

section
variable {g : σ → Except ε Unit} {f : σ → σ} {s : σ}

theorem check_write_run :
    (check g >>= fun _ => write f).run s =
      match g s with
      | .ok _ => (.ok (), f s)
      | .error e => (.error e, s) := by
  rw [check_bind_run]
  cases g s <;> rfl

/-- A write that comes after the check is not made if the check refuses. -/
theorem check_write_of_error {e : ε}
    (h : ((check g >>= fun _ => write f).run s).1 = .error e) :
    ((check g >>= fun _ => write f).run s).2 = s := by
  rw [check_write_run] at h ⊢
  cases hg : g s with
  | error e' => rfl
  | ok u =>
    rw [hg] at h
    cases h

end

end Work

end Polystore
