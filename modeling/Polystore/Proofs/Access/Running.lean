import Polystore.Access.Basic

/-!
# Running calls

What a computation of a call comes to from a given state: its result and the state after it.  One
step follows another only if the first one succeeds, and what a failed step changed stays changed:

    x.run.run st = (.ok a, st') → (x >>= f).run.run st = (f a).run.run st'      (bind_run_of_ok)
    x.run.run st = (.error e, st') → (x >>= f).run.run st = (.error e, st')     (bind_run_of_error)
-/

namespace Polystore.Access

variable {σ α β : Type}

theorem pure_run (a : α) (st : AccessState σ) : (pure a : Act σ α).run.run st = (.ok a, st) := rfl

theorem get_run (st : AccessState σ) :
    (get : Act σ (AccessState σ)).run.run st = (.ok st, st) := rfl

theorem bind_run (x : Act σ α) (f : α → Act σ β) (st : AccessState σ) :
    (x >>= f).run.run st =
      match x.run.run st with
      | (.ok a, st') => (f a).run.run st'
      | (.error e, st') => (.error e, st') := by
  show (match x.run st with | (r, st') => (ExceptT.bindCont f r) st') = _
  show _ = match x.run st with
      | (.ok a, st') => (f a).run.run st'
      | (.error e, st') => (.error e, st')
  obtain ⟨r, st'⟩ := x.run st
  cases r with
  | ok a => rfl
  | error e => rfl

section
variable {x : Act σ α} {f : α → Act σ β} {st st' : AccessState σ}

theorem bind_run_of_ok {a : α} (h : x.run.run st = (.ok a, st')) :
    (x >>= f).run.run st = (f a).run.run st' := by
  rw [bind_run, h]

/-- After a step that failed there is no other one. -/
theorem bind_run_of_error {e : AccessFailure} (h : x.run.run st = (.error e, st')) :
    (x >>= f).run.run st = (.error e, st') := by
  rw [bind_run, h]

end

/-- A result that is there already changes nothing. -/
theorem lift_run (r : Except AccessFailure α) (st : AccessState σ) :
    (liftM r : Act σ α).run.run st = (r, st) := by
  cases r with
  | ok a => rfl
  | error e => rfl

/-- A native call always replies, and changes the backend alone. -/
theorem native_run (call : StateM σ α) (st : AccessState σ) :
    (native call).run.run st =
      (.ok (call st.backend).1, { st with backend := (call st.backend).2 }) := rfl

end Polystore.Access
