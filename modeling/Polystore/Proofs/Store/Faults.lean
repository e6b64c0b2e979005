import Polystore.Proofs.Store.Batch
import Polystore.Proofs.Store.Selection
import Polystore.Proofs.Table.Faults

/-!
# Faults of plans

Why a plan is refused.  A plan on one table is refused for one of its statements, and no statement
before that one changes what is declared.  So the fault concerns a column that some statement of the
plan names, and an accepted plan names declared columns only:

    (s.carryOut p now).1 = .error f → f.Concerns (s.table name) p.columns   (concerns_of_carryOut)
    (s.carryOut p now).1 = .ok rs →
      ∀ c ∈ p.columns, (s.table name).allows c = true                       (allows_of_carryOut)
-/

namespace Polystore

theorem Table.allows_congr {t t' : Table} (hd : t'.declared = t.declared) (column : String) :
    t'.allows column = t.allows column := by
  unfold allows
  rw [hd]

/-- Whom a fault concerns does not depend on rows. -/
theorem StoreFault.concerns_congr {t t' : Table} (hl : t'.layout = t.layout)
    (hd : t'.declared = t.declared) {f : StoreFault} {columns : List String} :
    f.Concerns t' columns ↔ f.Concerns t columns := by
  cases f with
  | undefinedColumn name => rw [Concerns, Concerns, Table.allows_congr hd]
  | missingKeyPart name => rw [Concerns, Concerns, hl]
  | _ => rfl

namespace Store

variable {s : Store} {name : TableName} {f : StoreFault} {now : Nat}

theorem concerns_of_execute (hs : s.Orderly) {st : Statement} (ht : st.target = name)
    (h : (s.execute st now).1 = .error f) : f.Concerns (s.table name) st.action.columns := by
  rw [execute_eq, ht] at h
  exact Table.concerns_of_run (hs.table name) h

theorem allows_of_execute (hs : s.Orderly) {st : Statement} (ht : st.target = name) {rs : RowSet}
    (h : (s.execute st now).1 = .ok rs) :
    ∀ c ∈ st.action.columns, (s.table name).allows c = true := by
  rw [execute_eq, ht] at h
  exact Table.allows_of_run (hs.table name) h

/-- Statements are refused for a column that one of them names. -/
theorem concerns_of_stage (hs : s.Orderly) {sts : List Statement}
    (ht : ∀ st ∈ sts, st.target = name) (h : (s.stage now sts).1 = .error f) :
    f.Concerns (s.table name) (sts.flatMap fun st => st.action.columns) := by
  induction sts generalizing s with
  | nil => cases h
  | cons st sts ih =>
    obtain ⟨hst, hsts⟩ := List.forall_mem_cons.1 ht
    rw [List.flatMap_cons]
    rw [stage] at h
    split at h
    · obtain rfl := Except.error.inj h
      trivial
    · split at h
      · next s' he =>
        have hs' : s'.Orderly := by
          have := hs.execute st now
          rwa [he] at this
        have hshape := sameShape_execute s st now name
        rw [he] at hshape
        have hrest := ih hs' hsts h
        rw [StoreFault.concerns_congr hshape.1 hshape.2] at hrest
        exact hrest.mono fun c hc => List.mem_append_right _ hc
      · next f' s' he =>
        obtain rfl := Except.error.inj h
        have hfst : (s.execute st now).1 = .error f' := by rw [he]
        exact (concerns_of_execute hs hst hfst).mono fun c hc => List.mem_append_left _ hc

/-- A plan is refused for a column that it names or one of the key. -/
theorem concerns_of_carryOut (hs : s.Orderly) {p : Plan}
    (ht : ∀ st ∈ p.statements, st.target = name) (h : (s.carryOut p now).1 = .error f) :
    f.Concerns (s.table name) p.columns := by
  cases p with
  | single st =>
    refine (concerns_of_execute hs (ht st (List.mem_singleton_self st)) h).mono fun c hc => ?_
    exact List.mem_flatMap.2 ⟨st, List.mem_singleton_self st, hc⟩
  | batch sts =>
    have hfst : (s.executeBatch sts now).1.map (fun _ => RowSet.none) = .error f := h
    rw [executeBatch_fst] at hfst
    cases hst : (s.stage now sts).1 with
    | ok u =>
      rw [hst] at hfst
      cases hfst
    | error f' =>
      rw [hst] at hfst
      obtain rfl := Except.error.inj hfst
      exact concerns_of_stage hs ht hst

/-- An accepted plan names declared columns only. -/
theorem allows_of_carryOut (hs : s.Orderly) {p : Plan}
    (ht : ∀ st ∈ p.statements, st.target = name) {rs : RowSet}
    (h : (s.carryOut p now).1 = .ok rs) : ∀ c ∈ p.columns, (s.table name).allows c = true := by
  intro c hp
  obtain ⟨st, hm, hc⟩ := List.mem_flatMap.1 hp
  cases p with
  | single st' =>
    obtain rfl := List.mem_singleton.1 hm
    exact allows_of_execute hs (ht st hm) h c hc
  | batch sts =>
    obtain ⟨-, rs', hrs⟩ := stage_eq_ok_iff.1 (carryOut_batch_eq_ok.1 ⟨rs, h⟩) st hm
    exact allows_of_execute hs (ht st hm) hrs c hc

end Store

end Polystore
