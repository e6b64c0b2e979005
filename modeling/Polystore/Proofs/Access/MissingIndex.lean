import Polystore.Proofs.Access.Tasks
import Polystore.Proofs.Announcements

/-!
# Searches of a missing index

How a caller is told that the index of a search does not exist.  The message of the failure holds
the name of the index as the caller chose it, and failures are classified by their message.  A name
that announces a column turns the failed execution into a fault of the schema, and no other name
does:

    the failure is one of the schema ↔ Announces index.toList           (outcome_of_missingIndex)
-/

namespace Polystore

/-- The failure for a missing index is a failed execution, unless the name of the index is read as
the announcement of a column. -/
theorem classify_noIndex (context : CallContext) (ms : Nat) (index : String) :
    let f := (IndexFault.noIndex index).failure
    classify context ms f =
      match unknownProperty? index with
      | some name => .unknownProperty ⟨name, context.space, context.table, f.message⟩
      | none => .execution ⟨context, ms, f.cause, f.message, some f⟩ := by
  intro f
  have hm : unknownProperty? f.message = unknownProperty? index := unknownProperty?_noIndex index
  cases hu : unknownProperty? index with
  | none => simp only [classify, hm, hu]
  | some name => simp only [classify, hm, hu]

namespace Access

/-- A search of an index that does not exist fails by a request that the backend rejected: the
caller is not to blame, and the same call cannot succeed later.  If the name of the index announces
a column, the failure blames the caller for an unknown column instead. -/
theorem outcome_of_missingIndex {a : Access Memory} {st : AccessState Memory} {index : String}
    {request : SearchRequest} (hb : a.backend = Memory.backend)
    (hi : Text.isBlank index = false) (hd : st.backend.index.documents? index = none)
    (hc : request.check a.settings.search.maxLimit = .ok ()) :
    ∃ failure, a.outcome st (.index index (.search request)) = .error failure ∧
      (failure.kind = .schema ↔ Announces index.toList) ∧
      (¬ Announces index.toList →
        failure = .execution ⟨⟨"search", index, index⟩, 0, .rejected,
          (IndexFault.noIndex index).failure.message, some (IndexFault.noIndex index).failure⟩ ∧
        failure.kind = .execution ∧ failure.isClientError = false ∧
        failure.isRetryable = false) ∧
      (Announces index.toList →
        ∃ name, unknownProperty? index = some name ∧
          failure = .unknownProperty
            ⟨name, index, index, (IndexFault.noIndex index).failure.message⟩ ∧
          failure.isClientError = true ∧ failure.isRetryable = false) := by
  have hannounces := unknownProperty?_eq_none_iff (m := index)
  refine ⟨_, outcome_search_of_missing hb hi hc hd, ?_⟩
  rw [classify_noIndex]
  cases hu : unknownProperty? index with
  | none =>
    have hno : ¬ Announces index.toList := hannounces.1 hu
    exact ⟨⟨fun h => (by cases h), fun h => absurd h hno⟩, fun _ => ⟨rfl, rfl, rfl, rfl⟩,
      fun h => absurd h hno⟩
  | some name =>
    have hyes : Announces index.toList := by
      by_contra hno
      rw [hannounces.2 hno] at hu
      cases hu
    exact ⟨⟨fun _ => hyes, fun _ => rfl⟩, fun h => absurd hyes h,
      fun _ => ⟨name, rfl, rfl, rfl, rfl⟩⟩

/-- A plain name of a missing index. -/
theorem outcome_of_missingDocs :
    let a : Access Memory := ⟨{}, .empty, Memory.backend⟩
    let st : AccessState Memory := .fresh (.empty .empty .wide ".raw")
    ∃ failure, a.outcome st (.index "docs" (.search .empty)) = .error failure ∧
      failure.kind = .execution ∧ failure.isClientError = false ∧ failure.isRetryable = false := by
  intro a st
  have hmissing : st.backend.index.documents? "docs" = none := rfl
  have hchecked : SearchRequest.empty.check a.settings.search.maxLimit = .ok () := rfl
  have hmemory : a.backend = Memory.backend := rfl
  obtain ⟨failure, ho, -, hplain, -⟩ :=
    outcome_of_missingIndex hmemory (by decide) hmissing hchecked
  exact ⟨failure, ho, (hplain (not_announces (by decide))).2⟩

/-- A name of a missing index that is read as the announcement of a column. -/
theorem outcome_of_announcingIndex :
    let a : Access Memory := ⟨{}, .empty, Memory.backend⟩
    let st : AccessState Memory := .fresh (.empty .empty .wide ".raw")
    let index := "Undefined column name foo"
    a.outcome st (.index index (.search .empty)) =
        .error (.unknownProperty
          ⟨"foo", index, index, "index_not_found_exception: no such index [" ++ index ++ "]"⟩) ∧
      ¬ ∀ (st : AccessState Memory) (index : String) (request : SearchRequest),
        Text.isBlank index = false → st.backend.index.documents? index = none →
        request.check a.settings.search.maxLimit = .ok () →
        ∃ failure, a.outcome st (.index index (.search request)) = .error failure ∧
          failure.kind ≠ .schema := by
  intro a st index
  have hout : a.outcome st (.index index (.search .empty)) =
      .error (.unknownProperty
        ⟨"foo", index, index, "index_not_found_exception: no such index [" ++ index ++ "]"⟩) := by
    have hread : unknownProperty? index = some "foo" := by decide +kernel
    rw [outcome_search_of_missing rfl (by decide) rfl rfl, classify_noIndex, hread]
    rfl
  refine ⟨hout, fun h => ?_⟩
  obtain ⟨failure, hf, hk⟩ := h st index .empty (by decide) rfl rfl
  rw [hout] at hf
  obtain rfl := Except.error.inj hf
  exact hk rfl

end Access

end Polystore
