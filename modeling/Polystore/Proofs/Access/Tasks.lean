import Polystore.Proofs.Access.Refusals
import Polystore.Proofs.Access.TableCalls
import Polystore.Proofs.Index.History

/-!
# Requests in memory

What a request comes to if calls go to the memory.  It is refused, or it is checked and becomes a
task; the memory alone decides what a task is answered and what it leaves, and no handle has a part
in it.

    a.outcome st request = (a.told st.backend task).map (shape request)           (outcome_of_task)
    (a.after st request).backend = st.backend.carryOut task                       (backend_of_task)
-/

namespace Polystore

/-! ## Tasks -/

/-- What a call on an index is answered. -/
def SearchIndex.reply (s : SearchIndex) (q : SearchIndex.Call) : Except SearchFault Answer :=
  match q.lookup with
  | .search body facets =>
    (s.search q.index body).map fun found => .response (.ofHits found facets)
  | .put id _ => .ok (.id id)
  | .update id patch upsert => .ok (.flag (s.update q.index id patch upsert).1)
  | .get id => .ok (.document ((s.get? q.index id).getD []))
  | .delete id => .ok (.flag (s.delete q.index id).1)
  | .putAll _ => .ok .done
  | .getMany ids fields => .ok (.documents (foundDocuments (s.getMany q.index ids fields)))

/-- The memory after a task. -/
def Memory.carryOut (m : Memory) : Task → Memory
  | .table _ plan => { m with store := (m.store.carryOut plan m.now).2 }
  | .index context lookup => { m with index := m.index.apply ⟨context.space, lookup⟩ }
  | .health => m

namespace Access

variable {a : Access Memory} {st : AccessState Memory}

/-- What a task is answered. -/
def told (a : Access Memory) (m : Memory) : Task → Except AccessFailure Answer
  | .table context plan =>
    ((m.store.carryOut plan m.now).1.mapError fun f => classify context 0 f.failure).map
      fun rows => .response (a.responseTo plan rows)
  | .index context lookup =>
    (m.index.reply ⟨context.space, lookup⟩).mapError fun f => f.breakdown.told context 0
  | .health => .ok (.flag true)

/-- The handle of an index can always be had. -/
theorem openIndex_run (hb : a.backend = Memory.backend) (space : String)
    (st : AccessState Memory) :
    ∃ pool, (a.openIndex space).run.run st = (.ok (), { st with indices := pool }) := by
  have hrun : (a.openIndex space).run.run st =
      ((st.indices.get a.backend.openIndex space st.backend).1.mapError .handle,
        { st with
          backend := (st.indices.get a.backend.openIndex space st.backend).2.1
          indices := (st.indices.get a.backend.openIndex space st.backend).2.2 }) := rfl
  rw [hrun, hb, Pool.get]
  cases Assoc.find? space st.indices.handles with
  | none => exact ⟨_, rfl⟩
  | some u => exact ⟨_, rfl⟩

/-- A call on an index is answered by the index at once. -/
theorem performLookup_run (hb : a.backend = Memory.backend) (context : CallContext)
    (q : SearchIndex.Call) (st : AccessState Memory) :
    (a.performLookup context q.index q.lookup).run.run st =
      ((st.backend.index.reply q).mapError fun f => f.breakdown.told context 0,
        { st with backend := { st.backend with index := st.backend.index.apply q } }) := by
  obtain ⟨index, lookup⟩ := q
  cases lookup with
  | search body facets =>
    rw [performLookup, hb]
    refine (bind_run_of_ok (native_run _ _)).trans ?_
    show ((liftM (settleWithin _ context
        (.now ((st.backend.index.search index body).mapError SearchFault.breakdown))) :
        Act Memory Json) >>= fun found =>
          pure (Answer.response (.ofHits found facets))).run.run st =
      (((st.backend.index.search index body).map fun found =>
        Answer.response (.ofHits found facets)).mapError fun f => f.breakdown.told context 0, st)
    rw [settleWithin_now]
    cases st.backend.index.search index body with
    | error f => exact bind_run_of_error (lift_run _ _)
    | ok found => exact bind_run_of_ok (lift_run _ _)
  | _ =>
    rw [performLookup, hb]
    exact bind_run_of_ok (native_run _ _)

/-- The memory alone decides what a task comes to. -/
theorem perform_run (hb : a.backend = Memory.backend) (task : Task) (st : AccessState Memory) :
    ∃ stores indices, (a.perform task).run.run st =
      (a.told st.backend task,
        { st with backend := st.backend.carryOut task, stores := stores, indices := indices }) := by
  cases task with
  | table context plan =>
    obtain ⟨pool, hr⟩ := performTable_run hb context plan st
    refine ⟨pool, st.indices, ?_⟩
    rw [perform, told]
    cases hc : (st.backend.store.carryOut plan st.backend.now).1 with
    | error f =>
      rw [hc] at hr
      exact bind_run_of_error hr
    | ok rows =>
      rw [hc] at hr
      exact bind_run_of_ok hr
  | index context lookup =>
    obtain ⟨pool, ho⟩ := openIndex_run hb context.space st
    refine ⟨st.stores, pool, ?_⟩
    rw [perform, bind_run_of_ok ho]
    exact performLookup_run hb context ⟨context.space, lookup⟩ _
  | health =>
    obtain ⟨pool, ho⟩ := openIndex_run hb wholeIndex st
    refine ⟨st.stores, pool, ?_⟩
    rw [perform, bind_run_of_ok ho, hb]
    exact bind_run_of_ok (native_run _ _)

/-! ## Requests -/

/-- The number of fresh ids that a request needs. -/
def idsFor : Request → Nat
  | .index _ call => if call.needsId then 1 else 0
  | _ => 0

theorem issueFor_run (request : Request) (st : AccessState Memory) :
    (issueFor request).run.run st = (.ok (), { st with issued := st.issued + idsFor request }) := by
  cases request with
  | table name call => rfl
  | health => rfl
  | index name call =>
    rw [issueFor, idsFor]
    split
    · rfl
    · rfl

section
variable {request : Request} {task : Task}

/-- A request that was checked comes to its task. -/
theorem run_of_task (hb : a.backend = Memory.backend)
    (h : a.prepare (freshId st.issued) request = .ok task) :
    ∃ stores indices, (a.run request).run.run st =
      ((a.told st.backend task).map (shape request),
        ⟨st.backend.carryOut task, stores, indices, st.issued + idsFor request⟩) := by
  obtain ⟨stores, indices, hp⟩ :=
    perform_run hb task { st with issued := st.issued + idsFor request }
  refine ⟨stores, indices, ?_⟩
  rw [run_of_prepare_ok h, bind_run_of_ok (issueFor_run request st)]
  cases ht : a.told st.backend task with
  | error f =>
    rw [ht] at hp
    exact bind_run_of_error hp
  | ok answer =>
    rw [ht] at hp
    exact bind_run_of_ok hp

theorem outcome_of_task (hb : a.backend = Memory.backend)
    (h : a.prepare (freshId st.issued) request = .ok task) :
    a.outcome st request = (a.told st.backend task).map (shape request) := by
  obtain ⟨stores, indices, hr⟩ := run_of_task hb h
  rw [outcome, hr]

theorem backend_of_task (hb : a.backend = Memory.backend)
    (h : a.prepare (freshId st.issued) request = .ok task) :
    (a.after st request).backend = st.backend.carryOut task := by
  obtain ⟨stores, indices, hr⟩ := run_of_task hb h
  rw [after, hr]

theorem issued_of_task (hb : a.backend = Memory.backend)
    (h : a.prepare (freshId st.issued) request = .ok task) :
    (a.after st request).issued = st.issued + idsFor request := by
  obtain ⟨stores, indices, hr⟩ := run_of_task hb h
  rw [after, hr]

end

/-! ## Calls on indices -/

section
variable {index fresh : String} {call : IndexCall} {task : Task}

/-- A checked call on an index is a task on the same index. -/
theorem prepare_index_eq_ok :
    a.prepare fresh (.index index call) = .ok task ↔
      ∃ lookup, call.toLookup a.settings.search index fresh = .ok lookup ∧
        .index ⟨call.name, index, index⟩ lookup = task := by
  rw [prepare, Outcome.bind_eq_ok]
  simp only [Outcome.pure_eq_ok]

/-- Only calls on an index become tasks on it. -/
theorem index_of_prepare {request : Request} {context : CallContext} {lookup : Lookup}
    (h : a.prepare fresh request = .ok (.index context lookup)) :
    ∃ call, request = .index context.space call ∧
      call.toLookup a.settings.search context.space fresh = .ok lookup := by
  cases request with
  | table name call =>
    rw [prepare_table] at h
    cases hc : call.toOperation (a.registry.get name) >>= compile name with
    | error e =>
      rw [hc] at h
      cases h
    | ok plan =>
      rw [hc] at h
      cases h
  | health => cases h
  | index name call =>
    obtain ⟨lookup, hl, ht⟩ := prepare_index_eq_ok.1 h
    cases ht
    exact ⟨call, rfl, hl⟩

theorem onDocument_eq_ok {id : String} {lookup l : Lookup} :
    IndexCall.onDocument index id l = .ok lookup ↔
      Text.isBlank id = false ∧ Text.isBlank index = false ∧ l = lookup := by
  rw [IndexCall.onDocument, Outcome.then_eq_ok, Outcome.then_eq_ok, requireText_eq_ok,
    requireText_eq_ok, Outcome.pure_eq_ok]

theorem onIndex_eq_ok {lookup l : Lookup} :
    IndexCall.onIndex index l = .ok lookup ↔ Text.isBlank index = false ∧ l = lookup := by
  rw [IndexCall.onIndex, Outcome.then_eq_ok, requireText_eq_ok, Outcome.pure_eq_ok]

/-- A call on an index that was answered has been checked, and the index has replied. -/
theorem reply_of_outcome {answer : Answer} (hb : a.backend = Memory.backend)
    (h : a.outcome st (.index index call) = .ok answer) :
    ∃ lookup, call.toLookup a.settings.search index (freshId st.issued) = .ok lookup ∧
      st.backend.index.reply ⟨index, lookup⟩ = .ok answer ∧
      (a.after st (.index index call)).backend =
        { st.backend with index := st.backend.index.apply ⟨index, lookup⟩ } ∧
      (a.after st (.index index call)).issued = st.issued + idsFor (.index index call) := by
  cases hp : a.prepare (freshId st.issued) (.index index call) with
  | error r =>
    rw [outcome, run_of_prepare_error hp] at h
    cases h
  | ok task =>
    obtain ⟨lookup, hl, rfl⟩ := prepare_index_eq_ok.1 hp
    refine ⟨lookup, hl, ?_, backend_of_task hb hp, issued_of_task hb hp⟩
    rw [outcome_of_task hb hp, told] at h
    cases hr : st.backend.index.reply ⟨index, lookup⟩ with
    | error f =>
      rw [hr] at h
      cases h
    | ok answer' =>
      rw [hr] at h
      cases h
      rfl

end

/-! ## Searches -/

section
variable {index : String} {request : SearchRequest}

/-- A search is checked by the name of its index and by its request. -/
theorem toLookup_search_eq_ok {fresh : String} {lookup : Lookup} :
    (IndexCall.search request).toLookup a.settings.search index fresh = .ok lookup ↔
      Text.isBlank index = false ∧ request.check a.settings.search.maxLimit = .ok () ∧
        .search (request.body a.settings.search.rawSuffix a.settings.search.defaultLimit)
          request.facets = lookup := by
  have hl : (IndexCall.search request).toLookup a.settings.search index fresh =
      (requireText .index index >>= fun _ => request.check a.settings.search.maxLimit >>= fun _ =>
        pure (.search (request.body a.settings.search.rawSuffix a.settings.search.defaultLimit)
          request.facets)) := rfl
  rw [hl, Outcome.then_eq_ok, Outcome.then_eq_ok, requireText_eq_ok, Outcome.pure_eq_ok]

/-- Nothing else becomes a search. -/
theorem search_of_toLookup {fresh : String} {call : IndexCall} {body : Json}
    {facets : List FacetRequest}
    (h : call.toLookup a.settings.search index fresh = .ok (.search body facets)) :
    ∃ request, call = .search request := by
  cases call with
  | search request => exact ⟨request, rfl⟩
  | save id doc =>
    cases id with
    | some id => cases (onDocument_eq_ok.1 h).2.2
    | none => cases (onIndex_eq_ok.1 h).2
  | update id patch => cases (onDocument_eq_ok.1 h).2.2
  | upsert id doc => cases (onDocument_eq_ok.1 h).2.2
  | get id => cases (onDocument_eq_ok.1 h).2.2
  | delete id => cases (onDocument_eq_ok.1 h).2.2
  | saveMany docs =>
    rw [IndexCall.toLookup] at h
    split at h
    · cases h
    · obtain ⟨pairs, -, h⟩ := Outcome.bind_eq_ok.1 h
      cases (onIndex_eq_ok.1 h).2
  | getMany ids fields =>
    rw [IndexCall.toLookup] at h
    split at h
    · cases h
    · cases (onIndex_eq_ok.1 h).2

/-- A search that was not refused is answered by the index. -/
theorem outcome_search (hb : a.backend = Memory.backend) (hi : Text.isBlank index = false)
    (hc : request.check a.settings.search.maxLimit = .ok ()) :
    a.outcome st (.index index (.search request)) =
      ((st.backend.index.search index
          (request.body a.settings.search.rawSuffix a.settings.search.defaultLimit)).map
        fun found => Answer.response (.ofHits found request.facets)).mapError
          fun f => f.breakdown.told ⟨"search", index, index⟩ 0 := by
  have hlookup : (IndexCall.search request).toLookup a.settings.search index (freshId st.issued) =
      .ok _ := toLookup_search_eq_ok.2 ⟨hi, hc, rfl⟩
  rw [outcome_of_task hb (prepare_index_eq_ok.2 ⟨_, hlookup, rfl⟩), told, SearchIndex.reply]
  dsimp only
  cases st.backend.index.search index _ with
  | error f => rfl
  | ok found => rfl

/-- A search of an index that does not exist fails. -/
theorem outcome_search_of_missing (hb : a.backend = Memory.backend)
    (hi : Text.isBlank index = false)
    (hc : request.check a.settings.search.maxLimit = .ok ())
    (hd : st.backend.index.documents? index = none) :
    a.outcome st (.index index (.search request)) =
      .error (classify ⟨"search", index, index⟩ 0 (IndexFault.noIndex index).failure) := by
  rw [outcome_search hb hi hc, SearchIndex.search, hd]
  rfl

end

end Access

end Polystore
