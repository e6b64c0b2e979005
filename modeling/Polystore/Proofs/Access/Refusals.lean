import Polystore.Backend.Scripted
import Polystore.Proofs.Access.TableCalls

/-!
# Checks come before native calls

A request is checked as a whole before the first handle is asked for.  To see what reaches a
backend, every native call is noted in a log, which changes nothing else (`run_logged`).  A request
that fails its checks leaves the log empty and the state as it was, and whatever fails after the
checks is not told as a refusal:

    a.nativeCalls st request = [] ↔ ∃ r, a.outcome st request = .error (.refused r)
                                                                      (nativeCalls_eq_nil_iff)
-/

namespace Polystore

variable {σ α β : Type}

/-! ## Logs -/

/-- A native call that is noted. -/
def noting (c : NativeCall) (call : StateM σ α) : StateM (σ × List NativeCall) α := fun s =>
  ((call s.1).1, (call s.1).2, c :: s.2)

/-- The same backend with a log of the calls that reach it, the last one first. -/
def Backend.logged (b : Backend σ) : Backend (σ × List NativeCall) where
  openStore name := noting (.openStore name) (b.openStore name)
  openIndex name := noting (.openIndex name) (b.openIndex name)
  execute st := noting (.execute st) (b.execute st)
  executeBatch sts := noting (.executeBatch sts) (b.executeBatch sts)
  search index body := noting (.search index body) (b.search index body)
  put index id doc := noting (.put index id doc) (b.put index id doc)
  get index id := noting (.get index id) (b.get index id)
  update index id patch upsert :=
    noting (.update index id patch upsert) (b.update index id patch upsert)
  delete index id := noting (.delete index id) (b.delete index id)
  putAll index docs := noting (.putAll index docs) (b.putAll index docs)
  getMany index ids fields := noting (.getMany index ids fields) (b.getMany index ids fields)
  health := noting .health b.health

namespace AccessState

/-- The same state with an empty log. -/
def logged (st : AccessState σ) : AccessState (σ × List NativeCall) :=
  ⟨(st.backend, []), st.stores, st.indices, st.issued⟩

/-- The same state without its log. -/
def unlogged (t : AccessState (σ × List NativeCall)) : AccessState σ :=
  ⟨t.backend.1, t.stores, t.indices, t.issued⟩

/-- The calls noted so far, the last one first. -/
def log (t : AccessState (σ × List NativeCall)) : List NativeCall := t.backend.2

/-- The state after a handle of the column store was taken. -/
def keepStores (st : AccessState σ) (b : σ) (p : Pool Unit) : AccessState σ :=
  { st with backend := b, stores := p }

/-- The state after a handle of the index was taken. -/
def keepIndices (st : AccessState σ) (b : σ) (p : Pool Unit) : AccessState σ :=
  { st with backend := b, indices := p }

end AccessState

namespace Access

/-- Access to the same backend with a log. -/
def logged (a : Access σ) : Access (σ × List NativeCall) :=
  ⟨a.settings, a.registry, a.backend.logged⟩

/-- The native calls that a request leads to, in order. -/
def nativeCalls (a : Access σ) (st : AccessState σ) (request : Request) : List NativeCall :=
  (a.logged.after st.logged request).log.reverse

/-! ## Computations with a log -/

/-- One computation does what another one does and notes its calls, and none of its failures is told
as a refusal. -/
structure Performs (x : Act (σ × List NativeCall) α) (y : Act σ α) : Prop where
  result : ∀ t, (x.run.run t).1 = (y.run.run t.unlogged).1
  state : ∀ t, (x.run.run t).2.unlogged = (y.run.run t.unlogged).2
  grows : ∀ t, t.log.length ≤ (x.run.run t).2.log.length
  accepted : ∀ t r, (x.run.run t).1 ≠ .error (.refused r)

/-- Moreover every run notes a call. -/
structure Reaches (x : Act (σ × List NativeCall) α) (y : Act σ α) : Prop extends Performs x y where
  notes : ∀ t, t.log.length < (x.run.run t).2.log.length

/-- Moreover every run that fails notes a call. -/
structure Asks (x : Act (σ × List NativeCall) α) (y : Act σ α) : Prop extends Performs x y where
  notesFailure : ∀ t e, (x.run.run t).1 = .error e → t.log.length < (x.run.run t).2.log.length

theorem performs_pure (v : α) : Performs (σ := σ) (pure v) (pure v) where
  result _ := rfl
  state _ := rfl
  grows _ := Nat.le_refl _
  accepted _ _ h := by cases h

theorem performs_lift {r : Except AccessFailure α} (h : ∀ q, r ≠ .error (.refused q)) :
    Performs (σ := σ) (liftM r) (liftM r) where
  result t := by rw [lift_run, lift_run]
  state t := by rw [lift_run, lift_run]
  grows t := Nat.le_of_eq (by rw [lift_run])
  accepted t q := by
    rw [lift_run]
    exact h q

theorem reaches_native (c : NativeCall) (call : StateM σ α) :
    Reaches (native (noting c call)) (native call) where
  result _ := rfl
  state _ := rfl
  grows _ := Nat.le_succ _
  accepted _ _ h := by cases h
  notes _ := Nat.lt_succ_self _

section
variable {x : Act (σ × List NativeCall) α} {y : Act σ α} {f : α → Act (σ × List NativeCall) β}
  {g : α → Act σ β}

theorem Performs.bind (h : Performs x y) (hf : ∀ v, Performs (f v) (g v)) :
    Performs (x >>= f) (y >>= g) := by
  -- what both computations come to, by what their first steps come to
  have hboth : ∀ t, ((x >>= f).run.run t).1 = ((y >>= g).run.run t.unlogged).1 ∧
      ((x >>= f).run.run t).2.unlogged = ((y >>= g).run.run t.unlogged).2 := by
    intro t
    have h₁ := h.result t
    have h₂ := h.state t
    rw [bind_run, bind_run]
    cases hx : x.run.run t with
    | mk r t' =>
      cases hy : y.run.run t.unlogged with
      | mk r' st' =>
        rw [hx, hy] at h₁ h₂
        obtain rfl : r = r' := h₁
        obtain rfl : t'.unlogged = st' := h₂
        cases r with
        | error e => exact ⟨rfl, rfl⟩
        | ok v => exact ⟨(hf v).result t', (hf v).state t'⟩
  refine ⟨fun t => (hboth t).1, fun t => (hboth t).2, fun t => ?_, fun t r => ?_⟩
  · have hg := h.grows t
    rw [bind_run]
    cases hx : x.run.run t with
    | mk r t' =>
      rw [hx] at hg
      cases r with
      | error e => exact hg
      | ok v => exact Nat.le_trans hg ((hf v).grows t')
  · have ha := h.accepted t r
    rw [bind_run]
    cases hx : x.run.run t with
    | mk q t' =>
      rw [hx] at ha
      cases q with
      | error e =>
        rintro ⟨⟩
        exact ha rfl
      | ok v => exact (hf v).accepted t' r

/-- What a step has noted stays noted. -/
theorem Reaches.bind (h : Reaches x y) (hf : ∀ v, Performs (f v) (g v)) :
    Reaches (x >>= f) (y >>= g) where
  toPerforms := h.toPerforms.bind hf
  notes t := by
    have hn := h.notes t
    rw [bind_run]
    cases hx : x.run.run t with
    | mk r t' =>
      rw [hx] at hn
      cases r with
      | error e => exact hn
      | ok v => exact Nat.lt_of_lt_of_le hn ((hf v).grows t')

/-- A call is noted either for the handle or after it. -/
theorem Asks.bind (h : Asks x y) (hf : ∀ v, Reaches (f v) (g v)) : Reaches (x >>= f) (y >>= g) where
  toPerforms := h.toPerforms.bind fun v => (hf v).toPerforms
  notes t := by
    have hg := h.grows t
    have hn := h.notesFailure t
    rw [bind_run]
    cases hx : x.run.run t with
    | mk r t' =>
      rw [hx] at hg hn
      cases r with
      | error e => exact hn e rfl
      | ok v => exact Nat.lt_of_le_of_lt hg ((hf v).notes t')

end

/-! ## Handles -/

/-- Only the handle of a name that has none is opened. -/
theorem get_noting (p : Pool Unit) (c : String → NativeCall)
    (connect : String → StateM σ (Except HandleFailure Unit)) (name : String)
    (s : σ × List NativeCall) :
    p.get (fun n => noting (c n) (connect n)) name s =
      ((p.get connect name s.1).1,
        ((p.get connect name s.1).2.1,
          if (Assoc.find? name p.handles).isSome then s.2 else c name :: s.2),
        (p.get connect name s.1).2.2) := by
  rw [Pool.get, Pool.get]
  cases Assoc.find? name p.handles with
  | some u => rfl
  | none =>
    rw [noting]
    generalize connect name s.1 = reply
    obtain ⟨r, b⟩ := reply
    cases r with
    | ok u => rfl
    | error e => rfl

/-- A handle that is open can be had. -/
theorem find?_of_get_error {p : Pool Unit}
    {connect : String → σ → Except HandleFailure Unit × σ} {name : String} {s : σ}
    {e : HandleFailure} (h : (p.get connect name s).1 = .error e) :
    Assoc.find? name p.handles = none := by
  rw [Pool.get] at h
  cases hf : Assoc.find? name p.handles with
  | none => rfl
  | some u =>
    rw [hf] at h
    cases h

/-- Takes the handle of a name from one of the pools. -/
def takeHandle (pool : AccessState σ → Pool Unit)
    (keep : AccessState σ → σ → Pool Unit → AccessState σ)
    (connect : String → StateM σ (Except HandleFailure Unit)) (name : String) : Act σ Unit :=
  ExceptT.mk fun s =>
    (((pool s).get connect name s.backend).1.mapError .handle,
      keep s ((pool s).get connect name s.backend).2.1 ((pool s).get connect name s.backend).2.2)

/-- A handle is asked for if it is not open yet. -/
theorem asks_takeHandle (pool : AccessState σ → Pool Unit)
    (keep : AccessState σ → σ → Pool Unit → AccessState σ)
    (pool' : AccessState (σ × List NativeCall) → Pool Unit)
    (keep' : AccessState (σ × List NativeCall) → σ × List NativeCall → Pool Unit →
      AccessState (σ × List NativeCall))
    (hp : ∀ t, pool' t = pool t.unlogged)
    (hk : ∀ t s p, (keep' t s p).unlogged = keep t.unlogged s.1 p ∧ (keep' t s p).log = s.2)
    (c : String → NativeCall) (connect : String → StateM σ (Except HandleFailure Unit))
    (name : String) :
    Asks (takeHandle pool' keep' (fun n => noting (c n) (connect n)) name)
      (takeHandle pool keep connect name) := by
  have hrun : ∀ t, (takeHandle pool' keep' (fun n => noting (c n) (connect n)) name).run.run t =
      (((pool t.unlogged).get connect name t.backend.1).1.mapError .handle,
        keep' t (((pool t.unlogged).get connect name t.backend.1).2.1,
            if (Assoc.find? name (pool t.unlogged).handles).isSome then t.log else c name :: t.log)
          ((pool t.unlogged).get connect name t.backend.1).2.2) := by
    intro t
    have hg := get_noting (pool t.unlogged) c connect name t.backend
    rw [← hp] at hg ⊢
    exact congrArg (fun q : Except HandleFailure Unit × (σ × List NativeCall) × Pool Unit =>
      (q.1.mapError AccessFailure.handle, keep' t q.2.1 q.2.2)) hg
  refine ⟨⟨fun t => ?_, fun t => ?_, fun t => ?_, fun t r => ?_⟩, fun t e he => ?_⟩
  · rw [hrun]
    rfl
  · rw [hrun, (hk _ _ _).1]
    rfl
  · rw [hrun, (hk _ _ _).2]
    dsimp only
    split
    · exact Nat.le_refl _
    · exact Nat.le_succ _
  · rw [hrun]
    cases ((pool t.unlogged).get connect name t.backend.1).1 with
    | ok u => exact fun h => by cases h
    | error e => exact fun h => by cases h
  · rw [hrun] at he ⊢
    have hnone : Assoc.find? name (pool t.unlogged).handles = none := by
      cases hg : ((pool t.unlogged).get connect name t.backend.1).1 with
      | ok u =>
        rw [hg] at he
        cases he
      | error f => exact find?_of_get_error hg
    dsimp only
    rw [(hk _ _ _).2, hnone]
    exact Nat.lt_succ_self _

section
variable (a : Access σ) (name : String)

theorem asks_openStore : Asks (a.logged.openStore name) (a.openStore name) :=
  asks_takeHandle AccessState.stores AccessState.keepStores AccessState.stores
    AccessState.keepStores (fun _ => rfl) (fun _ _ _ => ⟨rfl, rfl⟩) .openStore a.backend.openStore
    name

theorem asks_openIndex : Asks (a.logged.openIndex name) (a.openIndex name) :=
  asks_takeHandle AccessState.indices AccessState.keepIndices AccessState.indices
    AccessState.keepIndices (fun _ => rfl) (fun _ _ _ => ⟨rfl, rfl⟩) .openIndex a.backend.openIndex
    name

end

/-! ## Tasks -/

/-- No failure of a native call is told as a refusal. -/
theorem classify_ne_refused (context : CallContext) (ms : Nat) (f : NativeFailure) (r : Rejection) :
    classify context ms f ≠ .refused r := by
  unfold classify
  split
  · exact fun h => by cases h
  · exact fun h => by cases h

theorem told_ne_refused (context : CallContext) (ms : Nat) (b : Breakdown) (r : Rejection) :
    b.told context ms ≠ .refused r := by
  cases b with
  | failure f => exact classify_ne_refused context ms f r
  | panic p => exact fun h => by cases h

theorem performs_settle (context : CallContext) (reply : Reply α) :
    Performs (σ := σ) (liftM (settle context reply)) (liftM (settle context reply)) := by
  refine performs_lift fun q => ?_
  rw [settle]
  cases reply.result with
  | ok v => exact fun h => by cases h
  | error b => exact fun h => told_ne_refused context reply.delayMs b q (Except.error.inj h)

theorem performs_settleWithin (limitMs : Nat) (context : CallContext) (reply : Reply α) :
    Performs (σ := σ) (liftM (settleWithin limitMs context reply))
      (liftM (settleWithin limitMs context reply)) := by
  rw [settleWithin]
  split
  · exact performs_lift fun q h => by cases h
  · exact performs_settle context reply

section
variable (a : Access σ) (context : CallContext)

theorem reaches_execute (plan : Plan) : Reaches (a.logged.execute plan) (a.execute plan) := by
  cases plan with
  | single s => exact reaches_native _ _
  | batch ss => exact (reaches_native _ _).bind fun _ => performs_pure _

theorem reaches_performTable (plan : Plan) :
    Reaches (a.logged.performTable context plan) (a.performTable context plan) := by
  rw [performTable, performTable]
  refine (asks_openStore a _).bind fun _ => ?_
  refine (reaches_execute a plan).bind fun reply => ?_
  exact (performs_settleWithin _ context reply).bind fun _ => performs_pure _

theorem reaches_performLookup (index : String) (lookup : Lookup) :
    Reaches (a.logged.performLookup context index lookup)
      (a.performLookup context index lookup) := by
  cases lookup with
  | search body facets =>
    refine (reaches_native _ _).bind fun reply => ?_
    exact (performs_settleWithin _ context reply).bind fun _ => performs_pure _
  | put id doc =>
    refine (reaches_native _ _).bind fun reply => ?_
    exact (performs_settle context reply).bind fun _ => performs_pure _
  | update id patch upsert =>
    refine (reaches_native _ _).bind fun reply => ?_
    exact (performs_settle context reply).bind fun _ => performs_pure _
  | get id =>
    refine (reaches_native _ _).bind fun reply => ?_
    exact (performs_settle context reply).bind fun _ => performs_pure _
  | delete id =>
    refine (reaches_native _ _).bind fun reply => ?_
    exact (performs_settle context reply).bind fun _ => performs_pure _
  | putAll docs =>
    refine (reaches_native _ _).bind fun reply => ?_
    exact (performs_settle context reply).bind fun _ => performs_pure _
  | getMany ids fields =>
    refine (reaches_native _ _).bind fun reply => ?_
    exact (performs_settle context reply).bind fun _ => performs_pure _

/-- Whatever is performed makes a native call. -/
theorem reaches_perform (task : Task) : Reaches (a.logged.perform task) (a.perform task) := by
  cases task with
  | table context plan =>
    exact (reaches_performTable a context plan).bind fun _ => performs_pure _
  | index context lookup =>
    exact (asks_openIndex a _).bind fun _ => reaches_performLookup a context _ lookup
  | health =>
    refine (asks_openIndex a _).bind fun _ => (reaches_native _ _).bind fun reply => ?_
    cases reply.result with
    | ok b => exact performs_pure _
    | error b =>
      cases b with
      | failure f => exact performs_pure _
      | panic p => exact performs_lift fun q h => by cases h

end

/-! ## Requests -/

/-- Giving out an id makes no call, and cannot fail. -/
theorem asks_issueFor (request : Request) :
    Asks (σ := σ) (issueFor request) (issueFor request) := by
  have hid : ∀ n, Asks (σ := σ) (modify fun s => { s with issued := s.issued + n })
      (modify fun s => { s with issued := s.issued + n }) := fun _ =>
    ⟨⟨fun _ => rfl, fun _ => rfl, fun _ => Nat.le_refl _, fun _ _ h => by cases h⟩,
      fun _ _ h => by cases h⟩
  have hnone : Asks (σ := σ) (pure ()) (pure ()) := ⟨performs_pure (), fun _ _ h => by cases h⟩
  cases request with
  | table name call => exact hnone
  | index name call =>
    rw [issueFor, issueFor]
    split
    · exact hid 1
    · exact hnone
  | health => exact hnone

section
variable {a : Access σ} {st : AccessState σ} {request : Request} {r : Rejection} {task : Task}

/-- A refused request is over before anything is asked of the backend. -/
theorem run_of_prepare_error (h : a.prepare (freshId st.issued) request = .error r) :
    (a.run request).run.run st = (.error (.refused r), st) := by
  rw [run, bind_run_of_ok (get_run st), h]
  rfl

theorem run_of_prepare_ok (h : a.prepare (freshId st.issued) request = .ok task) :
    (a.run request).run.run st =
      (issueFor request >>= fun _ => a.perform task >>= fun answer =>
        (pure (shape request answer) : Act σ Answer)).run.run st := by
  rw [run, bind_run_of_ok (get_run st), h]

/-- An accepted request makes a native call, with the log or without. -/
theorem reaches_accepted (a : Access σ) (request : Request) (task : Task) :
    Reaches
      (issueFor request >>= fun _ => a.logged.perform task >>= fun answer =>
        (pure (shape request answer) : Act (σ × List NativeCall) Answer))
      (issueFor request >>= fun _ => a.perform task >>= fun answer =>
        (pure (shape request answer) : Act σ Answer)) :=
  (asks_issueFor request).bind fun _ => (reaches_perform a task).bind fun _ => performs_pure _

/-- The log changes nothing about what a request comes to. -/
theorem run_logged (a : Access σ) (st : AccessState σ) (request : Request) :
    a.logged.outcome st.logged request = a.outcome st request ∧
      (a.logged.after st.logged request).unlogged = a.after st request := by
  rw [outcome, outcome, after, after]
  cases h : a.prepare (freshId st.issued) request with
  | error r =>
    have hl : a.logged.prepare (freshId st.logged.issued) request = .error r := h
    rw [run_of_prepare_error h, run_of_prepare_error hl]
    exact ⟨rfl, rfl⟩
  | ok task =>
    have hl : a.logged.prepare (freshId st.logged.issued) request = .ok task := h
    rw [run_of_prepare_ok h, run_of_prepare_ok hl]
    have hr := reaches_accepted a request task
    exact ⟨hr.result st.logged, hr.state st.logged⟩

theorem nativeCalls_of_prepare_error (h : a.prepare (freshId st.issued) request = .error r) :
    a.nativeCalls st request = [] := by
  have hl : a.logged.prepare (freshId st.logged.issued) request = .error r := h
  rw [nativeCalls, after, run_of_prepare_error hl]
  rfl

theorem nativeCalls_of_prepare_ok (h : a.prepare (freshId st.issued) request = .ok task) :
    a.nativeCalls st request ≠ [] := by
  have hl : a.logged.prepare (freshId st.logged.issued) request = .ok task := h
  have hn := (reaches_accepted a request task).notes st.logged
  rw [nativeCalls, after, run_of_prepare_ok hl]
  intro hnil
  rw [List.reverse_eq_nil_iff.1 hnil] at hn
  cases hn

/-- What fails after the checks is not a refusal. -/
theorem prepare_of_validation {f : AccessFailure} (h : a.outcome st request = .error f)
    (hk : f.kind = .validation) :
    ∃ r, f = .refused r ∧ a.prepare (freshId st.issued) request = .error r := by
  cases hp : a.prepare (freshId st.issued) request with
  | error r =>
    rw [outcome, run_of_prepare_error hp] at h
    cases h
    exact ⟨r, rfl, rfl⟩
  | ok task =>
    exfalso
    have hr := reaches_accepted a request task
    rw [outcome, run_of_prepare_ok hp] at h
    cases f with
    | refused r => exact hr.accepted st.logged r ((hr.result st.logged).trans h)
    | unknownProperty u => cases hk
    | execution e => cases hk
    | handle e => cases hk
    | panicked p => cases hk

/-- Exactly the refused requests make no native call. -/
theorem nativeCalls_eq_nil_iff (a : Access σ) (st : AccessState σ) (request : Request) :
    a.nativeCalls st request = [] ↔ ∃ r, a.outcome st request = .error (.refused r) := by
  constructor
  · intro hnil
    cases hp : a.prepare (freshId st.issued) request with
    | error r =>
      refine ⟨r, ?_⟩
      rw [outcome, run_of_prepare_error hp]
    | ok task => exact absurd hnil (nativeCalls_of_prepare_ok hp)
  · rintro ⟨r, h⟩
    obtain ⟨q, -, hp⟩ := prepare_of_validation h rfl
    exact nativeCalls_of_prepare_error hp

/-- No check looks at the fresh id. -/
theorem prepare_error_fresh {fresh : String} (h : a.prepare fresh request = .error r)
    (fresh' : String) : a.prepare fresh' request = .error r := by
  cases request with
  | table name call => exact h
  | health => exact h
  | index name call =>
    cases call with
    | save id doc =>
      cases id with
      | some id => exact h
      | none =>
        rw [prepare, IndexCall.toLookup, IndexCall.onIndex] at h ⊢
        cases hc : requireText .index name with
        | error e =>
          rw [hc] at h
          exact h
        | ok u =>
          rw [hc] at h
          cases h
    | _ => exact h

/-- A request whose failure is one of validation has changed nothing and made no native call.  It
makes none from any other state, whatever handles are open there, so it asks for none. -/
theorem untouched_of_validation {f : AccessFailure} (h : a.outcome st request = .error f)
    (hk : f.kind = .validation) :
    a.after st request = st ∧ a.nativeCalls st request = [] ∧
      ∀ t : AccessState σ, a.outcome t request = .error f ∧ a.after t request = t ∧
        a.nativeCalls t request = [] := by
  obtain ⟨r, rfl, hp⟩ := prepare_of_validation h hk
  have hall : ∀ t : AccessState σ, a.outcome t request = .error (.refused r) ∧
      a.after t request = t ∧ a.nativeCalls t request = [] := by
    intro t
    have hpt := prepare_error_fresh hp (freshId t.issued)
    refine ⟨?_, ?_, nativeCalls_of_prepare_error hpt⟩
    · rw [outcome, run_of_prepare_error hpt]
    · rw [after, run_of_prepare_error hpt]
  exact ⟨(hall st).2.1, (hall st).2.2, hall⟩

end

/-- A batch whose records and times to live do not pair up is refused before the scripted backend is
asked for anything. -/
theorem untouched_unpaired :
    let a : Access Scripted := ⟨{}, .empty, Scripted.backend⟩
    let st : AccessState Scripted := .fresh ⟨[], [], []⟩
    let request : Request :=
      .table ⟨"app", "items"⟩ (.insertManyFor [[("id", .str "a")]] [60, 60])
    a.outcome st request = .error (.refused (.batchSizeMismatch 1 2)) ∧
      a.after st request = st ∧ a.nativeCalls st request = [] := by
  intro a st request
  have hout : a.outcome st request = .error (.refused (.batchSizeMismatch 1 2)) := rfl
  have h := untouched_of_validation hout rfl
  exact ⟨hout, h.1, h.2.1⟩

end Access

end Polystore
