import Polystore.Proofs.Access.Tasks
import Polystore.Proofs.Index.Unapplied
import Polystore.Proofs.Search.Orderly

/-!
# Requests that were not applied

What a caller can see of an update or a delete that was answered with `false`, by any requests that
follow.  Of a delete nothing is seen.  Of an update the index is seen that it brought into being,
by a search of this index while it would be missing otherwise: the search fails without the update
and finds nothing after it.

    a.outcome (a.afterAll (a.after st unapplied) rs) r = a.outcome (a.afterAll st rs) r
                                                    but for such a search  (outcome_of_addsEmpty)
-/

namespace Polystore

/-- What alike states reply to a call, which must not be a search that they answer differently. -/
theorem SearchIndex.AnswersAlike.reply {searched : String → Prop} {s t : SearchIndex}
    (h : AnswersAlike searched s t) {q : Call}
    (hq : ∀ body facets, q.lookup = .search body facets → searched q.index) :
    s.reply q = t.reply q := by
  obtain ⟨index, lookup⟩ := q
  unfold SearchIndex.reply
  cases lookup with
  | search body facets => simp only [h.search index (hq body facets rfl)]
  | update id patch upsert => simp only [h.update]
  | get id => simp only [h.get]
  | delete id => simp only [h.delete]
  | getMany ids fields => simp only [h.getMany]
  | put id doc => rfl
  | putAll docs => rfl

/-- The second state is the first one, but that some indices may exist in it, without documents,
and that other handles may be open. -/
structure AccessState.AddsEmpty (added : String → Prop) (st st' : AccessState Memory) : Prop where
  store : st'.backend.store = st.backend.store
  now : st'.backend.now = st.backend.now
  issued : st'.issued = st.issued
  indices : st.backend.index.AddsEmpty added st'.backend.index

namespace Access

/-- The state that requests leave, one after the other. -/
def afterAll {σ : Type} (a : Access σ) (st : AccessState σ) (rs : List Request) : AccessState σ :=
  rs.foldl a.after st

variable {a : Access Memory} {st st' : AccessState Memory} {added : String → Prop} {r : Request}

/-! ## One request from two states -/

section
variable (hb : a.backend = Memory.backend) (h : st.AddsEmpty added st')
include hb h

/-- Every request leaves such states again. -/
theorem addsEmpty_after (r : Request) : (a.after st r).AddsEmpty added (a.after st' r) := by
  cases hp : a.prepare (freshId st.issued) r with
  | error e =>
    have hp' : a.prepare (freshId st'.issued) r = .error e := by rwa [h.issued]
    rwa [after, after, run_of_prepare_error hp, run_of_prepare_error hp']
  | ok task =>
    have hp' : a.prepare (freshId st'.issued) r = .ok task := by rwa [h.issued]
    have hi : (a.after st' r).issued = (a.after st r).issued := by
      rw [issued_of_task hb hp, issued_of_task hb hp', h.issued]
    have hcarried : (st'.backend.carryOut task).store = (st.backend.carryOut task).store ∧
        (st'.backend.carryOut task).now = (st.backend.carryOut task).now ∧
        (st.backend.carryOut task).index.AddsEmpty added (st'.backend.carryOut task).index := by
      cases task with
      | table context plan =>
        refine ⟨?_, h.now, h.indices⟩
        rw [Memory.carryOut, Memory.carryOut, h.store, h.now]
      | index context lookup => exact ⟨h.store, h.now, h.indices.apply _⟩
      | health => exact ⟨h.store, h.now, h.indices⟩
    rw [← backend_of_task hb hp, ← backend_of_task hb hp'] at hcarried
    exact ⟨hcarried.1, hcarried.2.1, hi, hcarried.2.2⟩

theorem addsEmpty_afterAll (rs : List Request) :
    (a.afterAll st rs).AddsEmpty added (a.afterAll st' rs) := by
  induction rs generalizing st st' with
  | nil => exact h
  | cons r rs ih => exact ih (addsEmpty_after hb h r)

/-- A request is answered alike, unless it is a search of an added index. -/
theorem outcome_of_addsEmpty
    (hr : ∀ index request, r = .index index (.search request) → added index →
      st'.backend.index.documents? index = st.backend.index.documents? index) :
    a.outcome st' r = a.outcome st r := by
  cases hp : a.prepare (freshId st.issued) r with
  | error e =>
    have hp' : a.prepare (freshId st'.issued) r = .error e := by rwa [h.issued]
    rw [outcome, outcome, run_of_prepare_error hp, run_of_prepare_error hp']
  | ok task =>
    have hp' : a.prepare (freshId st'.issued) r = .ok task := by rwa [h.issued]
    rw [outcome_of_task hb hp, outcome_of_task hb hp']
    refine congrArg (Except.map (shape r)) ?_
    cases task with
    | table context plan => rw [told, told, h.store, h.now]
    | health => rfl
    | index context lookup =>
      obtain ⟨call, rfl, hl⟩ := index_of_prepare hp
      have hs : ∀ index, (index = context.space ∧ ∃ request, call = .search request) →
          added index →
          st'.backend.index.documents? index = st.backend.index.documents? index := by
        rintro index ⟨rfl, request, rfl⟩ hadded
        exact hr _ request rfl hadded
      rw [told, told, (h.indices.answersAlike hs).reply]
      rintro body facets rfl
      exact ⟨rfl, search_of_toLookup hl⟩

end

/-- What requests do to the indices is done by calls on them. -/
theorem exists_calls (hb : a.backend = Memory.backend) (st : AccessState Memory)
    (rs : List Request) : ∃ qs, (a.afterAll st rs).backend.index = st.backend.index.after qs := by
  induction rs generalizing st with
  | nil => exact ⟨[], rfl⟩
  | cons r rs ih =>
    obtain ⟨qs, hqs⟩ := ih (a.after st r)
    have hfirst : ∃ qs, (a.after st r).backend.index = st.backend.index.after qs := by
      cases hp : a.prepare (freshId st.issued) r with
      | error e => exact ⟨[], by rw [after, run_of_prepare_error hp]; rfl⟩
      | ok task =>
        rw [backend_of_task hb hp]
        cases task with
        | table context plan => exact ⟨[], rfl⟩
        | index context lookup => exact ⟨[⟨context.space, lookup⟩], rfl⟩
        | health => exact ⟨[], rfl⟩
    obtain ⟨first, hf⟩ := hfirst
    refine ⟨first ++ qs, ?_⟩
    show (a.afterAll (a.after st r) rs).backend.index = _
    rw [hqs, hf, SearchIndex.after, SearchIndex.after, SearchIndex.after, List.foldl_append]

/-! ## Searches of an index without documents -/

section
variable (hb : a.backend = Memory.backend) {index : String} (hi : Text.isBlank index = false)
  {request : SearchRequest} (hc : request.check a.settings.search.maxLimit = .ok ())
include hb hi hc

/-- A search of an index without documents finds nothing. -/
theorem outcome_search_of_noDocuments (hd : st.backend.index.documents? index = some [])
    (hs : st.backend.index.suffix = a.settings.search.rawSuffix) :
    ∃ response, a.outcome st (.index index (.search request)) = .ok (.response response) ∧
      response.records = [] ∧ response.count = 0 := by
  have hn := SearchRequest.nodup_facets hc
  have hhits : Search.hits st.backend.index.suffix (request.matcher st.backend.index.suffix) [] =
      .ok [] := rfl
  have horderly : request.Orderly st.backend.index.suffix (([] : List Hit).map Hit.doc) :=
    request.orderly_noDocuments st.backend.index.suffix
  obtain ⟨found, counts, hfound, hcounts⟩ := horderly.exists_found
  obtain rfl := (SearchRequest.perm_of_arrange hfound).eq_nil
  have hanswer := SearchIndex.search_of_hits hn hd hhits a.settings.search.defaultLimit
  rw [Search.answerTo_eq_ok.2 ⟨[], counts, hfound, hcounts, rfl⟩] at hanswer
  refine ⟨request.shown a.settings.search.defaultLimit [] counts, ?_, ?_, rfl⟩
  · rw [outcome_search hb hi hc, ← hs, hanswer, ← Search.ofHits_answerJson hn
      (SearchRequest.facets_of_counted hcounts).1 st.backend.index.suffix index]
    rfl
  · rw [SearchRequest.shown, List.drop_nil, List.take_nil, List.map_nil]

end

/-! ## Requests that were not applied -/

section
variable (hb : a.backend = Memory.backend) {index id : String} {patch : Record}
include hb

/-- A delete that was not applied leaves the memory as it was. -/
theorem addsEmpty_delete (h : a.outcome st (.index index (.delete id)) = .ok (.flag false)) :
    st.AddsEmpty (fun _ => False) (a.after st (.index index (.delete id))) := by
  obtain ⟨lookup, hl, hr, hm, hissued⟩ := reply_of_outcome hb h
  obtain ⟨-, -, rfl⟩ := onDocument_eq_ok.1 hl
  have hi : st.backend.index.apply ⟨index, .delete id⟩ = st.backend.index :=
    SearchIndex.delete_of_unapplied (Answer.flag.inj (Except.ok.inj hr))
  rw [hi] at hm
  exact ⟨by rw [hm], by rw [hm], hissued, by rw [hm]; exact .refl _ _⟩

/-- An update that was not applied leaves the memory as it was, but that its index exists. -/
theorem addsEmpty_update
    (h : a.outcome st (.index index (.update id patch)) = .ok (.flag false)) :
    Text.isBlank index = false ∧
      (a.after st (.index index (.update id patch))).backend.index =
        st.backend.index.create index ∧
      st.AddsEmpty (· = index) (a.after st (.index index (.update id patch))) := by
  obtain ⟨lookup, hl, hr, hm, hissued⟩ := reply_of_outcome hb h
  obtain ⟨-, hblank, rfl⟩ := onDocument_eq_ok.1 hl
  have hi : st.backend.index.apply ⟨index, .update id patch false⟩ =
      st.backend.index.create index :=
    SearchIndex.update_of_unapplied (Answer.flag.inj (Except.ok.inj hr))
  rw [hi] at hm
  refine ⟨hblank, by rw [hm], by rw [hm], by rw [hm], hissued, ?_⟩
  rw [hm]
  exact SearchIndex.addsEmpty_create _ index

/-- After an update that was not applied and any requests, its index exists. -/
theorem isSome_documents?_of_update
    (h : a.outcome st (.index index (.update id patch)) = .ok (.flag false)) (rs : List Request) :
    ((a.afterAll (a.after st (.index index (.update id patch))) rs).backend.index.documents?
      index).isSome = true := by
  obtain ⟨-, hcreate, -⟩ := addsEmpty_update hb h
  obtain ⟨qs, hqs⟩ := exists_calls hb (a.after st (.index index (.update id patch))) rs
  rw [hqs, hcreate]
  exact SearchIndex.isSome_documents?_create_after _ _ _

/-- Requests after an update that was not applied are answered as without it, unless they search its
index while it would be missing otherwise.  Such a search finds nothing instead of failing. -/
theorem outcome_after_update
    (h : a.outcome st (.index index (.update id patch)) = .ok (.flag false)) (rs : List Request) :
    let plain := a.afterAll st rs
    let seen := a.afterAll (a.after st (.index index (.update id patch))) rs
    (∀ r, (∀ request, r ≠ .index index (.search request)) →
      a.outcome seen r = a.outcome plain r) ∧
    ((plain.backend.index.documents? index).isSome = true →
      ∀ r, a.outcome seen r = a.outcome plain r) ∧
    (plain.backend.index.documents? index = none →
      ∀ request, request.check a.settings.search.maxLimit = .ok () →
        a.outcome plain (.index index (.search request)) =
          .error (classify ⟨"search", index, index⟩ 0 (IndexFault.noIndex index).failure) ∧
        (st.backend.index.suffix = a.settings.search.rawSuffix →
          ∃ response, a.outcome seen (.index index (.search request)) = .ok (.response response) ∧
            response.records = [] ∧ response.count = 0)) := by
  intro plain seen
  obtain ⟨hblank, hcreate, hfirst⟩ := addsEmpty_update hb h
  have hadds : plain.AddsEmpty (· = index) seen := addsEmpty_afterAll hb hfirst rs
  have hseen : (seen.backend.index.documents? index).isSome = true :=
    isSome_documents?_of_update hb h rs
  refine ⟨fun r hr => outcome_of_addsEmpty hb hadds ?_,
    fun hp r => outcome_of_addsEmpty hb hadds ?_,
    fun hp request hc => ⟨outcome_search_of_missing hb hblank hc hp, fun hs => ?_⟩⟩
  · rintro index' request hsearch rfl
    exact absurd hsearch (hr request)
  · rintro index' request - rfl
    exact (hadds.indices.documents? index').resolve_right fun hn => by simp [hn.2.1] at hp
  · refine outcome_search_of_noDocuments hb hblank hc (hadds.indices.documents?_eq_nil hseen hp) ?_
    obtain ⟨qs, hqs⟩ := exists_calls hb st rs
    rw [hadds.indices.suffix, hqs, SearchIndex.suffix_after, hs]

/-- Requests after a delete that was not applied are answered as without it. -/
theorem outcome_after_delete
    (h : a.outcome st (.index index (.delete id)) = .ok (.flag false)) (rs : List Request)
    (r : Request) :
    a.outcome (a.afterAll (a.after st (.index index (.delete id))) rs) r =
      a.outcome (a.afterAll st rs) r :=
  outcome_of_addsEmpty hb (addsEmpty_afterAll hb (addsEmpty_delete hb h) rs)
    fun _ _ _ hf => hf.elim

end

open SearchIndex (AnswersAlike) in
/-- What is seen later of a call that reported that it did nothing: nothing of a delete; of an
update without `upsert` that its index exists, by searches of this index, as long as no other call
has created it. -/
theorem unapplied_seenBySearches (hb : a.backend = Memory.backend) :
    -- calls on the indices after a delete
    (∀ (s : SearchIndex) index id, (s.delete index id).1 = false → ∀ qs,
      AnswersAlike (fun _ => True) ((s.delete index id).2.after qs) (s.after qs)) ∧
    -- calls on the indices after an update
    (∀ (s : SearchIndex) index id patch, (s.update index id patch false).1 = false → ∀ qs,
      AnswersAlike (· ≠ index) ((s.update index id patch false).2.after qs) (s.after qs) ∧
      (AnswersAlike (fun _ => True) ((s.update index id patch false).2.after qs) (s.after qs) ↔
        (s.documents? index).isSome = true ∨ ∃ q ∈ qs, q.index = index ∧ q.creates = true) ∧
      ((s.after qs).documents? index = none → ∀ body,
        (s.after qs).search index body = .error (.refused (.noIndex index)) ∧
          ((s.update index id patch false).2.after qs).search index body =
            Search.answer s.suffix index body [])) ∧
    -- requests after a delete
    (∀ st index id, a.outcome st (.index index (.delete id)) = .ok (.flag false) → ∀ rs r,
      a.outcome (a.afterAll (a.after st (.index index (.delete id))) rs) r =
        a.outcome (a.afterAll st rs) r) ∧
    -- requests after an update
    (∀ st index id patch, a.outcome st (.index index (.update id patch)) = .ok (.flag false) →
      ∀ rs,
        let plain := a.afterAll st rs
        let seen := a.afterAll (a.after st (.index index (.update id patch))) rs
        (∀ r, (∀ request, r ≠ .index index (.search request)) →
          a.outcome seen r = a.outcome plain r) ∧
        ((plain.backend.index.documents? index).isSome = true →
          ∀ r, a.outcome seen r = a.outcome plain r) ∧
        (plain.backend.index.documents? index = none →
          ∀ request, request.check a.settings.search.maxLimit = .ok () →
            a.outcome plain (.index index (.search request)) =
              .error (classify ⟨"search", index, index⟩ 0 (IndexFault.noIndex index).failure) ∧
            (st.backend.index.suffix = a.settings.search.rawSuffix →
              ∃ response,
                a.outcome seen (.index index (.search request)) = .ok (.response response) ∧
                  response.records = [] ∧ response.count = 0))) := by
  refine ⟨fun s index id h qs => ?_, fun s index id patch h qs => ?_,
    fun st index id h rs r => outcome_after_delete hb h rs r,
    fun st index id patch h rs => outcome_after_update hb h rs⟩
  · rw [SearchIndex.delete_of_unapplied h]
    exact .refl _ _
  · rw [SearchIndex.update_of_unapplied h]
    exact SearchIndex.answersAlike_create s index qs

/-- An update in an empty memory reports `false`, and a search finds nothing that fails without the
update. -/
theorem unapplied_seenBySearches_empty :
    let a : Access Memory := ⟨{}, .empty, Memory.backend⟩
    let st : AccessState Memory := .fresh (.empty .empty .wide ".raw")
    let update : Request := .index "docs" (.update "1" [("a", .ofNat 1)])
    let search : Request := .index "docs" (.search .empty)
    a.outcome st update = .ok (.flag false) ∧
      (∃ f, a.outcome st search = .error f) ∧
      ∃ response, a.outcome (a.after st update) search = .ok (.response response) ∧
        response.records = [] ∧ response.count = 0 := by
  intro a st update search
  have hupdate : a.outcome st update = .ok (.flag false) := rfl
  obtain ⟨-, -, -, hafter⟩ := unapplied_seenBySearches (a := a) rfl
  obtain ⟨-, -, hmissing⟩ := hafter st "docs" "1" _ hupdate []
  obtain ⟨hfails, hfinds⟩ := hmissing rfl .empty rfl
  exact ⟨hupdate, ⟨_, hfails⟩, hfinds rfl⟩

/-- An update that reports `false` is not unseen by later calls: it brings its index into being. -/
theorem update_not_unseen :
    ((SearchIndex.empty ".raw").update "docs" "1" [] false).1 = false ∧
      (SearchIndex.empty ".raw").search "docs" (.obj []) =
        .error (.refused (.noIndex "docs")) ∧
      (∃ answer, ((SearchIndex.empty ".raw").update "docs" "1" [] false).2.search "docs" (.obj []) =
        .ok answer) ∧
      ¬ ∀ (s : SearchIndex) index id patch, (s.update index id patch false).1 = false → ∀ qs,
        SearchIndex.AnswersAlike (fun _ => True) ((s.update index id patch false).2.after qs)
          (s.after qs) := by
  refine ⟨rfl, rfl, ⟨_, rfl⟩, fun h => ?_⟩
  have hs := (h (.empty ".raw") "docs" "1" [] rfl []).search "docs" trivial (.obj [])
  cases hs

end Access

end Polystore
