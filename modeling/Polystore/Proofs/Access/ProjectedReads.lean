import Polystore.Proofs.Access.TableCalls
import Polystore.Proofs.Classification
import Polystore.Proofs.Column.Names
import Polystore.Proofs.Response.Rows
import Polystore.Proofs.Store.Selection

/-!
# Projected reads

What a caller gets of the rows of a table if only some fields are asked for, perhaps with remaining
times to live, and columns are not renamed: one record for each visible row that the criteria
admit, in store order, with the fields and the aliases as its keys and nothing else.  A field that
is listed once has its live value.  A field that is listed several times is null, as its value has
moved out of the row by the time it is named again (`projected_records`).
-/

namespace Polystore

/-- An identifier is not blank. -/
theorem Identifier.isBlank_eq_false {s : String} (h : holds s = true) :
    Text.isBlank s = false := by
  rw [Text.isBlank]
  have hpart : ∀ c ∈ s.toList, isPart c = true := fun c hc => isPart_of_mem h hc
  rw [holds] at h
  cases hs : s.toList with
  | nil =>
    rw [hs] at h
    cases h
  | cons c cs =>
    have hc : isPart c = true := hpart c (hs ▸ List.mem_cons_self)
    rw [List.all_cons, isSpace_of_isPart hc, Bool.false_and]

theorem TtlProjection.check_of_identifiers {ttl : TtlProjection}
    (h : ∀ p ∈ ttl, Identifier.holds p.1 = true ∧ Identifier.holds p.2 = true) :
    TtlProjection.check ttl = .ok () := by
  induction ttl with
  | nil => rfl
  | cons p ttl ih =>
    obtain ⟨⟨hf, ha⟩, hrest⟩ := List.forall_mem_cons.1 h
    obtain ⟨field, name⟩ := p
    rw [check, requireText, Identifier.isBlank_eq_false hf]
    show (if Text.isBlank name = true then _ else check ttl) = _
    rw [Identifier.isBlank_eq_false ha]
    exact ih hrest

/-- Can some fields of a table be read, with the remaining times of others?  All names are
identifiers, and the table allows what it has to look up. -/
structure CanProject (t : Table) (fields : List String) (ttl : TtlProjection) : Prop where
  nonempty : fields ≠ []
  allowsFields : ∀ c ∈ fields, Identifier.holds c = true ∧ t.allows c = true
  allowsTtl : ∀ p ∈ ttl, (Identifier.holds p.1 = true ∧ Identifier.holds p.2 = true) ∧
    t.allows p.1 = true
  differ : AliasesDiffer fields ttl

namespace CanProject

variable {t : Table} {fields : List String} {ttl : TtlProjection} (h : CanProject t fields ttl)
include h

theorem ofFields : Projection.ofFields (some fields) ttl = ⟨some fields, ttl⟩ := by
  rw [Projection.ofFields, Option.filter_some, if_pos]
  simpa using h.nonempty

theorem isNamed {name : TableName} (hn : name.check = .ok ()) :
    isNamed name ⟨some fields, ttl⟩ := by
  refine ⟨hn, ?_, ?_, ?_⟩
  · exact TtlProjection.check_of_identifiers fun p hp => (h.allowsTtl p hp).1
  · exact Identifier.checkAll_eq_ok.2 fun c hc => (h.allowsFields c hc).1
  · refine Identifier.checkAll_eq_ok.2 fun c hc => ?_
    obtain ⟨p, hp, hm⟩ := List.mem_flatMap.1 hc
    obtain ⟨hf, ha⟩ := (h.allowsTtl p hp).1
    rcases List.mem_cons.1 hm with rfl | hm
    · exact hf
    · rw [List.mem_singleton.1 hm]
      exact ha

theorem permits : t.permits ⟨some fields, ttl⟩ := by
  refine ⟨fun c hc => (h.allowsFields c hc).2, fun c hc => ?_⟩
  obtain ⟨p, hp, rfl⟩ := List.mem_map.1 hc
  exact (h.allowsTtl p hp).2

end CanProject

namespace Access

variable {a : Access Memory} {st : AccessState Memory} {name : TableName} {call : TableCall}
  {c : Criteria}

/-- The answer of a call that reads is the response to its rows. -/
theorem shape_of_select {layout : KeyLayout} {p : Projection}
    (h : call.toOperation layout = .ok (.select c p)) (answer : Answer) :
    shape (.table name call) answer = answer := by
  cases call with
  | deleteByIds ids => cases h
  | _ => rfl

/-- A read that the store in memory accepts is answered with its rows. -/
theorem outcome_of_read (hb : a.backend = Memory.backend) {p : Projection}
    (ho : call.toOperation (a.registry.get name) = .ok (.select c p)) {rs : RowSet}
    (h : st.backend.store.read name c p st.backend.now = .ok rs) :
    a.outcome st (.table name call) =
      .ok (.response (.ofRows a.settings.store.columnMapping rs)) := by
  obtain ⟨plan, hp, hrs⟩ := Store.call_eq_ok_iff.1 h
  rw [outcome_of_ok ho hp hb hrs, shape_of_select ho]
  obtain ⟨-, conditions, -, rfl⟩ := compile_select_eq_ok.1 hp
  rfl

/-- A read of some fields, with remaining times under aliases, is answered: with one record for
each visible row that the criteria admit, in store order.  The record has the fields and the aliases
and no other keys.  Under an alias it has the remaining seconds of the column, and under a field the
live value or null; but a field that is listed several times is null. -/
theorem projected_records {fields : List String} {ttl : TtlProjection}
    (hb : a.backend = Memory.backend) (hm : a.settings.store.columnMapping = [])
    (hn : name.check = .ok ())
    (ho : call.toOperation (a.registry.get name) = .ok (.select c (.ofFields (some fields) ttl)))
    (hc : c.IsAskedOf (st.backend.store.table name))
    (hp : CanProject (st.backend.store.table name) fields ttl) :
    ∃ records, a.outcome st (.table name call) = .ok (.response (.ofRecords records)) ∧
      List.Forall₂ (TellsOf fields ttl st.backend.now)
        ((st.backend.store.table name).live st.backend.now c.admits) records ∧
      (fields.Nodup → List.Forall₂
        (fun r record => ∀ f ∈ fields,
          Assoc.find? f record = some ((r.value? f st.backend.now).getD .null))
        ((st.backend.store.table name).live st.backend.now c.admits) records) := by
  rw [hp.ofFields] at ho
  have hread : st.backend.store.read name c ⟨some fields, ttl⟩ st.backend.now = .ok _ :=
    Store.read_eq_ok.2 ⟨⟨hp.isNamed hn, hp.permits⟩, hc, rfl⟩
  have htells : List.Forall₂ (TellsOf fields ttl st.backend.now)
      ((st.backend.store.table name).live st.backend.now c.admits)
      (((st.backend.store.table name).live st.backend.now c.admits).map fun r =>
        recordOfRow [] (fields ++ ttl.map Prod.snd)
          (Table.project fields ttl r st.backend.now)) := by
    rw [List.forall₂_map_right_iff, List.forall₂_same]
    exact fun r _ => tellsOf_recordOfRow hp.differ r st.backend.now
  refine ⟨_, ?_, htells, fun hnodup => htells.imp fun r record ht => fun f hf =>
    ht.field_of_nodup hnodup hf⟩
  rw [outcome_of_read hb ho hread, hm, Response.ofRows]
  show Except.ok (Answer.response (.ofRecords (List.map _ (List.map _ _)))) = _
  rw [List.map_map]
  rfl

/-! ### One row -/

/-- Access with the usual settings, which rename nothing. -/
def renamingNothing : Access Memory := ⟨{}, .empty, Memory.backend⟩

/-- A memory with one row, whose `n` is 5 and does not expire. -/
def oneRowState : AccessState Memory := .fresh ⟨Store.oneRow, .empty ".raw", 0⟩

theorem projected_records_of_oneRow :
    ∃ record, renamingNothing.outcome oneRowState
        (.table ⟨"shop", "items"⟩ (.readRowTtl (.id "a") [("n", "left")] (some ["n", "id"]))) =
          .ok (.response (.ofRecords [record])) ∧
      Assoc.find? "n" record = some (.ofNat 5) ∧ Assoc.find? "left" record = some .null := by
  have hread : CanProject (Store.oneRow.table ⟨"shop", "items"⟩) ["n", "id"] [("n", "left")] :=
    ⟨List.cons_ne_nil _ _, by decide, by decide, by decide, by decide⟩
  have hasked : (Criteria.key (.id "a")).IsAskedOf (Store.oneRow.table ⟨"shop", "items"⟩) :=
    ⟨_, rfl, fun _ _ => rfl⟩
  obtain ⟨records, hout, htells, -⟩ := @projected_records renamingNothing oneRowState
    ⟨"shop", "items"⟩ (.readRowTtl (.id "a") [("n", "left")] (some ["n", "id"])) _ _ _
    rfl rfl rfl rfl hasked hread
  cases htells with
  | cons htell hnone =>
    cases hnone
    exact ⟨_, hout, htell.field "n" (by decide), htell.remaining ("n", "left") (by decide)⟩

/-- A field that is listed twice is null in the record, although the row has a value for it. -/
theorem readAll_of_repeated :
    renamingNothing.outcome oneRowState (.table ⟨"shop", "items"⟩ (.readAll (some ["n", "n"]))) =
        .ok (.response (.ofRecords [[("n", .null)]])) ∧
      ∃ r, (Store.oneRow.table ⟨"shop", "items"⟩).live 0 Criteria.all.admits = [r] ∧
        r.value? "n" 0 = some (.ofNat 5) :=
  ⟨rfl, _, rfl, rfl⟩

end Access

end Polystore
