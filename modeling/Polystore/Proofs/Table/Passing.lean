import Polystore.Proofs.Response.Rows
import Polystore.Proofs.Table.Dated

/-!
# What the passing of time does to a row

As time passes and nothing is written, a row loses values and gains none.  So it meets fewer
conditions and is no longer seen at some point, but never the other way round:

    now ≤ later → (t.matching conditions later).Sublist (t.matching conditions now)
                                                                       (matching_sublist_of_later)

The remaining seconds of a column outside the key are counted down to the deadline of its last
write, and shown as long as the column has a live value (`Row.Dated.countsDown`).
-/

namespace Polystore

namespace Row

variable {r : Row} {column : String} {now later : Nat}

/-! ## Remaining seconds -/

theorem remaining_of_cell? {cell : Cell} (h : r.cell? column now = some cell) :
    r.remaining column now = cell.deadline.remaining now := by
  rw [remaining, h]

theorem remaining_of_none (h : r.cell? column now = none) : r.remaining column now = .null := by
  rw [remaining, h]

/-- A column without remaining seconds gets none. -/
theorem remaining_of_later (h : now ≤ later) (hr : r.remaining column now = .null) :
    r.remaining column later = .null := by
  cases hc : r.cell? column later with
  | none => exact remaining_of_none hc
  | some cell =>
    rw [remaining_of_cell? (cell?_of_later h hc)] at hr
    rw [remaining_of_cell? hc]
    cases hd : cell.deadline with
    | never => rfl
    | moment m =>
      rw [hd] at hr
      cases hr

/-- The remaining seconds of a column at an instant, given the instant and the time to live of its
last write.  They are shown if the column is outside the key, has a live value, and was written with
a time to live whose end the clock can show; then they are the seconds until that end, rounded
up. -/
structure CountsDown (r : Row) (clock : Clock) (l : KeyLayout) (column : String)
    (written? : Option (Nat × Option Int)) (now : Nat) : Prop where
  ne_null_iff : r.remaining column now ≠ .null ↔
    l.isKey column = false ∧ (∃ v, r.value? column now = some v) ∧
      ∃ w seconds, written? = some (w, some seconds) ∧
        w + seconds.toNat * Clock.second ≤ clock.latest
  seconds : ∀ w seconds, written? = some (w, some seconds) → r.remaining column now ≠ .null →
    ∃ n : Nat, r.remaining column now = .ofNat n ∧
      (w + seconds.toNat * Clock.second ≤ now + n * Clock.second ∧
        now + n * Clock.second < w + seconds.toNat * Clock.second + Clock.second) ∧
      1 ≤ n ∧ (n : Int) ≤ seconds ∧
      ∀ k, now + k * Clock.second < w + seconds.toNat * Clock.second →
        ∃ m : Nat, r.remaining column (now + k * Clock.second) = .ofNat m ∧ m + k = n

variable {clock : Clock} {l : KeyLayout} {log : Log}

/-- Seconds that have begun count as a whole: the division rounds up. -/
theorem remaining_of_moment {v : Json} {m : Nat}
    (h : Assoc.find? column r.cells = some ⟨v, .moment m⟩) (hm : now < m) :
    ∃ n : Nat, r.remaining column now = .ofNat n ∧
      m ≤ now + n * Clock.second ∧ now + n * Clock.second < m + Clock.second := by
  have hcell : r.cell? column now = some ⟨v, .moment m⟩ :=
    Option.filter_eq_some_iff.2 ⟨h, decide_eq_true hm⟩
  rw [remaining_of_cell? hcell]
  refine ⟨_, rfl, ?_⟩
  unfold Clock.second
  split <;> omega

/-- No seconds are shown for a column of the key, one without a live value, and one whose last write
does not end. -/
theorem countsDown_of_null {written? : Option (Nat × Option Int)}
    (hr : r.remaining column now = .null)
    (h : ∀ v w seconds, l.isKey column = false → r.value? column now = some v →
      written? = some (w, some seconds) → ¬ w + seconds.toNat * Clock.second ≤ clock.latest) :
    r.CountsDown clock l column written? now where
  ne_null_iff := by
    refine ⟨fun hne => absurd hr hne, ?_⟩
    rintro ⟨hk, ⟨v, hv⟩, w, seconds, hw, hclock⟩
    exact absurd hclock (h v w seconds hk hv hw)
  seconds _ _ _ hne := absurd hr hne

/-- The seconds are counted down to the end of the last write. -/
theorem countsDown_of_moment {v : Json} {w : Nat} {seconds : Int} (hk : l.isKey column = false)
    (h : Assoc.find? column r.cells = some ⟨v, .moment (w + seconds.toNat * Clock.second)⟩)
    (hclock : w + seconds.toNat * Clock.second ≤ clock.latest) (hwritten : w ≤ now)
    (hm : now < w + seconds.toNat * Clock.second) :
    r.CountsDown clock l column (some (w, some seconds)) now where
  ne_null_iff := by
    have hcell : r.cell? column now = some ⟨v, .moment (w + seconds.toNat * Clock.second)⟩ :=
      Option.filter_eq_some_iff.2 ⟨h, decide_eq_true hm⟩
    have hvalue : r.value? column now = some v := by rw [value?, hcell, Option.map_some]
    obtain ⟨n, hn, -⟩ := remaining_of_moment h hm
    rw [hn]
    exact ⟨fun _ => ⟨hk, ⟨v, hvalue⟩, w, seconds, rfl, hclock⟩, fun _ he => by cases he⟩
  seconds := by
    intro w' seconds' hw' _
    obtain ⟨rfl, hs⟩ := Prod.mk.inj (Option.some.inj hw')
    obtain rfl := Option.some.inj hs
    obtain ⟨n, hn, hle, hlt⟩ := remaining_of_moment h hm
    unfold Clock.second at hm hle hlt
    refine ⟨n, hn, ⟨hle, hlt⟩, by omega, by omega, fun k hk => ?_⟩
    obtain ⟨m, hm', hle', hlt'⟩ := remaining_of_moment h hk
    refine ⟨m, hm', ?_⟩
    unfold Clock.second at hle' hlt'
    omega

/-- The remaining seconds of a dated row are those of its last writes, at an instant that none of
these comes after. -/
theorem Dated.countsDown (h : r.Dated clock l log) (hlog : ∀ e ∈ log, e.1 ≤ now)
    (column : String) : r.CountsDown clock l column (log.lastWrite? l r.key column) now := by
  cases hc : r.cell? column now with
  | none =>
    refine countsDown_of_null (remaining_of_none hc) fun v w seconds _ hv => ?_
    rw [value?, hc] at hv
    cases hv
  | some cell =>
    obtain ⟨hf, hl⟩ := Option.filter_eq_some_iff.1 hc
    cases hk : l.isKey column with
    | true =>
      refine countsDown_of_null ?_ fun _ _ _ hk' => absurd (hk.symm.trans hk') (by decide)
      rw [remaining_of_cell? hc, h.key column cell hk hf]
      rfl
    | false =>
      obtain ⟨w, ttl, hw, hd⟩ := h.cell column cell hk hf
      obtain ⟨e, he, rfl, -⟩ := Log.exists_mem_of_lastWrite? hw
      obtain ⟨v, d⟩ := cell
      dsimp only at hd
      subst hd
      rw [hw]
      cases ttl with
      | none =>
        refine countsDown_of_null (remaining_of_cell? hc) fun v' w' seconds _ _ hw' => ?_
        cases hw'
      | some seconds =>
        by_cases hclock : e.1 + seconds.toNat * Clock.second ≤ clock.latest
        · rw [Deadline.after, if_pos hclock] at hf
          have hopen : (Deadline.after clock e.1 (some seconds)).isOpen now = true := hl
          rw [Deadline.after, if_pos hclock] at hopen
          exact countsDown_of_moment hk hf hclock (hlog e he) (of_decide_eq_true hopen)
        · refine countsDown_of_null ?_ fun v' w' seconds' _ _ hw' => ?_
          · rw [remaining_of_cell? hc, Deadline.after, if_neg hclock]
            rfl
          · obtain ⟨rfl, hs⟩ := Prod.mk.inj (Option.some.inj hw')
            obtain rfl := Option.some.inj hs
            exact hclock

end Row

/-! ## Rows that are still found -/

theorem Condition.holds_of_later {d : Condition} {r : Row} {now later : Nat} (h : now ≤ later)
    (hd : d.holds r later = true) : d.holds r now = true := by
  unfold Condition.holds at hd ⊢
  cases hv : r.value? d.column later with
  | none =>
    rw [hv] at hd
    cases hd
  | some v =>
    rw [hv] at hd
    rw [Row.value?_of_later h hv]
    exact hd

namespace Table

/-- Of the rows that match conditions, time only removes some. -/
theorem matching_sublist_of_later (t : Table) {now later : Nat} (h : now ≤ later)
    (conditions : List Condition) :
    (t.matching conditions later).Sublist (t.matching conditions now) := by
  refine List.monotone_filter_right _ fun r hr => ?_
  rw [Bool.and_eq_true, List.all_eq_true] at hr ⊢
  exact ⟨Row.isVisible_of_later h hr.1, fun d hd => Condition.holds_of_later h (hr.2 d hd)⟩

end Table

end Polystore
