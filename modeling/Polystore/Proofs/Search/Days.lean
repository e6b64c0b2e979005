import Mathlib.Algebra.BigOperators.Group.List.Basic
import Mathlib.Algebra.GroupWithZero.Nat
import Mathlib.Data.Int.Range
import Mathlib.Data.List.Nodup
import Mathlib.Data.List.Range
import Mathlib.Order.Bounds.Defs
import Polystore.Proofs.Search.Answer

/-!
# Facets by day

The list of days is computed in signed 64 bits: each instant is rounded down to the start of its
day, and a day variable runs from the first day to the last one and a day beyond.  The list is
answered exactly if all of these numbers fit, and that is so exactly if every instant lies less than
106751991167 days from the epoch.

    ((dayStarts? suffix field docs).bind dayCounts?).isSome ↔
      ∀ v ∈ computedDays suffix field docs, FitsI64 v                            (days_overflow_iff)
    (∀ v ∈ computedDays suffix field docs, FitsI64 v) ↔
      ∀ ms ∈ docs.filterMap (documentInstant? suffix field), InDayRange ms

Then the list is what it is meant to be: the days follow one another without a gap, and each
document with an instant counts once, on its own day.

    |ms| ≤ 2 ^ 62 for every instant →
      aggregate suffix name spec docs = .ok (buckets (counts.map dayBucket)) ∧
        CountsDays suffix field docs counts                                (aggregate_days)
-/

namespace Polystore

theorem fitsI64_iff {i : Int} :
    FitsI64 i ↔ -9223372036854775808 ≤ i ∧ i < 9223372036854775808 := Iff.rfl

/-! ## Days by number -/

namespace Time

theorem dayOfMillis_eq (ms : Int) : dayOfMillis ms = ms / 86400000 :=
  Int.fdiv_eq_ediv_of_nonneg ms (by decide)

theorem dayMillis_eq : dayMillis = 86400000 := rfl

/-- A day lasts from its first instant to the first instant of the next day. -/
theorem dayOfMillis_eq_iff {ms n : Int} :
    dayOfMillis ms = n ↔ n * dayMillis ≤ ms ∧ ms < n * dayMillis + dayMillis := by
  rw [dayOfMillis_eq, dayMillis_eq]
  omega

end Time

open Time (dayOfMillis dayMillis dayOfMillis_eq dayMillis_eq dayOfMillis_eq_iff)

theorem range_of_le {a b : Int} (h : b ≤ a) : Int.range a b = [] := by
  have hn : (b - a).toNat = 0 := by omega
  rw [Int.range, hn]
  rfl

theorem range_of_lt {a b : Int} (h : a < b) : Int.range a b = a :: Int.range (a + 1) b := by
  have hn : (b - a).toNat = (b - (a + 1)).toNat + 1 := by omega
  rw [Int.range, Int.range, hn, List.range_succ_eq_map, List.map_cons, List.map_map]
  congr 1
  · omega
  · refine List.map_congr_left fun i _ => ?_
    rw [Function.comp_apply, Nat.succ_eq_add_one]
    omega

theorem nodup_range (a b : Int) : (Int.range a b).Nodup := by
  refine List.nodup_range.map fun i j h => ?_
  have hij : a + (i : Int) = a + (j : Int) := h
  omega

theorem isChain_range (a b : Int) : (Int.range a b).IsChain fun m n => n = m + 1 := by
  rw [Int.range, List.isChain_map]
  refine (List.isChain_range _ _).2 fun i _ => ?_
  rw [Nat.succ_eq_add_one]
  omega

theorem head?_range {a b : Int} (h : a < b) : (Int.range a b).head? = some a := by
  rw [range_of_lt h, List.head?_cons]

theorem getLast?_range {a b : Int} (h : a < b) : (Int.range a b).getLast? = some (b - 1) := by
  have hn : ¬ (b - a).toNat = 0 := by omega
  rw [Int.range, List.getLast?_map, List.getLast?_range, if_neg hn, Option.map_some]
  congr 1
  omega

/-! ## The range in which all numbers fit -/

/-- The number of whole days that signed 64 bits hold on either side of the epoch. -/
def wholeDays : Int := Decimal.twoTo 63 / dayMillis

/-- Does the instant lie on one of these days? -/
def InDayRange (ms : Int) : Prop := -(wholeDays * dayMillis) ≤ ms ∧ ms < wholeDays * dayMillis

instance (ms : Int) : Decidable (InDayRange ms) := inferInstanceAs (Decidable (_ ∧ _))

theorem inDayRange_iff {ms : Int} :
    InDayRange ms ↔ -9223372036828800000 ≤ ms ∧ ms < 9223372036828800000 := Iff.rfl

/-- The starts of the days of some instants, if all of them fit. -/
theorem mapM_dayStart?_eq_some_iff {instants starts : List Int} :
    instants.mapM dayStart? = some starts ↔
      (∀ ms ∈ instants, FitsI64 (dayOfMillis ms * dayMillis)) ∧
        starts = instants.map fun ms => dayOfMillis ms * dayMillis := by
  induction instants generalizing starts with
  | nil => simp [eq_comm]
  | cons ms instants ih =>
    rw [List.mapM_cons]
    simp only [Option.bind_eq_bind, Option.bind_eq_some_iff, Option.pure_def, Option.some.injEq, ih,
      List.forall_mem_cons, List.map_cons, dayStart?, Option.ite_none_right_eq_some]
    constructor
    · rintro ⟨_, ⟨hfit, rfl⟩, _, ⟨hfits, rfl⟩, rfl⟩
      exact ⟨⟨hfit, hfits⟩, rfl⟩
    · rintro ⟨⟨hfit, hfits⟩, rfl⟩
      exact ⟨_, ⟨hfit, rfl⟩, _, ⟨hfits, rfl⟩, rfl⟩

/-- The list of days runs from the first to the last one, if the day after each of them fits. -/
theorem daysUpTo?_eq_some_iff {a b : Int} {days : List Int} :
    daysUpTo? (b * dayMillis) (a * dayMillis) = some days ↔
      (∀ d, a ≤ d → d ≤ b → FitsI64 ((d + 1) * dayMillis)) ∧
        days = (Int.range a (b + 1)).map fun d => d * dayMillis := by
  obtain ⟨n, hn⟩ : ∃ n, (b + 1 - a).toNat = n := ⟨_, rfl⟩
  induction n generalizing a days with
  | zero =>
    have hba : b < a := by omega
    rw [daysUpTo?, if_neg (by rw [dayMillis_eq]; omega), range_of_le (by omega)]
    simp only [Option.some.injEq, List.map_nil, eq_comm]
    exact ⟨fun h => ⟨fun d h₁ h₂ => by omega, h⟩, And.right⟩
  | succ n ih =>
    have hab : a ≤ b := by omega
    have hnext : a * dayMillis + dayMillis = (a + 1) * dayMillis := by
      rw [dayMillis_eq]
      omega
    rw [daysUpTo?, if_pos (by rw [dayMillis_eq]; omega), hnext, Option.ite_none_right_eq_some,
      Option.map_eq_some_iff, range_of_lt (by omega), List.map_cons]
    simp only [ih (show (b + 1 - (a + 1)).toNat = n by omega)]
    constructor
    · rintro ⟨hfit, _, ⟨hfits, rfl⟩, rfl⟩
      refine ⟨fun d had hdb => ?_, rfl⟩
      rcases Int.lt_or_eq_of_le had with had | rfl
      · exact hfits d had hdb
      · exact hfit
    · rintro ⟨hfits, rfl⟩
      exact ⟨hfits a (Int.le_refl a) hab, _, ⟨fun d had => hfits d (by omega), rfl⟩, rfl⟩

/-- The numbers of the days of some instants. -/
def daysOf (instants : List Int) : Set Int := {d | ∃ ms ∈ instants, dayOfMillis ms = d}

/-- Some instants have a first and a last day. -/
theorem exists_firstDay_lastDay {instants : List Int} (hne : instants ≠ []) :
    ∃ a b, IsLeast (daysOf instants) a ∧ IsGreatest (daysOf instants) b ∧
      (instants.map fun ms => dayOfMillis ms * dayMillis).min? = some (a * dayMillis) ∧
      (instants.map fun ms => dayOfMillis ms * dayMillis).max? = some (b * dayMillis) := by
  have hne' : (instants.map fun ms => dayOfMillis ms * dayMillis) ≠ [] :=
    fun h => hne (List.map_eq_nil_iff.1 h)
  obtain ⟨first, hfirst⟩ := Option.ne_none_iff_exists'.1 (mt List.min?_eq_none_iff.1 hne')
  obtain ⟨last, hlast⟩ := Option.ne_none_iff_exists'.1 (mt List.max?_eq_none_iff.1 hne')
  obtain ⟨hmin, hle⟩ := List.min?_eq_some_iff.1 hfirst
  obtain ⟨hmax, hge⟩ := List.max?_eq_some_iff.1 hlast
  obtain ⟨ma, hma, rfl⟩ := List.mem_map.1 hmin
  obtain ⟨mb, hmb, rfl⟩ := List.mem_map.1 hmax
  refine ⟨dayOfMillis ma, dayOfMillis mb, ⟨⟨ma, hma, rfl⟩, ?_⟩, ⟨⟨mb, hmb, rfl⟩, ?_⟩, hfirst,
    hlast⟩
  · rintro d ⟨ms, hms, rfl⟩
    have h := hle _ (List.mem_map_of_mem hms)
    rw [dayMillis_eq] at h
    omega
  · rintro d ⟨ms, hms, rfl⟩
    have h := hge _ (List.mem_map_of_mem hms)
    rw [dayMillis_eq] at h
    omega

/-- The days from the first to the last are listed, each with the instants on it, if the day after
each of them fits. -/
theorem dayCounts?_eq_some_iff {instants : List Int} {a b : Int}
    (ha : IsLeast (daysOf instants) a) (hb : IsGreatest (daysOf instants) b)
    {counts : List (Int × Nat)} :
    dayCounts? (instants.map fun ms => dayOfMillis ms * dayMillis) = some counts ↔
      (∀ d, a ≤ d → d ≤ b → FitsI64 ((d + 1) * dayMillis)) ∧
        counts = (Int.range a (b + 1)).map fun d =>
          (d * dayMillis, instants.countP fun ms => dayOfMillis ms == d) := by
  have hne : instants ≠ [] := by
    obtain ⟨ms, hms, -⟩ := ha.1
    exact List.ne_nil_of_mem hms
  obtain ⟨a', b', ha', hb', hfirst, hlast⟩ := exists_firstDay_lastDay hne
  obtain rfl := Int.le_antisymm (ha.2 ha'.1) (ha'.2 ha.1)
  obtain rfl := Int.le_antisymm (hb'.2 hb.1) (hb.2 hb'.1)
  have hcount : ∀ d : Int, (instants.map fun ms => dayOfMillis ms * dayMillis).countP
      (· == d * dayMillis) = instants.countP fun ms => dayOfMillis ms == d := by
    intro d
    rw [List.countP_map]
    refine List.countP_congr fun ms _ => ?_
    rw [Function.comp_apply, beq_iff_eq, beq_iff_eq, dayMillis_eq]
    omega
  rw [dayCounts?, hfirst, hlast]
  simp only [Option.map_eq_some_iff, daysUpTo?_eq_some_iff]
  have hmap : ((Int.range a (b + 1)).map fun d => d * dayMillis).map (fun d => (d,
      (instants.map fun ms => dayOfMillis ms * dayMillis).countP (· == d))) =
      (Int.range a (b + 1)).map fun d =>
        (d * dayMillis, instants.countP fun ms => dayOfMillis ms == d) := by
    rw [List.map_map]
    refine List.map_congr_left fun d _ => ?_
    rw [Function.comp_apply, hcount]
  constructor
  · rintro ⟨_, ⟨hfits, rfl⟩, rfl⟩
    exact ⟨hfits, hmap⟩
  · rintro ⟨hfits, rfl⟩
    exact ⟨_, ⟨hfits, rfl⟩, hmap⟩

/-! ## Which numbers are computed -/

/-- The numbers that the list of days is made with: the starts of the days of the instants, and what
the day variable is counted on to from each day between the first and the last. -/
def computedDays (suffix field : String) (docs : List Json) : Set Int :=
  {v | (∃ ms ∈ docs.filterMap (documentInstant? suffix field), v = dayOfMillis ms * dayMillis) ∨
    ∃ a b d, a ∈ daysOf (docs.filterMap (documentInstant? suffix field)) ∧
      b ∈ daysOf (docs.filterMap (documentInstant? suffix field)) ∧ a ≤ d ∧ d ≤ b ∧
      v = (d + 1) * dayMillis}

section
variable {suffix field : String} {docs : List Json}

theorem isSome_dayCounts?_iff : ((dayStarts? suffix field docs).bind dayCounts?).isSome ↔
    ∀ v ∈ computedDays suffix field docs, FitsI64 v := by
  unfold computedDays dayStarts?
  generalize docs.filterMap (documentInstant? suffix field) = instants
  rw [Option.isSome_iff_exists]
  simp only [Option.bind_eq_some_iff, mapM_dayStart?_eq_some_iff, Set.mem_ofPred_eq]
  constructor
  · rintro ⟨counts, starts, ⟨hstarts, rfl⟩, hcounts⟩ v (⟨ms, hms, rfl⟩ |
      ⟨a, b, d, ha, hb, had, hdb, rfl⟩)
    · exact hstarts ms hms
    · have hne : instants ≠ [] := by
        obtain ⟨ms, hms, -⟩ := ha
        exact List.ne_nil_of_mem hms
      obtain ⟨first, last, hfirst, hlast, -⟩ := exists_firstDay_lastDay hne
      exact ((dayCounts?_eq_some_iff hfirst hlast).1 hcounts).1 d
        (Int.le_trans (hfirst.2 ha) had) (Int.le_trans hdb (hlast.2 hb))
  · intro hfit
    have hstarts : ∀ ms ∈ instants, FitsI64 (dayOfMillis ms * dayMillis) :=
      fun ms hms => hfit _ (.inl ⟨ms, hms, rfl⟩)
    by_cases hne : instants = []
    · subst hne
      exact ⟨[], [], ⟨by simp, rfl⟩, rfl⟩
    · obtain ⟨first, last, hfirst, hlast, -⟩ := exists_firstDay_lastDay hne
      exact ⟨_, _, ⟨hstarts, rfl⟩, (dayCounts?_eq_some_iff hfirst hlast).2
        ⟨fun d h₁ h₂ => hfit _ (.inr ⟨_, _, d, hfirst.1, hlast.1, h₁, h₂, rfl⟩), rfl⟩⟩

theorem forall_fits_iff : (∀ v ∈ computedDays suffix field docs, FitsI64 v) ↔
    ∀ ms ∈ docs.filterMap (documentInstant? suffix field), InDayRange ms := by
  unfold computedDays
  generalize docs.filterMap (documentInstant? suffix field) = instants
  constructor
  · -- A start of a day that fits is not after the last whole day, and on that day the day
    -- variable is still to be counted on.
    intro hfit ms hms
    have hstart := fitsI64_iff.1 (hfit _ (.inl ⟨ms, hms, rfl⟩))
    have hnext := fitsI64_iff.1 (hfit _ (.inr ⟨dayOfMillis ms, dayOfMillis ms, dayOfMillis ms,
      ⟨ms, hms, rfl⟩, ⟨ms, hms, rfl⟩, Int.le_refl _, Int.le_refl _, rfl⟩))
    rw [inDayRange_iff]
    rw [dayOfMillis_eq, dayMillis_eq] at hstart hnext
    omega
  · rintro hr v (⟨ms, hms, rfl⟩ | ⟨_, _, d, ⟨ma, hma, rfl⟩, ⟨mb, hmb, rfl⟩, had, hdb, rfl⟩)
    · have h := inDayRange_iff.1 (hr ms hms)
      rw [fitsI64_iff, dayOfMillis_eq, dayMillis_eq]
      omega
    · have ha := inDayRange_iff.1 (hr ma hma)
      have hb := inDayRange_iff.1 (hr mb hmb)
      rw [dayOfMillis_eq] at had hdb
      rw [fitsI64_iff, dayMillis_eq]
      omega

end

/-- The days are counted exactly if no computed number overflows, and none does exactly if all
instants are in the range. -/
theorem days_overflow_iff (suffix field : String) (docs : List Json) :
    (((dayStarts? suffix field docs).bind dayCounts?).isSome ↔
      ∀ v ∈ computedDays suffix field docs, FitsI64 v) ∧
    ((∀ v ∈ computedDays suffix field docs, FitsI64 v) ↔
      ∀ ms ∈ docs.filterMap (documentInstant? suffix field), InDayRange ms) :=
  ⟨isSome_dayCounts?_iff, forall_fits_iff⟩

/-- The first instant of 64 bits and one on the last but one of the whole days: the day of the first
one starts before the numbers of 64 bits, and the search is broken off. -/
theorem days_overflow_firstInstant :
    Search.aggregate "" "d"
        (.obj [("date_histogram", .obj [("field", .str "d"), ("calendar_interval", .str "1d")])])
        [.obj [("d", .ofInt (-9223372036854775808))], .obj [("d", .ofInt 9223372036742400000)]] =
      .error (.panicked .overflow) ∧
    ¬ ∀ v ∈ computedDays "" "d"
      [.obj [("d", .ofInt (-9223372036854775808))], .obj [("d", .ofInt 9223372036742400000)]],
      FitsI64 v := by
  refine ⟨rfl, fun h => ?_⟩
  have hfirst : dayOfMillis (-9223372036854775808) * dayMillis ∈ computedDays "" "d"
      [.obj [("d", .ofInt (-9223372036854775808))], .obj [("d", .ofInt 9223372036742400000)]] :=
    .inl ⟨_, List.mem_filterMap.2 ⟨_, List.mem_cons_self, by decide⟩, rfl⟩
  exact absurd (h _ hfirst) (by decide)

/-! ## The list of days -/

/-- Does the instant of a document lie on the day that starts at `day`? -/
def isOnDay (suffix field : String) (day : Int) (doc : Json) : Bool :=
  (documentInstant? suffix field doc).any fun ms => decide (day ≤ ms ∧ ms < day + dayMillis)

/-- The instants of documents, day by day: every day from the first to the last one, each with the
number of documents on it. -/
structure CountsDays (suffix field : String) (docs : List Json) (counts : List (Int × Nat)) :
    Prop where
  consecutive : counts.IsChain fun p q => q.1 = p.1 + dayMillis
  first : ∀ p ∈ counts.head?,
    ∃ n, IsLeast (daysOf (docs.filterMap (documentInstant? suffix field))) n ∧ p.1 = n * dayMillis
  last : ∀ p ∈ counts.getLast?,
    ∃ n, IsGreatest (daysOf (docs.filterMap (documentInstant? suffix field))) n ∧
      p.1 = n * dayMillis
  multiple : ∀ p ∈ counts, dayMillis ∣ p.1
  counted : ∀ p ∈ counts, p.2 = docs.countP (isOnDay suffix field p.1)
  first_pos : ∀ p ∈ counts.head?, 0 < p.2
  last_pos : ∀ p ∈ counts.getLast?, 0 < p.2
  total : (counts.map Prod.snd).sum = docs.countP fun d => (documentInstant? suffix field d).isSome
  empty : (∀ d ∈ docs, documentInstant? suffix field d = none) → counts = []

theorem sum_ite_eq_count (keys : List Int) (y : Int) :
    (keys.map fun k => if y == k then 1 else 0).sum = keys.count y := by
  induction keys with
  | nil => rfl
  | cons k keys ih =>
    rw [List.map_cons, List.sum_cons, ih, List.count_cons, BEq.comm, Nat.add_comm]

/-- Items that are counted by their keys are all counted once. -/
theorem sum_countP_eq_length {α : Type} (f : α → Int) {keys : List Int} (hk : keys.Nodup)
    {l : List α} (h : ∀ x ∈ l, f x ∈ keys) :
    (keys.map fun k => l.countP fun x => f x == k).sum = l.length := by
  induction l with
  | nil => simp
  | cons x l ih =>
    obtain ⟨hx, hl⟩ := List.forall_mem_cons.1 h
    simp only [List.countP_cons, List.sum_map_add, ih hl, sum_ite_eq_count, List.length_cons]
    rw [List.count_eq_one_of_mem hk hx]

theorem countP_isOnDay (suffix field : String) (docs : List Json) (n : Int) :
    ((docs.filterMap (documentInstant? suffix field)).countP fun ms => dayOfMillis ms == n) =
      docs.countP (isOnDay suffix field (n * dayMillis)) := by
  rw [List.countP_filterMap]
  refine List.countP_congr fun d _ => ?_
  unfold isOnDay
  cases documentInstant? suffix field d with
  | none => rfl
  | some ms => simp [dayOfMillis_eq_iff]

theorem countsDays_nil {suffix field : String} {docs : List Json}
    (h : docs.filterMap (documentInstant? suffix field) = []) :
    CountsDays suffix field docs [] where
  consecutive := .nil
  first := by simp
  last := by simp
  multiple := by simp
  counted := by simp
  first_pos := by simp
  last_pos := by simp
  total := by
    rw [← List.length_filterMap_eq_countP, h]
    rfl
  empty := fun _ => rfl

/-- In the range, the list of days is complete and has no gap. -/
theorem countsDays_of_inDayRange {suffix field : String} {docs : List Json}
    (hr : ∀ ms ∈ docs.filterMap (documentInstant? suffix field), InDayRange ms) :
    ∃ counts, (dayStarts? suffix field docs).bind dayCounts? = some counts ∧
      CountsDays suffix field docs counts := by
  obtain ⟨counts, hsome⟩ :=
    Option.isSome_iff_exists.1 (isSome_dayCounts?_iff.2 (forall_fits_iff.2 hr))
  refine ⟨counts, hsome, ?_⟩
  obtain ⟨starts, hstarts, hcounts⟩ := Option.bind_eq_some_iff.1 hsome
  obtain ⟨-, rfl⟩ := mapM_dayStart?_eq_some_iff.1 hstarts
  by_cases hne : docs.filterMap (documentInstant? suffix field) = []
  · rw [hne] at hcounts
    cases hcounts
    exact countsDays_nil hne
  · obtain ⟨a, b, hleast, hgreatest, -⟩ := exists_firstDay_lastDay hne
    obtain ⟨-, rfl⟩ := (dayCounts?_eq_some_iff hleast hgreatest).1 hcounts
    have hab : a < b + 1 := Int.lt_add_one_of_le (hleast.2 hgreatest.1)
    have hpos : ∀ n ∈ daysOf (docs.filterMap (documentInstant? suffix field)),
        0 < docs.countP (isOnDay suffix field (n * dayMillis)) := by
      rintro n ⟨ms, hms, hn⟩
      rw [← countP_isOnDay]
      exact List.countP_pos_iff.2 ⟨ms, hms, beq_iff_eq.2 hn⟩
    simp only [countP_isOnDay]
    exact {
      consecutive := by
        rw [List.isChain_map]
        refine (isChain_range a (b + 1)).imp fun m n h => ?_
        rw [h, dayMillis_eq]
        omega
      first := by
        rw [List.head?_map, head?_range hab]
        rintro p ⟨⟩
        exact ⟨a, hleast, rfl⟩
      last := by
        rw [List.getLast?_map, getLast?_range hab, Int.add_sub_cancel]
        rintro p ⟨⟩
        exact ⟨b, hgreatest, rfl⟩
      multiple := by
        intro p hp
        obtain ⟨n, -, rfl⟩ := List.mem_map.1 hp
        exact Int.dvd_mul_left n dayMillis
      counted := by
        intro p hp
        obtain ⟨n, -, rfl⟩ := List.mem_map.1 hp
        rfl
      first_pos := by
        rw [List.head?_map, head?_range hab]
        rintro p ⟨⟩
        exact hpos a hleast.1
      last_pos := by
        rw [List.getLast?_map, getLast?_range hab, Int.add_sub_cancel]
        rintro p ⟨⟩
        exact hpos b hgreatest.1
      total := by
        simp only [← countP_isOnDay]
        rw [← List.length_filterMap_eq_countP, List.map_map]
        refine sum_countP_eq_length dayOfMillis (nodup_range a (b + 1)) fun ms hms => ?_
        exact Int.mem_range_iff.2
          ⟨hleast.2 ⟨ms, hms, rfl⟩, Int.lt_add_one_of_le (hgreatest.2 ⟨ms, hms, rfl⟩)⟩
      empty := fun hnone => absurd (List.filterMap_eq_nil_iff.2 hnone) hne }

namespace Search

/-- A facet by day over documents whose instants are within `2 ^ 62` milliseconds of the epoch. -/
theorem aggregate_days {suffix name field : String} {spec histogram : Json} {docs : List Json}
    (hterms : spec.get? "terms" = none) (hdays : spec.get? "date_histogram" = some histogram)
    (hfield : histogram.get? "field" = some (.str field))
    (hr : ∀ d ∈ docs, ∀ ms ∈ documentInstant? suffix field d, ms.natAbs ≤ Decimal.twoTo 62) :
    ∃ counts, aggregate suffix name spec docs = .ok (buckets (counts.map dayBucket)) ∧
      CountsDays suffix field docs counts := by
  have hrange : ∀ ms ∈ docs.filterMap (documentInstant? suffix field), InDayRange ms := by
    intro ms hms
    obtain ⟨d, hd, hinstant⟩ := List.mem_filterMap.1 hms
    have habs : ms.natAbs ≤ 4611686018427387904 := hr d hd ms hinstant
    rw [inDayRange_iff]
    omega
  obtain ⟨counts, hsome, hcounts⟩ := countsDays_of_inDayRange hrange
  refine ⟨counts, ?_, hcounts⟩
  simp only [aggregate, hterms, hdays, aggregationField_ok hfield]
  show orPanic .overflow ((dayStarts? suffix field docs).bind dayCounts?) >>= _ = _
  rw [hsome]
  rfl

/-- Three documents, one of them before the epoch, one with a first value that is no instant, and
one without any. -/
theorem aggregate_days_threeDocuments : ∃ counts,
    aggregate ".raw" "days"
      (.obj [("date_histogram", .obj [("field", .str "d"), ("calendar_interval", .str "1d")])])
      [.obj [("d", .ofInt (-1))], .obj [("d", .arr [.str "soon", .ofInt 86400000])],
        .obj [("e", .ofInt 5)]] = .ok (buckets (counts.map dayBucket)) ∧
      CountsDays ".raw" "d"
        [.obj [("d", .ofInt (-1))], .obj [("d", .arr [.str "soon", .ofInt 86400000])],
          .obj [("e", .ofInt 5)]] counts :=
  aggregate_days rfl rfl rfl (by decide)

end Search

end Polystore
