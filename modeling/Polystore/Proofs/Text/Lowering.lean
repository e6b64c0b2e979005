import Mathlib.Data.List.Basic
import Polystore.Search.Clause

/-!
# Lower case is lower case

Lower-casing a text that is in lower case already changes nothing.  A character is settled if it has
no partner in lower case and is neither of the two capitals with a rule of their own; whatever the
lower-casing writes is settled, and a text of settled characters stays as it is.

    lower (lower s) = lower s                                                    (lower_lower)
-/

namespace Polystore.Text

/-! ## Runs of letters -/

/-- The number is one of a run. -/
def inRun (n : Nat) (r : Nat × Nat × Nat × Int) : Bool :=
  r.1 ≤ n && n ≤ r.2.1 && (n - r.1) % r.2.2.1 == 0

/-- The partner of the first number of a run. -/
def firstPartner (r : Nat × Nat × Nat × Int) : Nat := ((r.1 : Int) + r.2.2.2).toNat

/-- The length of a run. -/
def runLength (r : Nat × Nat × Nat × Int) : Nat := (r.2.1 - r.1) / r.2.2.1 + 1

/-- The two capitals with a rule of their own and all that have a partner. -/
def capitals : List (Nat × Nat × Nat × Int) :=
  (0x130, 0x130, 1, 0) :: (0x3A3, 0x3A3, 1, 0) :: Table.lowerRuns

/-- None of a number of steps from a first number on, up to a last one, is in a run.  Mostly the
run lies beside all of them. -/
def missesRun (first last step count : Nat) (r : Nat × Nat × Nat × Int) : Bool :=
  Nat.blt r.2.1 first || (Nat.blt last r.1 ||
    (List.range count).all fun i => !inRun (first + i * step) r)

theorem not_inRun_of_missesRun {first last step count i : Nat} {r : Nat × Nat × Nat × Int}
    (h : missesRun first last step count r = true) (hi : i < count)
    (hl : first + i * step ≤ last) : inRun (first + i * step) r = false := by
  unfold missesRun at h
  rw [Bool.or_eq_true, Bool.or_eq_true, Nat.blt_eq, Nat.blt_eq] at h
  rcases h with h | h | h
  · rw [inRun, decide_eq_false (show ¬ first + i * step ≤ r.2.1 by omega), Bool.and_false,
      Bool.false_and]
  · rw [inRun, decide_eq_false (show ¬ r.1 ≤ first + i * step by omega), Bool.false_and,
      Bool.false_and]
  · simpa using List.all_eq_true.1 h i (List.mem_range.2 hi)

/-- The partners of a run are characters, and none of them is a capital. -/
theorem partners_of_run :
    ∀ r ∈ Table.lowerRuns,
      (0 ≤ (r.1 : Int) + r.2.2.2 ∧ 0 < r.2.2.1 ∧
        (firstPartner r + (r.2.1 - r.1) < 0xD800 ∨
          0xDFFF < firstPartner r ∧ firstPartner r + (r.2.1 - r.1) < 0x110000)) ∧
      capitals.all (missesRun (firstPartner r) (firstPartner r + (r.2.1 - r.1)) r.2.2.1
        (runLength r)) = true := by
  decide +kernel

/-! ## Settled characters -/

/-- The character stays as it is in lower case. -/
structure Settled (c : Char) : Prop where
  ne_sigma : c ≠ 'Σ'
  ne_dotted : c ≠ 'İ'
  lowerChar_eq : lowerChar c = c

theorem find?_eq_none_of_not_inRun {c : Char}
    (h : ∀ r ∈ Table.lowerRuns, inRun c.toNat r = false) :
    (Table.lowerRuns.find? fun r =>
      r.1 ≤ c.toNat && c.toNat ≤ r.2.1 && (c.toNat - r.1) % r.2.2.1 == 0) = none := by
  rw [List.find?_eq_none]
  intro r hr
  exact Bool.eq_false_iff.1 (h r hr)

theorem lowerChar_of_not_inRun {c : Char} (h : ∀ r ∈ Table.lowerRuns, inRun c.toNat r = false) :
    lowerChar c = c := by
  unfold lowerChar
  split
  · have hupper : ¬ (0x41 ≤ c.toNat ∧ c.toNat ≤ 0x5A) := by
      have hrun := h (0x41, 0x5A, 1, 32) List.mem_cons_self
      simpa [inRun, Nat.mod_one] using hrun
    exact dif_neg hupper
  · rw [find?_eq_none_of_not_inRun h]

/-- A character that is no capital is settled. -/
theorem settled_of_not_inRun {c : Char} (h : ∀ r ∈ capitals, inRun c.toNat r = false) :
    Settled c := by
  refine ⟨?_, ?_, lowerChar_of_not_inRun fun r hr => h r (by simp [capitals, hr])⟩
  · rintro rfl
    exact absurd (h (0x3A3, 0x3A3, 1, 0) (by simp [capitals])) (by decide)
  · rintro rfl
    exact absurd (h (0x130, 0x130, 1, 0) (by simp [capitals])) (by decide)

theorem toNat_ofNat {n : Nat} (h : n < 0xD800 ∨ 0xDFFF < n ∧ n < 0x110000) :
    (Char.ofNat n).toNat = n := by
  have hv : n.isValidChar := h
  unfold Char.ofNat
  rw [dif_pos hv]
  rfl

/-- The partner of a letter is settled. -/
theorem settled_partner {c : Char} {r : Nat × Nat × Nat × Int} (hr : r ∈ Table.lowerRuns)
    (hc : inRun c.toNat r = true) :
    Settled (Char.ofNat ((c.toNat : Int) + r.2.2.2).toNat) := by
  obtain ⟨⟨hpos, hstep, hvalid⟩, hmiss⟩ := partners_of_run r hr
  unfold inRun at hc
  simp only [Bool.and_eq_true, decide_eq_true_eq, beq_iff_eq] at hc
  obtain ⟨⟨hfirst, hlast⟩, hmod⟩ := hc
  obtain ⟨i, hi⟩ := Nat.dvd_of_mod_eq_zero hmod
  have hpartner : ((c.toNat : Int) + r.2.2.2).toNat = firstPartner r + i * r.2.2.1 := by
    rw [Nat.mul_comm] at hi
    unfold firstPartner
    omega
  have hle : firstPartner r + i * r.2.2.1 ≤ firstPartner r + (r.2.1 - r.1) := by
    rw [Nat.mul_comm, ← hi]
    omega
  have hcount : i < runLength r := by
    unfold runLength
    refine Nat.lt_succ_of_le ((Nat.le_div_iff_mul_le hstep).2 ?_)
    rw [Nat.mul_comm, ← hi]
    omega
  rw [hpartner]
  refine settled_of_not_inRun fun r' hr' => ?_
  rw [toNat_ofNat (by omega)]
  exact not_inRun_of_missesRun (List.all_eq_true.1 hmiss r' hr') hcount hle

theorem settled_toLower_ascii :
    ∀ n < 128, (Char.ofNat n).toLower ≠ 'Σ' ∧ (Char.ofNat n).toLower ≠ 'İ' ∧
      lowerChar (Char.ofNat n).toLower = (Char.ofNat n).toLower := by
  decide +kernel

/-- Every character goes to a settled one, but for the two capitals with a rule of their own. -/
theorem settled_lowerChar {c : Char} (hs : c ≠ 'Σ') (hd : c ≠ 'İ') : Settled (lowerChar c) := by
  by_cases hascii : c.toNat < 128
  · obtain ⟨hsigma, hdotted, heq⟩ := settled_toLower_ascii c.toNat hascii
    rw [Char.ofNat_toNat] at hsigma hdotted heq
    rw [lowerChar, if_pos hascii]
    exact ⟨hsigma, hdotted, heq⟩
  · by_cases hrun : ∀ r ∈ Table.lowerRuns, inRun c.toNat r = false
    · rw [lowerChar_of_not_inRun hrun]
      exact ⟨hs, hd, lowerChar_of_not_inRun hrun⟩
    · rw [lowerChar, if_neg hascii]
      split
      · next r hf =>
        exact settled_partner (List.mem_of_find?_eq_some hf) (List.find?_some hf)
      · next hf =>
        rw [List.find?_eq_none] at hf
        exact absurd (fun r hr => Bool.eq_false_iff.2 (hf r hr)) hrun

/-! ## Texts -/

/-- Lower-casing writes settled characters. -/
theorem settled_of_mem_lowerAfter {passed cs : List Char} {c : Char}
    (h : c ∈ lowerAfter passed cs) : Settled c := by
  induction cs generalizing passed with
  | nil => exact absurd h List.not_mem_nil
  | cons d cs ih =>
    rw [lowerAfter] at h
    rcases List.mem_append.1 h with h | h
    · split at h
      · rw [List.mem_singleton.1 h]
        split
        · exact settled_of_not_inRun (by decide +kernel)
        · exact settled_of_not_inRun (by decide +kernel)
      · next hs =>
        split at h
        · simp only [List.mem_cons, List.not_mem_nil, or_false] at h
          rcases h with rfl | rfl
          · exact settled_of_not_inRun (by decide +kernel)
          · exact settled_of_not_inRun (by decide +kernel)
        · next hd =>
          rw [List.mem_singleton.1 h]
          exact settled_lowerChar hs hd
    · exact ih h

theorem lowerAfter_of_settled {cs : List Char} (h : ∀ c ∈ cs, Settled c) (passed : List Char) :
    lowerAfter passed cs = cs := by
  induction cs generalizing passed with
  | nil => rfl
  | cons c cs ih =>
    obtain ⟨hc, hcs⟩ := List.forall_mem_cons.1 h
    rw [lowerAfter, if_neg hc.ne_sigma, if_neg hc.ne_dotted, hc.lowerChar_eq, ih hcs]
    rfl

/-- Lower-casing a text again changes nothing. -/
theorem lower_lower (s : String) : lower (lower s) = lower s := by
  unfold lower
  rw [String.toList_ofList, lowerAfter_of_settled fun c hc => settled_of_mem_lowerAfter hc]

end Polystore.Text

namespace Polystore.Json

theorem fold_fold (v : Json) : v.fold.fold = v.fold := by
  cases v with
  | str s => exact congrArg Json.str (Text.lower_lower s)
  | _ => rfl

end Polystore.Json
