import Polystore.Proofs.Pattern.Ending
import Polystore.Proofs.Pattern.Matching

/-!
# What the pattern for the end of a text matches

The pattern that tests the end of a text skips characters of one line and then takes the tested
text.  It does not skip the end of a line, and of the tested text `^` and `$` are no characters but
the ends of the whole text:

    (ending text).occursIn cs = endsLike true text.toList cs                (occursIn_ending)

A text without these two is tested as it stands: it has to be what comes after the skipped part.
-/

namespace Polystore

/-! ## Sets of characters -/

namespace CharSet

theorem holds_single (c d : Char) : (single c).holds d = true ↔ d = c := by
  rw [single, holds_range, Bool.and_eq_true, decide_eq_true_iff, decide_eq_true_iff]
  constructor
  · intro h
    have heq : d.toNat = c.toNat := by omega
    exact Char.toNat_inj.1 heq
  · rintro rfl
    exact ⟨Nat.le_refl _, Nat.le_refl _⟩

theorem holds_notNewline (c : Char) : notNewline.holds c = true ↔ c ≠ '\n' := by
  have hranges : notNewline = ⟨[(0, 9), (11, 0x10FFFF)]⟩ := by decide
  have htop : c.toNat < 0x110000 := by
    have hvalid : c.toNat < 0xD800 ∨ 0xDFFF < c.toNat ∧ c.toNat < 0x110000 := c.valid
    omega
  have hnewline : c ≠ '\n' ↔ c.toNat ≠ 10 := by
    rw [ne_eq, ← Char.toNat_inj]
    rfl
  rw [hranges, holds, hnewline, List.any_cons, List.any_cons, List.any_nil, Bool.or_false,
    Bool.or_eq_true, Bool.and_eq_true, Bool.and_eq_true, decide_eq_true_iff, decide_eq_true_iff,
    decide_eq_true_iff, decide_eq_true_iff]
  omega

end CharSet

namespace Pattern

/-! ## Meaning of the parts -/

/-- Is the rest of a text what an escaped text asks for?  The rest starts the whole text if `start`
is true; `^` asks for that, `$` for the end, any other character for itself. -/
def fitsEnd (start : Bool) : List Char → List Char → Bool
  | [], rest => rest.isEmpty
  | c :: cs, rest =>
    if c = '^' then start && fitsEnd start cs rest
    else if c = '$' then rest.isEmpty && fitsEnd start cs rest
    else
      match rest with
      | [] => false
      | d :: rest => d == c && fitsEnd false cs rest

/-- Does the rest after some characters of one line fit?  The rest starts the whole text if `start`
is true. -/
def endsLike (start : Bool) (cs : List Char) : List Char → Bool
  | [] => fitsEnd start cs []
  | d :: rest => fitsEnd start cs (d :: rest) || (d != '\n' && endsLike false cs rest)

theorem fitsEnd_cons (start : Bool) (c : Char) (cs rest : List Char) :
    fitsEnd start (c :: cs) rest =
      if c = '^' then start && fitsEnd start cs rest
      else if c = '$' then rest.isEmpty && fitsEnd start cs rest
      else
        match rest with
        | [] => false
        | d :: rest => d == c && fitsEnd false cs rest := by
  cases rest <;> rfl

theorem fitsEnd_of_plain {cs : List Char} (h : ∀ c ∈ cs, c ≠ '^' ∧ c ≠ '$') (start : Bool)
    (rest : List Char) : fitsEnd start cs rest = true ↔ rest = cs := by
  induction cs generalizing start rest with
  | nil => exact List.isEmpty_iff
  | cons c cs ih =>
    obtain ⟨⟨hstart, hend⟩, hcs⟩ := List.forall_mem_cons.1 h
    rw [fitsEnd_cons, if_neg hstart, if_neg hend]
    cases rest with
    | nil => simp
    | cons d rest => simp [ih hcs]

theorem endsLike_iff (start : Bool) (cs text : List Char) :
    endsLike start cs text = true ↔
      ∃ before rest, text = before ++ rest ∧ '\n' ∉ before ∧
        fitsEnd (start && before.isEmpty) cs rest = true := by
  induction text generalizing start with
  | nil =>
    rw [endsLike]
    constructor
    · intro h
      exact ⟨[], [], rfl, by simp, by simpa using h⟩
    · rintro ⟨before, rest, he, -, h⟩
      obtain ⟨rfl, rfl⟩ := List.append_eq_nil_iff.1 he.symm
      simpa using h
  | cons d text ih =>
    rw [endsLike, Bool.or_eq_true, Bool.and_eq_true, ih]
    constructor
    · rintro (h | ⟨hd, before, rest, rfl, hn, h⟩)
      · exact ⟨[], d :: text, rfl, by simp, by simpa using h⟩
      · refine ⟨d :: before, rest, rfl, ?_, by simpa using h⟩
        rw [List.mem_cons, not_or]
        exact ⟨fun he => by simp [← he] at hd, hn⟩
    · rintro ⟨before, rest, he, hn, h⟩
      cases before with
      | nil =>
        obtain rfl : d :: text = rest := he
        exact .inl (by simpa using h)
      | cons e before =>
        obtain ⟨rfl, rfl⟩ := List.cons.inj he
        rw [List.mem_cons, not_or] at hn
        exact .inr ⟨by simpa using Ne.symm hn.1, before, rest, rfl, hn.2, by simpa using h⟩

/-- A text of plain characters is tested as it stands. -/
theorem endsLike_of_plain {cs : List Char} (h : ∀ c ∈ cs, c ≠ '^' ∧ c ≠ '$') (text : List Char) :
    endsLike true cs text = true ↔ ∃ before, text = before ++ cs ∧ '\n' ∉ before := by
  rw [endsLike_iff]
  constructor
  · rintro ⟨before, rest, rfl, hn, hfit⟩
    rw [fitsEnd_of_plain h] at hfit
    exact ⟨before, by rw [hfit], hn⟩
  · rintro ⟨before, rfl, hn⟩
    exact ⟨before, cs, rfl, hn, (fitsEnd_of_plain h _ _).2 rfl⟩

/-! ## Matches of the parts -/

section
variable {text : List Char} {i j : Nat}

theorem matches_andThen (p q : Pattern) :
    Matches text (p.andThen q) i j ↔ ∃ x, Matches text p i x ∧ Matches text q x j := by
  unfold andThen
  by_cases hp : p = empty
  · rw [if_pos hp, hp]
    constructor
    · exact fun h => ⟨i, rfl, h⟩
    · rintro ⟨x, rfl, h⟩
      exact h
  · rw [if_neg hp]
    by_cases hq : q = empty
    · rw [if_pos hq, hq]
      constructor
      · exact fun h => ⟨j, h, rfl⟩
      · rintro ⟨x, h, rfl⟩
        exact h
    · rw [if_neg hq]
      exact Iff.rfl

theorem matches_textStart (hi : i ≤ text.length) :
    Matches text (edge .textStart) i j ↔ i = j ∧ i = 0 := by
  show (i = j ∧ (charBefore text i).isNone = true) ↔ _
  refine and_congr_right fun _ => ?_
  rw [charBefore]
  by_cases h : i = 0
  · simp [h]
  · rw [if_neg h, Option.isNone_iff_eq_none, List.getElem?_eq_none_iff]
    omega

theorem matches_textEnd (hi : i ≤ text.length) :
    Matches text (edge .textEnd) i j ↔ i = j ∧ i = text.length := by
  show (i = j ∧ (text[i]?).isNone = true) ↔ _
  refine and_congr_right fun _ => ?_
  rw [Option.isNone_iff_eq_none, List.getElem?_eq_none_iff]
  omega

/-- The skipped part has no end of a line. -/
theorem matches_anything (hi : i ≤ text.length) :
    Matches text anything i j ↔
      i ≤ j ∧ j ≤ text.length ∧ ∀ k, i ≤ k → k < j → text[k]? ≠ some '\n' := by
  have hany : Matches text anything i j ↔
      ∃ k, Steps (Matches text (chars .notNewline)) k i j := by
    show (∃ k, (∀ h ∈ (none : Option Nat), k ≤ h - 0) ∧ Steps _ (0 + k) i j) ↔ _
    simp only [Nat.zero_add, Option.not_mem_none, false_imp_iff, implies_true, true_and]
  rw [hany]
  constructor
  · rintro ⟨k, h⟩
    clear hany
    induction k generalizing i with
    | zero =>
      obtain rfl : i = j := h
      exact ⟨Nat.le_refl i, hi, fun k hk hk' => by omega⟩
    | succ k ih =>
      obtain ⟨x, ⟨rfl, c, hc, hset⟩, h⟩ := h
      have hlt : i < text.length := (List.getElem?_eq_some_iff.1 hc).1
      obtain ⟨hle, hj, hrest⟩ := ih hlt h
      refine ⟨by omega, hj, fun m hm hm' => ?_⟩
      by_cases he : m = i
      · rw [he, hc]
        exact fun h => (CharSet.holds_notNewline c).1 hset (Option.some.inj h)
      · exact hrest m (by omega) hm'
  · rintro ⟨hle, hj, hrest⟩
    obtain ⟨k, rfl⟩ := Nat.exists_eq_add_of_le hle
    refine ⟨k, ?_⟩
    clear hany hle
    induction k generalizing i with
    | zero => rfl
    | succ k ih =>
      have hlt : i < text.length := by omega
      have hi' : text[i]? = some text[i] := List.getElem?_eq_getElem hlt
      refine ⟨i + 1, ⟨rfl, text[i], hi', ?_⟩, ?_⟩
      · rw [CharSet.holds_notNewline]
        intro hc
        exact hrest i (Nat.le_refl i) (by omega) (by rw [hi', hc])
      · have hsplit : i + (k + 1) = i + 1 + k := by omega
        rw [hsplit] at hj hrest ⊢
        exact ih hlt hj fun m hm hm' => hrest m (by omega) hm'

/-- What is left of a text after a position. -/
theorem drop_of_getElem? {c : Char} (h : text[i]? = some c) :
    text.drop i = c :: text.drop (i + 1) := by
  obtain ⟨hlt, rfl⟩ := List.getElem?_eq_some_iff.1 h
  exact List.drop_eq_getElem_cons hlt

/-- The characters of an escaped text up to the end of the whole text. -/
theorem matches_escapedAll (cs : List Char) (hi : i ≤ text.length) :
    Matches text (escapedAll cs) i text.length ↔
      fitsEnd (decide (i = 0)) cs (text.drop i) = true := by
  induction cs generalizing i with
  | nil =>
    show i = text.length ↔ (text.drop i).isEmpty = true
    rw [List.isEmpty_iff, List.drop_eq_nil_iff]
    omega
  | cons c cs ih =>
    have hcons : Matches text (escapedAll (c :: cs)) i text.length ↔
        ∃ x, Matches text (escaped c) i x ∧ Matches text (escapedAll cs) x text.length :=
      matches_andThen (escaped c) (escapedAll cs)
    rw [hcons, fitsEnd_cons, escaped]
    by_cases hstart : c = '^'
    · rw [if_pos hstart, if_pos hstart, Bool.and_eq_true, decide_eq_true_iff, ← ih hi]
      constructor
      · rintro ⟨x, hx, h⟩
        obtain ⟨rfl, h0⟩ := (matches_textStart hi).1 hx
        exact ⟨h0, h⟩
      · rintro ⟨h0, h⟩
        exact ⟨i, (matches_textStart hi).2 ⟨rfl, h0⟩, h⟩
    rw [if_neg hstart, if_neg hstart]
    by_cases hend : c = '$'
    · have hempty : (text.drop i).isEmpty = true ↔ i = text.length := by
        rw [List.isEmpty_iff, List.drop_eq_nil_iff]
        omega
      rw [if_pos hend, if_pos hend, Bool.and_eq_true, hempty, ← ih hi]
      constructor
      · rintro ⟨x, hx, h⟩
        obtain ⟨rfl, hl⟩ := (matches_textEnd hi).1 hx
        exact ⟨hl, h⟩
      · rintro ⟨hl, h⟩
        exact ⟨i, (matches_textEnd hi).2 ⟨rfl, hl⟩, h⟩
    rw [if_neg hend, if_neg hend]
    constructor
    · rintro ⟨x, ⟨rfl, d, hd, hset⟩, h⟩
      obtain rfl := (CharSet.holds_single c d).1 hset
      have hlt : i < text.length := (List.getElem?_eq_some_iff.1 hd).1
      rw [ih hlt] at h
      rw [drop_of_getElem? hd]
      simpa using h
    · intro h
      cases hd : text[i]? with
      | none =>
        rw [List.getElem?_eq_none_iff] at hd
        rw [List.drop_eq_nil_of_le hd] at h
        cases h
      | some d =>
        have hlt : i < text.length := (List.getElem?_eq_some_iff.1 hd).1
        rw [drop_of_getElem? hd] at h
        simp only [Bool.and_eq_true, beq_iff_eq] at h
        obtain ⟨rfl, h⟩ := h
        refine ⟨i + 1, ⟨rfl, d, hd, (CharSet.holds_single d d).2 rfl⟩, ?_⟩
        rw [ih hlt]
        simpa using h

end

/-! ## The pattern for the end of a text -/

/-- The skipped part told by the position after it. -/
theorem endsLike_iff_exists_position (cs text : List Char) :
    endsLike true cs text = true ↔
      ∃ k ≤ text.length, (∀ m < k, text[m]? ≠ some '\n') ∧
        fitsEnd (decide (k = 0)) cs (text.drop k) = true := by
  rw [endsLike_iff]
  constructor
  · rintro ⟨before, rest, rfl, hn, h⟩
    refine ⟨before.length, by simp, fun m hm hget => ?_, ?_⟩
    · rw [List.getElem?_append_left hm] at hget
      exact hn (List.mem_of_getElem? hget)
    · have hstart : decide (before.length = 0) = (true && before.isEmpty) := by
        cases before <;> rfl
      rw [List.drop_left, hstart]
      exact h
  · rintro ⟨k, hk, hn, h⟩
    refine ⟨text.take k, text.drop k, (List.take_append_drop k text).symm, fun hm => ?_, ?_⟩
    · obtain ⟨m, hget⟩ := List.getElem?_of_mem hm
      have hlt : m < k := by
        have hm := (List.getElem?_eq_some_iff.1 hget).1
        rw [List.length_take] at hm
        omega
      rw [List.getElem?_take_of_lt hlt] at hget
      exact hn m hlt hget
    · have hstart : (true && (text.take k).isEmpty) = decide (k = 0) := by
        rw [Bool.true_and, Bool.eq_iff_iff, List.isEmpty_iff, decide_eq_true_iff,
          ← List.length_eq_zero_iff, List.length_take]
        omega
      rw [hstart]
      exact h

theorem occursIn_ending (text : String) (cs : List Char) :
    (ending text).occursIn cs = endsLike true text.toList cs := by
  rw [Bool.eq_iff_iff, occursIn_iff, endsLike_iff_exists_position, ending]
  simp only [matches_andThen]
  constructor
  · rintro ⟨i, j, hi, x, hx, y, ⟨k, hk, hy⟩, hj⟩
    obtain ⟨rfl, rfl⟩ := (matches_textStart hi).1 hx
    obtain ⟨-, hlen, hn⟩ := (matches_anything hi).1 hk
    obtain ⟨-, rfl⟩ := (matches_textEnd (hy.le_length hlen)).1 hj
    exact ⟨k, hlen, fun m hm => hn m (Nat.zero_le m) hm, (matches_escapedAll _ hlen).1 hy⟩
  · rintro ⟨k, hlen, hn, hfit⟩
    refine ⟨0, cs.length, Nat.zero_le _, 0, (matches_textStart (Nat.zero_le _)).2 ⟨rfl, rfl⟩,
      cs.length, ⟨k, ?_, ?_⟩, (matches_textEnd (Nat.le_refl _)).2 ⟨rfl, rfl⟩⟩
    · exact (matches_anything (Nat.zero_le _)).2 ⟨Nat.zero_le k, hlen, fun m _ hm => hn m hm⟩
    · exact (matches_escapedAll _ hlen).2 hfit

end Pattern

end Polystore
