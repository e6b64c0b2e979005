/-!
# Sets of characters

A set of characters is a list of ranges of code points in increasing order, with a gap between
any two of them.  The operations keep that form, so that the number of ranges of a set does not
depend on how it was put together.
-/

namespace Polystore

/-- A set of characters as ranges of code points. -/
structure CharSet where
  ranges : List (Nat × Nat)
  deriving DecidableEq

namespace CharSet

/-! ## Building -/

/-- Does the set hold a character? -/
def holds (s : CharSet) (c : Char) : Bool := s.ranges.any fun r => r.1 ≤ c.toNat && c.toNat ≤ r.2

/-- The set without characters. -/
def empty : CharSet := ⟨[]⟩

/-- The characters from one to another. -/
def range (a b : Char) : CharSet := ⟨[(a.toNat, b.toNat)]⟩

/-- The set of one character. -/
def single (c : Char) : CharSet := range c c

/-- Adds a range; ranges that meet it or lie next to it become part of it. -/
def insertRange (a b : Nat) : List (Nat × Nat) → List (Nat × Nat)
  | [] => [(a, b)]
  | r :: rs =>
    if b + 1 < r.1 then (a, b) :: r :: rs
    else if r.2 + 1 < a then r :: insertRange a b rs
    else insertRange (min a r.1) (max b r.2) rs

/-- The characters of either set. -/
def union (s t : CharSet) : CharSet :=
  ⟨t.ranges.foldl (fun rs r => insertRange r.1 r.2 rs) s.ranges⟩

/-- The greatest code point. -/
def top : Nat := 0x10FFFF

/-- What lies between ranges, from a code point on. -/
def gaps (start : Nat) : List (Nat × Nat) → List (Nat × Nat)
  | [] => if start ≤ top then [(start, top)] else []
  | r :: rs => if start < r.1 then (start, r.1 - 1) :: gaps (r.2 + 1) rs else gaps (r.2 + 1) rs

/-- The characters outside of a set. -/
def complement (s : CharSet) : CharSet := ⟨gaps 0 s.ranges⟩

/-- The characters of both sets. -/
def inter (s t : CharSet) : CharSet := (s.complement.union t.complement).complement

/-- The characters of the first set that are not in the second. -/
def diff (s t : CharSet) : CharSet := s.inter t.complement

/-- The characters of exactly one of two sets. -/
def symmDiff (s t : CharSet) : CharSet := (s.diff t).union (t.diff s)

/-- All characters. -/
def all : CharSet := ⟨[(0, top)]⟩

/-- Every character but the end of a line. -/
def notNewline : CharSet := (single '\n').complement

/-- Every character but the two that can end a line. -/
def notReturn : CharSet := ((single '\n').union (single '\r')).complement

/-- The set with all variants of its letters, for letters given with the one that stands for
them. -/
def withVariants (variants : List (Char × Char)) (s : CharSet) : CharSet :=
  let standing := (variants.filter fun v => s.holds v.1).foldl (fun t v => t.union (single v.2)) s
  (variants.filter fun v => standing.holds v.2).foldl (fun t v => t.union (single v.1)) standing

/-! ## Views -/

/-- The character of a set that holds just one. -/
def only? (s : CharSet) : Option Nat :=
  match s.ranges with
  | [(a, b)] => if a = b then some a else none
  | _ => none

/-- Does the set hold no characters beyond U+007F? -/
def isAscii (s : CharSet) : Bool := s.ranges.all fun r => r.2 < 128

/-! ## Lemmas -/

theorem holds_range (a b c : Char) :
    (range a b).holds c = (decide (a.toNat ≤ c.toNat) && decide (c.toNat ≤ b.toNat)) := by
  simp [range, holds]

/-- Adding a range adds its code points and no others. -/
theorem any_insertRange (a b n : Nat) (h : a ≤ b) (rs : List (Nat × Nat))
    (hr : ∀ r ∈ rs, r.1 ≤ r.2) :
    ((insertRange a b rs).any fun r => r.1 ≤ n && n ≤ r.2) =
      ((decide (a ≤ n) && decide (n ≤ b)) || rs.any fun r => r.1 ≤ n && n ≤ r.2) := by
  induction rs generalizing a b with
  | nil => simp [insertRange]
  | cons r rs ih =>
    have hr' : ∀ x ∈ rs, x.1 ≤ x.2 := fun x hx => hr x (List.mem_cons_of_mem _ hx)
    have hle : r.1 ≤ r.2 := hr r List.mem_cons_self
    unfold insertRange
    split
    · simp
    · split
      · simp only [List.any_cons, ih a b h hr']
        ac_rfl
      · rw [ih _ _ (by omega) hr', List.any_cons, ← Bool.or_assoc]
        congr 1
        rw [Bool.eq_iff_iff]
        simp only [Bool.or_eq_true, Bool.and_eq_true, decide_eq_true_eq]
        omega

end CharSet

end Polystore
