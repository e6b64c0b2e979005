import Polystore.Pattern.CharSet

/-!
# Patterns

Regular expressions over characters, and the positions of a text that they lead to.

A set of positions is a list of marks, one for each gap between the characters of the text and one
for each end.  `reach p` takes the positions where a match may start to those where it may end.
Repetitions stop as soon as a further turn changes nothing, so that no pattern is slow.
-/

namespace Polystore

/-- A place in a text that is told by the characters before and after it. -/
inductive Edge where
  | textStart
  | textEnd
  /-- After the end of a line; `returns` tells that a carriage return ends a line too. -/
  | lineStart (returns : Bool)
  | lineEnd (returns : Bool)
  deriving DecidableEq

/-- Is the place between two characters, either of which may be missing, such a place? -/
def Edge.holds : Edge → Option Char → Option Char → Bool
  | textStart, before, _ => before.isNone
  | textEnd, _, after => after.isNone
  | lineStart returns, before, after =>
    before.isNone || before == some '\n' ||
      (returns && before == some '\r' && after != some '\n')
  | lineEnd returns, before, after =>
    after.isNone || (returns && after == some '\r') ||
      (after == some '\n' && !(returns && before == some '\r'))

/-- A regular expression. -/
inductive Pattern where
  | empty
  | chars (set : CharSet)
  | edge (e : Edge)
  | seq (p q : Pattern)
  | alt (p q : Pattern)
  /-- At least `low` times and at most `high` times; without `high` any number of times. -/
  | rep (p : Pattern) (low : Nat) (high : Option Nat)
  /-- A part that is remembered; it matches what the part matches. -/
  | capture (p : Pattern)
  deriving DecidableEq

namespace Pattern

/-! ## Matching -/

/-- Positions in a text: a mark before each character and one at the end. -/
abbrev Marks := List Bool

/-- The positions in either set. -/
def union (a b : Marks) : Marks := a.zipWith (· || ·) b

/-- One character further, where the character belongs to the set. -/
def advance (set : CharSet) (text : List Char) (m : Marks) : Marks :=
  false :: m.zipWith (fun b c => b && set.holds c) text

/-- The positions of a text, each as the characters before and after it. -/
def places (before : Option Char) : List Char → List (Option Char × Option Char)
  | [] => [(before, none)]
  | c :: cs => (before, some c) :: places (some c) cs

/-- The positions that are such places. -/
def atEdge (e : Edge) (text : List Char) (m : Marks) : Marks :=
  m.zipWith (fun b p => b && e.holds p.1 p.2) (places none text)

/-- A step repeated `n` times. -/
def power (f : Marks → Marks) : Nat → Marks → Marks
  | 0, m => m
  | n + 1, m =>
    let next := f m
    if next = m then m else power f n next

/-- A step repeated up to `n` times, with all positions on the way. -/
def closure (f : Marks → Marks) : Nat → Marks → Marks
  | 0, m => m
  | n + 1, m =>
    let next := union m (f m)
    if next = m then m else closure f n next

/-- The positions where a match that starts at a marked position may end. -/
def reach (text : List Char) : Pattern → Marks → Marks
  | empty, m => m
  | chars set, m => advance set text m
  | edge e, m => atEdge e text m
  | seq p q, m => reach text q (reach text p m)
  | alt p q, m => union (reach text p m) (reach text q m)
  | rep p low high, m =>
    closure (reach text p) ((high.map (· - low)).getD text.length) (power (reach text p) low m)
  | capture p, m => reach text p m

/-- Does the pattern match some part of the text? -/
def occursIn (p : Pattern) (text : List Char) : Bool :=
  (reach text p (List.replicate (text.length + 1) true)).any id

/-! ## Building -/

/-- One pattern after the other; the empty pattern leaves no trace. -/
def andThen (p q : Pattern) : Pattern :=
  if p = empty then q else if q = empty then p else seq p q

/-- Does the pattern match without reading characters only? -/
def isVoid : Pattern → Bool
  | empty | edge _ => true
  | chars _ => false
  | seq p q | alt p q => p.isVoid && q.isVoid
  | rep p _ _ | capture p => p.isVoid

/-- A pattern repeated.  To repeat what reads no characters more than once has no effect. -/
def repeated (p : Pattern) (low : Nat) (high : Option Nat) : Pattern :=
  let low := if p.isVoid then min low 1 else low
  let high := if p.isVoid then some (min (high.getD 1) 1) else high
  if high = some 0 then empty
  else if low = 1 ∧ high = some 1 then p
  else rep p low high

/-! ## Lemmas -/

/-- A step that changes nothing can be repeated at will. -/
theorem power_of_eq {f : Marks → Marks} {m : Marks} (h : f m = m) (n : Nat) : power f n m = m := by
  cases n with
  | zero => rfl
  | succ n => simp [power, h]

theorem power_succ (f : Marks → Marks) (n : Nat) (m : Marks) :
    power f (n + 1) m = power f n (f m) := by
  by_cases h : f m = m
  · simp [power, h, power_of_eq h]
  · simp [power, h]

end Pattern

end Polystore
