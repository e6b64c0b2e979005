import Polystore.Decimal.Binary64
import Polystore.Pattern.Basic

/-!
# Room of patterns

A pattern runs on a machine of states that read one byte of UTF-8 each, built once to read a text
forwards and once to read it backwards.  Neither machine may take more than a fixed room, so
patterns that repeat too much are refused.

A state takes 32 bytes.  A choice takes 4 bytes more for each way on, and a state that tells ranges
of bytes apart 8 bytes more for each of them.  Forwards, states from which the same bytes follow
are shared, and a remembered part takes two states more; backwards, states that the same bytes
lead to are shared.
-/

namespace Polystore

/-! ## Bytes of a set of characters -/

/-- A range of bytes, counted from the least one that can stand in its place. -/
abbrev ByteRange := Nat × Nat

/-- The numbers from `a` to `b` written with one place and `k` places below 64, as sequences of
ranges for the places. -/
def boxes : Nat → Nat → Nat → List (List ByteRange)
  | 0, a, b => [[(a, b)]]
  | k + 1, a, b =>
    let unit := Decimal.twoTo (6 * (k + 1))
    let x := a / unit
    let y := b / unit
    if x = y then (boxes k (a % unit) (b % unit)).map ((x, x) :: ·)
    else
      let below :=
        if a % unit = 0 then [] else (boxes k (a % unit) (unit - 1)).map ((x, x) :: ·)
      let above :=
        if b % unit = unit - 1 then [] else (boxes k 0 (b % unit)).map ((y, y) :: ·)
      let low := if below = [] then x else x + 1
      let high := if above = [] then y + 1 else y
      below ++ (if low < high then [(low, high - 1) :: List.replicate (k + 1) (0, 63)] else []) ++
        above

/-- The code points with one, two, three and four bytes: the number of bytes after the first, the
least and the greatest code point, and the first byte for the number zero. -/
def byteLengths : List (Nat × Nat × Nat × Nat) :=
  [(0, 0, 0x7F, 0), (1, 0x80, 0x7FF, 0xC0), (2, 0x800, 0xD7FF, 0xE0), (2, 0xE000, 0xFFFF, 0xE0),
   (3, 0x10000, 0x10FFFF, 0xF0)]

/-- The characters of a set as sequences of ranges of bytes. -/
def CharSet.sequences (s : CharSet) : List (List ByteRange) :=
  s.ranges.flatMap fun r => byteLengths.flatMap fun (k, least, greatest, lead) =>
    let a := max r.1 least
    let b := min r.2 greatest
    if a ≤ b then
      (boxes k a b).map fun
        | [] => []
        | x :: xs => (x.1 + lead, x.2 + lead) :: xs
    else []

/-- The ranges that sequences start with. -/
def firstRanges (seqs : List (List ByteRange)) : List ByteRange :=
  (seqs.filterMap List.head?).eraseDups

/-- What can follow in sequences: the sequences themselves, and what is left of them after each
beginning. -/
def followings : Nat → List (List ByteRange) → List (List (List ByteRange))
  | 0, _ => []
  | n + 1, seqs =>
    if seqs.any List.isEmpty then []
    else
      seqs :: (firstRanges seqs).flatMap fun r =>
        followings n (seqs.filterMap fun q => if q.head? = some r then some q.tail else none)

/-- All beginnings of sequences. -/
def beginnings (seqs : List (List ByteRange)) : List (List ByteRange) :=
  (seqs.flatMap fun q => (List.range q.length).map fun n => q.take (n + 1)).eraseDups

/-! ## Room -/

/-- The room of one state. -/
def stateRoom : Nat := 32

/-- The number of bytes of a code point. -/
def byteCount (n : Nat) : Nat :=
  if n < 0x80 then 1 else if n < 0x800 then 2 else if n < 0x10000 then 3 else 4

/-- The room of a set of characters. -/
def CharSet.room (backwards : Bool) (s : CharSet) : Nat :=
  match s.only? with
  | some n => byteCount n * stateRoom
  | none =>
    if s.isAscii then 2 * stateRoom + 8 * s.ranges.length
    else
      let seqs := s.sequences
      if backwards then
        (2 + (beginnings seqs).length) * stateRoom + 4 * seqs.length
      else
        (followings 5 seqs).eraseDups.foldl
          (fun n q => n + stateRoom + 8 * (firstRanges q).length) stateRoom

namespace Pattern

/-- Does every match read at least one character? -/
def reads : Pattern → Bool
  | chars s => s.ranges ≠ []
  | seq p q => p.reads || q.reads
  | alt p q => p.reads && q.reads
  | rep p low _ => low ≠ 0 && p.reads
  | capture p => p.reads
  | empty | edge _ => false

/-- The room of a repetition of what takes the room `r`. -/
def repeatRoom (r : Nat) (reads : Bool) (low : Nat) : Option Nat → Nat
  | none =>
    if low = 0 ∧ !reads then r + 3 * stateRoom + 16 else max low 1 * r + stateRoom + 8
  | some high =>
    if low = high then low * r
    else if low = 0 ∧ high = 1 then r + 2 * stateRoom + 8
    else (if low = 0 then stateRoom else low * r) + stateRoom + (high - low) * (r + stateRoom + 8)

/-- The room of a pattern.  Alternatives in a row share one choice and one end. -/
def room (backwards : Bool) : Pattern → Nat
  | empty | edge _ => stateRoom
  | chars s => s.room backwards
  | seq p q => room backwards p + room backwards q
  | alt p q =>
    room backwards p + 4 +
      match q with
      | alt _ _ => room backwards q
      | _ => room backwards q + 4 + 2 * stateRoom
  | rep p low high => repeatRoom (room backwards p) p.reads low high
  | capture p => room backwards p + if backwards then 0 else 2 * stateRoom

/-- The most room that a machine may take. -/
def maxRoom : Nat := 10 * 1024 * 1024

/-- Do both machines of a pattern have room?  Each has a start and an end, and the forward one
remembers the whole match. -/
def hasRoom (p : Pattern) : Bool :=
  p.room false + 4 * stateRoom ≤ maxRoom && p.room true + 2 * stateRoom ≤ maxRoom

end Pattern

/-! ## Examples -/

example : CharSet.notNewline.room false = 424 := by decide +kernel
example : CharSet.notNewline.room true = 1000 := by decide +kernel

end Polystore
