import Polystore.Text.Table.Alphanumeric
import Polystore.Text.Table.Case

/-!
# Letters

The full lower-casing of Unicode, without a locale.  A letter goes to its partner, with two
exceptions: a capital I with a dot becomes an i followed by a combining dot, and a capital sigma
becomes the final form where it ends a word.  It ends a word if the nearest neighbour before it
that counts is cased and the nearest one after it is not; neighbours marked as case-ignorable do
not count.

Letters that differ in case only form groups.  One letter of each group stands for the group:
`caseVariants` lists the others with it, so that two letters are variants of each other if they have
the same standing letter.

The words of a text are its longest runs of letters and numbers, each of them in lower case.
-/

namespace Polystore.Text

/-! ## Lower case -/

/-- The lower-case partner of a letter, or the character itself. -/
def lowerChar (c : Char) : Char :=
  if c.toNat < 128 then c.toLower
  else
    match Table.lowerRuns.find? fun r =>
        r.1 ≤ c.toNat && c.toNat ≤ r.2.1 && (c.toNat - r.1) % r.2.2.1 == 0 with
    | some r => Char.ofNat ((c.toNat : Int) + r.2.2.2).toNat
    | none => c

/-- Is the first character that counts a cased one? -/
def meetsCased (cs : List Char) : Bool :=
  match cs.dropWhile Table.caseIgnorable.holds with
  | c :: _ => Table.cased.holds c
  | [] => false

/-- Lower-cases a text whose part already passed is given in reverse. -/
def lowerAfter (passed : List Char) : List Char → List Char
  | [] => []
  | c :: cs =>
    (if c = 'Σ' then [if meetsCased passed && !meetsCased cs then 'ς' else 'σ']
     else if c = 'İ' then ['i', '\u0307']
     else [lowerChar c]) ++ lowerAfter (c :: passed) cs

/-- The text in lower case. -/
def lower (s : String) : String := String.ofList (lowerAfter [] s.toList)

/-- Are two texts equal but for the case of the letters A to Z? -/
def sameIgnoringAsciiCase (s t : String) : Bool :=
  s.toList.map Char.toLower == t.toList.map Char.toLower

/-! ## Variants of a letter -/

/-- Every letter that does not stand for its group, with the one that does. -/
def caseVariants : List (Char × Char) :=
  (Table.lowerRuns.flatMap fun r =>
    (List.range ((r.2.1 - r.1) / r.2.2.1 + 1)).map fun i =>
      let c := r.1 + i * r.2.2.1
      (Char.ofNat c, Char.ofNat ((c : Int) + r.2.2.2).toNat)) ++
  Table.variants.map fun v => (Char.ofNat v.1, Char.ofNat v.2)

/-- The letters A to Z with the letters a to z. -/
def asciiVariants : List (Char × Char) :=
  (List.range 26).map fun i => (Char.ofNat (65 + i), Char.ofNat (97 + i))

/-! ## Words -/

/-- Is the character a letter? -/
def isAlphabetic (c : Char) : Bool :=
  if c.toNat < 128 then c.isAlpha else Table.alphabetic.holds c

/-- Is the character a letter or a number? -/
def isAlphanumeric (c : Char) : Bool :=
  if c.toNat < 128 then c.isAlphanum else Table.alphabetic.holds c || Table.numeric.holds c

/-- The pieces between the characters that fail the test; `open?` is the piece being read, in
reverse. -/
def runsFrom (p : Char → Bool) (piece : List Char) : List Char → List (List Char)
  | [] => if piece = [] then [] else [piece.reverse]
  | c :: cs =>
    if p c then runsFrom p (c :: piece) cs
    else if piece = [] then runsFrom p [] cs
    else piece.reverse :: runsFrom p [] cs

/-- The words of a text, in lower case and in order. -/
def words (s : String) : List String :=
  (runsFrom isAlphanumeric [] s.toList).map fun w => lower (String.ofList w)

end Polystore.Text
