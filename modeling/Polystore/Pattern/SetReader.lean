import Polystore.Pattern.CharSet
import Polystore.Pattern.Sign
import Polystore.Text.Letters

/-!
# Reading sets of characters

A set stands in brackets: characters, ranges, names such as `[:alpha:]` and further sets, which
are put together.  `&&`, `--` and `~~` take what was read so far with what follows: both, the first
without the second, and exactly one of them.  A circumflex after the bracket takes all other
characters.
-/

namespace Polystore.Pattern

/-! ## Members -/

/-- A set with the depth of the notation that it came from. -/
structure Member where
  set : CharSet
  depth : Nat

/-- How two sets are taken together. -/
inductive SetOperator where
  | both
  | without
  | either

namespace SetOperator

/-- The sign that stands for the operator when it is doubled. -/
def sign : SetOperator → Char
  | both => '&'
  | without => '-'
  | either => '~'

/-- Two sets taken together. -/
def apply : SetOperator → CharSet → CharSet → CharSet
  | both => CharSet.inter
  | without => CharSet.diff
  | either => CharSet.symmDiff

/-- The operator that the notation goes on with. -/
def read? (ss : List Sign) : Option (SetOperator × List Sign) :=
  [both, without, either].findSome? fun o => (dropWord? [o.sign, o.sign] ss).map fun r => (o, r)

end SetOperator

/-- The names of sets, with their ranges. -/
def namedSets : List (String × List (Char × Char)) :=
  [("alnum", [('0', '9'), ('A', 'Z'), ('a', 'z')]), ("alpha", [('A', 'Z'), ('a', 'z')]),
   ("ascii", [('\x00', '\x7F')]), ("blank", [('\t', '\t'), (' ', ' ')]),
   ("cntrl", [('\x00', '\x1F'), ('\x7F', '\x7F')]), ("digit", [('0', '9')]),
   ("graph", [('!', '~')]), ("lower", [('a', 'z')]), ("print", [(' ', '~')]),
   ("punct", [('!', '/'), (':', '@'), ('[', '\x60'), ('\x7b', '~')]),
   ("space", [('\t', '\r'), (' ', ' ')]), ("upper", [('A', 'Z')]),
   ("word", [('0', '9'), ('A', 'Z'), ('_', '_'), ('a', 'z')]),
   ("xdigit", [('0', '9'), ('A', 'F'), ('a', 'f')])]

/-- The set with the case variants of its letters, where case does not count. -/
def foldCase (w : Switches) (s : CharSet) : CharSet :=
  if w.anyCase then s.withVariants (if w.unicode then Text.caseVariants else Text.asciiVariants)
  else s

/-- The set as it was written or, if it is negated, all other characters.  Only sets of any
characters can be negated. -/
def close? (w : Switches) (negated : Bool) (s : CharSet) : Option CharSet :=
  if negated then if w.unicode then some (foldCase w s).complement else none
  else some (foldCase w s)

/-- A named set after its opening bracket: whether it is negated, and its ranges. -/
def readNamed? (ss : List Sign) : Option (Bool × CharSet × List Sign) := do
  let ss ← dropWord? [':'] ss
  let negated := startsWith '^' ss
  let ss := if negated then ss.drop 1 else ss
  let name := ss.takeWhile fun s => !s.is ':'
  let rest ← dropWord? [':', ']'] (ss.drop name.length)
  let ranges ← if name.all (!·.plain) then
      namedSets.lookup (String.ofList (name.map Sign.char))
    else none
  return (negated, ranges.foldl (fun s r => s.union (.range r.1 r.2)) .empty, rest)

/-! ## Levels -/

/-- A set that is being read: what stands before the last operator, and the members after it, the
last one first. -/
structure SetLevel where
  negated : Bool
  left : Option (SetOperator × Member)
  members : List Member

namespace SetLevel

/-- Adds a member. -/
def add (l : SetLevel) (m : Member) : SetLevel := { l with members := m :: l.members }

/-- The members as one; more than one of them count as a level of their own. -/
def gathered (l : SetLevel) : Member :=
  match l.members with
  | [m] => m
  | [] => ⟨.empty, 0⟩
  | ms =>
    ⟨ms.foldl (fun s m => s.union m.set) .empty, ms.foldl (fun d m => max d m.depth) 0 + 1⟩

/-- All that was read. -/
def content (w : Switches) (l : SetLevel) : Member :=
  match l.left with
  | none => l.gathered
  | some (o, m) =>
    ⟨o.apply (foldCase w m.set) (foldCase w l.gathered.set), max m.depth l.gathered.depth + 1⟩

/-- Takes what was read as the left side of an operator. -/
def operate (w : Switches) (l : SetLevel) (o : SetOperator) : SetLevel :=
  { l with left := some (o, l.content w), members := [] }

end SetLevel

/-! ## Reading -/

/-- Hyphens at the start of a set, which stand for themselves. -/
def readHyphens (w : Switches) : Nat → SetLevel → List Sign → SetLevel × List Sign
  | 0, l, ss => (l, ss)
  | n + 1, l, ss =>
    if startsWith '-' ss then readHyphens w n (l.add ⟨.single '-', 0⟩) (skip w (ss.drop 1))
    else (l, ss)

/-- The start of a set after its opening bracket.  A closing bracket that comes first stands for
itself. -/
def openSet (w : Switches) (ss : List Sign) : SetLevel × List Sign :=
  let ss := skip w ss
  let negated := startsWith '^' ss
  let ss := if negated then skip w (ss.drop 1) else ss
  let (l, ss) := readHyphens w (ss.length + 1) ⟨negated, none, []⟩ ss
  if l.members.isEmpty && startsWith ']' ss then (l.add ⟨.single ']', 0⟩, skip w (ss.drop 1))
  else (l, ss)

/-- The sign after a hyphen that decides whether the hyphen makes a range. -/
def signAfter? (w : Switches) (ss : List Sign) : Option Sign :=
  if w.spaced then
    match ss.dropWhile Sign.isSpace with
    | s :: rest => if s.is '#' then (rest.dropWhile Sign.isSpace).head? else some s
    | [] => none
  else ss.head?

/-- A character or a range, from its first sign on.  A hyphen before a closing bracket or before
another hyphen makes no range. -/
def readRange (w : Switches) (s : Sign) (ss : List Sign) : Option (CharSet × List Sign) :=
  let allowed := fun (c : Char) => w.unicode || c.toNat < 128
  let rest := skip w ss
  let ends := match signAfter? w (rest.drop 1) with
    | some e => e.is ']' || e.is '-'
    | none => false
  if startsWith '-' rest && !ends then
    match skip w (rest.drop 1) with
    | e :: rest =>
      if allowed s.char && allowed e.char && s.char ≤ e.char then
        some (.range s.char e.char, rest)
      else none
    | [] => none
  else if allowed s.char then some (.single s.char, rest)
  else none

/-- Reads a set to its closing bracket; `outer` are the sets around it, the nearest one first. -/
def readLevels (w : Switches) : Nat → SetLevel → List SetLevel → List Sign →
    Option (Member × List Sign)
  | 0, _, _, _ => none
  | n + 1, l, outer, ss =>
    match skip w ss with
    | [] => none
    | s :: rest =>
      if s.is ']' then
        match close? w l.negated (l.content w).set with
        | none => none
        | some set =>
          let m : Member := ⟨set, (l.content w).depth + 1⟩
          match outer with
          | [] => some (m, rest)
          | o :: outer => readLevels w n (o.add m) outer rest
      else if s.is '[' then
        match readNamed? rest with
        | some (negated, set, rest) =>
          match close? w negated set with
          | some set => readLevels w n (l.add ⟨set, 0⟩) outer rest
          | none => none
        | none =>
          let (inner, rest) := openSet w rest
          readLevels w n inner (l :: outer) rest
      else
        match SetOperator.read? (s :: rest) with
        | some (o, rest) => readLevels w n (l.operate w o) outer rest
        | none =>
          match readRange w s rest with
          | some (set, rest) => readLevels w n (l.add ⟨set, 0⟩) outer rest
          | none => none

/-- A set after its opening bracket. -/
def readSet (w : Switches) (ss : List Sign) : Option (Member × List Sign) :=
  let (l, rest) := openSet w ss
  readLevels w (ss.length + 1) l [] rest

end Polystore.Pattern
