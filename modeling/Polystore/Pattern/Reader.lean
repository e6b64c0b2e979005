import Polystore.Pattern.Room
import Polystore.Pattern.SetReader
import Polystore.Text.Letters

/-!
# Reading patterns

The notation: a character stands for itself, `.` for any character but the end of a line, `[…]`
for a set, `( )` groups, `|` chooses, `*`, `+`, `?` and counts in braces repeat, `^` and `$` stand
for the ends of the text.  A group can have a name, and can turn switches for what it holds;
switches alone in parentheses hold up to the end of the group around them.  A backslash takes its
special meaning from the next character.

`ofNotation?` wraps the pattern in `^(?:` and `)$` before it is read, so that it has to match the
whole text; a pattern whose own parentheses close that group is read accordingly.  Patterns that are
nested too deeply or that take too much room are refused.
-/

namespace Polystore.Pattern

/-! ## Parts -/

/-- A part of a pattern with the depth of its notation.  Switches are a part that cannot be
repeated. -/
structure Part where
  pattern : Pattern
  depth : Nat
  repeatable : Bool

namespace Part

/-- A part without parts. -/
def leaf (p : Pattern) : Part := ⟨p, 0, true⟩

/-- Parts in a row, the last one first; more than one of them count as a level of their own. -/
def row : List Part → Part
  | [] => leaf empty
  | [p] => p
  | ps =>
    ⟨ps.foldl (fun q p => p.pattern.andThen q) empty, ps.foldl (fun d p => max d p.depth) 0 + 1,
      true⟩

end Part

/-- The alternatives that a pattern consists of. -/
def choices : Pattern → List Pattern
  | alt p q => choices p ++ choices q
  | p => [p]

/-- The set of a pattern that is one. -/
def asSet? : Pattern → Option CharSet
  | chars s => some s
  | _ => none

/-- Alternatives as one pattern.  Single characters are put together to a set, and so are sets of
more characters. -/
def oneOf (ps : List Pattern) : Pattern :=
  let ps := ps.flatMap choices
  let sets := ps.filterMap asSet?
  if sets.length = ps.length &&
      (sets.all (·.only?.isSome) || sets.all (·.only?.isNone)) then
    chars (sets.foldl .union .empty)
  else
    match ps.reverse with
    | [] => chars .empty
    | q :: qs => qs.foldl (fun q p => alt p q) q

/-! ## Levels -/

/-- A group that is being read: its finished alternatives and the parts of the one being read, each
the last one first; the switches to return to after it; and whether it is remembered. -/
structure Level where
  finished : List Part
  parts : List Part
  after : Switches
  remembered : Bool

namespace Level

/-- Adds a part. -/
def add (l : Level) (p : Part) : Level := { l with parts := p :: l.parts }

/-- Finishes an alternative. -/
def bar (l : Level) : Level := { l with finished := .row l.parts :: l.finished, parts := [] }

/-- All that was read; alternatives count as a level of their own. -/
def content (l : Level) : Part :=
  match l.finished with
  | [] => .row l.parts
  | ps =>
    let ps := .row l.parts :: ps
    ⟨oneOf (ps.reverse.map Part.pattern), ps.foldl (fun d p => max d p.depth) 0 + 1, true⟩

/-- The group as a part. -/
def group (l : Level) : Part :=
  let p := l.content
  ⟨if l.remembered then capture p.pattern else p.pattern, p.depth + 1, true⟩

/-- Repeats the last part. -/
def repeatLast? (l : Level) (low : Nat) (high : Option Nat) : Option Level :=
  match l.parts with
  | p :: ps =>
    if p.repeatable then
      some { l with parts := ⟨p.pattern.repeated low high, p.depth + 1, true⟩ :: ps }
    else none
  | [] => none

end Level

/-- What was read of a pattern: the group being read, the groups around it, the nearest one first,
the switches, and the names given to groups. -/
structure Progress where
  level : Level
  outer : List Level
  switches : Switches
  names : List String

/-! ## Repetitions -/

/-- The greatest count. -/
def maxCount : Nat := 4294967295

/-- Digits from the start of the notation. -/
def readDigits (w : Switches) : Nat → List Sign → List Char × List Sign
  | 0, ss => ([], ss)
  | _ + 1, [] => ([], [])
  | n + 1, s :: ss =>
    if s.char.isDigit then
      let (ds, rest) := readDigits w n (skip w ss)
      (s.char :: ds, rest)
    else ([], s :: ss)

/-- A count, which may have blanks around it. -/
def readCount (w : Switches) (ss : List Sign) : Option (Nat × List Sign) :=
  let (ds, rest) := readDigits w (ss.length + 1) (ss.dropWhile Sign.isSpace)
  let n := ds.foldl (fun n d => 10 * n + (d.toNat - 48)) 0
  if ds = [] || maxCount < n then none
  else
    some (n, if (rest.head?.map Sign.isSpace).getD false then skip w (rest.dropWhile Sign.isSpace)
      else rest)

/-- A repetition in braces after the opening brace. -/
def readBraces (w : Switches) (ss : List Sign) : Option ((Nat × Option Nat) × List Sign) := do
  let (low, ss) ← readCount w (skip w ss)
  if startsWith ',' ss then
    let ss := skip w (ss.drop 1)
    if startsWith '\x7d' ss then return ((low, none), ss.drop 1)
    else
      let (high, ss) ← readCount w ss
      if startsWith '\x7d' ss && low ≤ high then return ((low, some high), ss.drop 1) else none
  else if startsWith '\x7d' ss then return ((low, some low), ss.drop 1)
  else none

/-- Drops the question mark that makes a repetition prefer fewer turns; what matches is the
same. -/
def dropLazy (ss : List Sign) : List Sign := if startsWith '?' ss then ss.drop 1 else ss

/-! ## Groups -/

/-- The name of a group, up to the bracket that ends it. -/
def readName (names : List String) (ss : List Sign) : Option (String × List Sign) := do
  let name := ss.takeWhile fun s => !s.is '>'
  let rest ← dropWord? ['>'] (ss.drop name.length)
  let first ← name.head?
  let inside := fun (s : Sign) =>
    ['_', '.', '[', ']'].contains s.char || Text.isAlphanumeric s.char
  let text := String.ofList (name.map Sign.char)
  if name.all (fun s => !s.plain && inside s) && (first.char == '_' || Text.isAlphabetic first.char)
      && !names.contains text then
    return (text, rest)
  else none

/-- The progress after an opening parenthesis, with what is left. -/
def openGroup (st : Progress) (ss : List Sign) : Option (Progress × List Sign) :=
  let enter := fun (remembered : Bool) (switches : Switches) (names : List String) =>
    ({ level := ⟨[], [], st.switches, remembered⟩, outer := st.level :: st.outer,
       switches := switches, names := names } : Progress)
  let ss := skip st.switches ss
  if ["?=", "?!", "?<=", "?<!"].any fun word => (dropWord? word.toList ss).isSome then none
  else
    match (dropWord? ['?', 'P', '<'] ss).or (dropWord? ['?', '<'] ss), dropWord? ['?'] ss with
    | some ss, _ => do
      let (name, ss) ← readName st.names ss
      return (enter true st.switches (name :: st.names), ss)
    | none, some ss => do
      let (letters, ss) ← readLetters ss
      let switches := st.switches.turnAll letters
      if startsWith ':' ss then return (enter false switches st.names, ss.drop 1)
      else if startsWith ')' ss && !letters.isEmpty then
        return ({ st with switches := switches, level := st.level.add ⟨empty, 0, false⟩ },
          ss.drop 1)
      else none
    | none, none => some (enter true st.switches st.names, ss)

/-- The progress after a closing parenthesis. -/
def closeGroup (st : Progress) : Option Progress :=
  match st.outer with
  | l :: outer =>
    some { st with level := l.add st.level.group, outer := outer, switches := st.level.after }
  | [] => none

/-! ## Reading -/

/-- The pattern of a character that stands for itself. -/
def letter (w : Switches) (c : Char) : Pattern := chars (foldCase w (.single c))

/-- The characters that a dot stands for. -/
def dot (w : Switches) : CharSet :=
  if w.dotAll then .all else if w.returns then .notReturn else .notNewline

/-- The progress after the part that starts with a sign, with what is left. -/
def readPart (st : Progress) (s : Sign) (ss : List Sign) : Option (Progress × List Sign) :=
  let w := st.switches
  let add := fun (p : Part) (ss : List Sign) => some ({ st with level := st.level.add p }, ss)
  let again := fun (low : Nat) (high : Option Nat) (ss : List Sign) =>
    (st.level.repeatLast? low high).map fun l => ({ st with level := l }, dropLazy ss)
  if s.plain then add (.leaf (letter w s.char)) ss
  else
    match s.char with
    | '(' => openGroup st ss
    | ')' => (closeGroup st).map (·, ss)
    | '|' => some ({ st with level := st.level.bar }, ss)
    | '[' => (readSet w ss).bind fun (m, rest) => add ⟨chars m.set, m.depth, true⟩ rest
    | '?' => again 0 (some 1) ss
    | '*' => again 0 none ss
    | '+' => again 1 none ss
    | '\x7b' => (readBraces w ss).bind fun ((low, high), rest) => again low high (skip w rest)
    | '.' => if w.unicode then add (.leaf (chars (dot w))) ss else none
    | '^' => add (.leaf (edge (if w.lines then .lineStart w.returns else .textStart))) ss
    | '$' => add (.leaf (edge (if w.lines then .lineEnd w.returns else .textEnd))) ss
    | c => add (.leaf (letter w c)) ss

/-- Reads a pattern to its end.  Each part has at least one sign, so `n` signs are enough for as
many parts. -/
def readParts : Nat → Progress → List Sign → Option Progress
  | 0, _, _ => none
  | n + 1, st, ss =>
    match skip st.switches ss with
    | [] => some st
    | s :: rest =>
      match readPart st s rest with
      | some (st, rest) => readParts n st rest
      | none => none

/-- The greatest depth of a notation. -/
def maxDepth : Nat := 250

/-- The signs of a notation, which has to match the whole text. -/
def wrapped (source : String) : List Sign :=
  (['^', '(', '?', ':'].map (⟨·, false⟩)) ++ signs source.toList ++ ([')', '$'].map (⟨·, false⟩))

/-- The pattern of a notation, which has to match the whole text. -/
def ofNotation? (source : String) : Option Pattern := do
  let ss := wrapped source
  let st ← readParts (ss.length + 1) ⟨⟨[], [], .initial, false⟩, [], .initial, []⟩ ss
  let p := st.level.content
  if st.outer.isEmpty && p.depth ≤ maxDepth && p.pattern.hasRoom then some p.pattern else none

/-! ## Examples -/

example : (ofNotation? "b\x7b2\x7d.*").map (·.occursIn "bbx".toList) = some true := by
  decide +kernel
example : (ofNotation? "ann|bob").map (·.occursIn "annbob".toList) = some false := by
  decide +kernel
example : ofNotation? "*a" = none := by decide +kernel
example : ofNotation? "a)" = none := by decide +kernel
example : (ofNotation? "[a-z&&[^m]]+").map (·.occursIn "alm".toList) = some false := by
  decide +kernel

end Polystore.Pattern
