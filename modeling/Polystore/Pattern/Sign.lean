import Polystore.Text.Basic

/-!
# Signs

The characters of a pattern's notation, each with or without its special meaning, and the switches
that change how they are read.
-/

namespace Polystore.Pattern

/-! ## Escapes -/

/-- The characters with a meaning of their own in a pattern. -/
def special : List Char :=
  ['\\', '.', '+', '*', '?', '(', ')', '|', '[', ']', '\x7b', '\x7d', '^', '$', '#', '&', '-', '~']

/-- A character of the notation: `plain` tells that it stands for itself. -/
structure Sign where
  char : Char
  plain : Bool
  deriving DecidableEq

/-- The signs of a pattern.  A backslash disappears and makes the next special character plain; one
at the end is dropped. -/
def signs : List Char → List Sign
  | [] => []
  | '\\' :: c :: cs => ⟨c, special.contains c⟩ :: signs cs
  | '\\' :: [] => []
  | c :: cs => ⟨c, false⟩ :: signs cs

/-- Is it this character with its special meaning? -/
def Sign.is (s : Sign) (c : Char) : Bool := s.char == c && !s.plain

/-- Does the notation go on with this character? -/
def startsWith (c : Char) : List Sign → Bool
  | s :: _ => s.is c
  | [] => false

/-- What is left after a word, if the notation goes on with it. -/
def dropWord? : List Char → List Sign → Option (List Sign)
  | [], ss => some ss
  | c :: cs, s :: ss => if s.is c then dropWord? cs ss else none
  | _ :: _, [] => none

/-! ## Switches -/

/-- How a part of a pattern is read. -/
structure Switches where
  /-- Letters match their case variants. -/
  anyCase : Bool
  /-- `^` and `$` match at every line. -/
  lines : Bool
  /-- `.` matches the end of a line. -/
  dotAll : Bool
  /-- A carriage return ends a line. -/
  returns : Bool
  /-- Sets hold any characters, not only the first 128. -/
  unicode : Bool
  /-- Blanks and comments are skipped. -/
  spaced : Bool
  deriving DecidableEq

namespace Switches

/-- The switches at the start of a pattern. -/
def initial : Switches := ⟨false, false, false, false, true, false⟩

/-- Turns a switch on or off; the letter `U` changes only which of several matches is preferred. -/
def turn (w : Switches) (letter : Char) (on : Bool) : Switches :=
  match letter with
  | 'i' => { w with anyCase := on }
  | 'm' => { w with lines := on }
  | 's' => { w with dotAll := on }
  | 'R' => { w with returns := on }
  | 'u' => { w with unicode := on }
  | 'x' => { w with spaced := on }
  | _ => w

/-- Turns switches by their letters; those after a hyphen are turned off. -/
def turnAll (w : Switches) (letters : List Char) : Switches :=
  let on := letters.takeWhile (· ≠ '-')
  let off := (letters.dropWhile (· ≠ '-')).drop 1
  off.foldl (fun w c => w.turn c false) (on.foldl (fun w c => w.turn c true) w)

end Switches

/-- The letters of switches up to a colon or a closing parenthesis, with what is left.  No letter
comes twice, and a hyphen is followed by a letter. -/
def readLetters (ss : List Sign) : Option (List Char × List Sign) :=
  let inside := fun (s : Sign) => !(s.is ':' || s.is ')')
  let letters := (ss.takeWhile inside).map Sign.char
  if (ss.takeWhile inside).all (fun s => !s.plain && (s.is '-' || "imsURux".toList.contains s.char))
      && decide letters.Nodup && letters.getLast? ≠ some '-' then
    some (letters, ss.dropWhile inside)
  else none

/-! ## Blanks -/

/-- Is the sign a blank? -/
def Sign.isSpace (s : Sign) : Bool := Text.isSpace s.char

/-- Drops a comment up to the end of its line. -/
def dropComment : List Sign → List Sign
  | [] => []
  | s :: ss => if s.char = '\n' then ss else dropComment ss

/-- Drops blanks and comments; `n` bounds the number of comments. -/
def dropBlanks : Nat → List Sign → List Sign
  | 0, ss => ss
  | n + 1, ss =>
    match ss.dropWhile Sign.isSpace with
    | s :: rest => if s.is '#' then dropBlanks n (dropComment rest) else s :: rest
    | [] => []

/-- Drops blanks and comments where the switches say so. -/
def skip (w : Switches) (ss : List Sign) : List Sign :=
  if w.spaced then dropBlanks (ss.length + 1) ss else ss

end Polystore.Pattern
