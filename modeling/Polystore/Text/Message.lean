import Polystore.Text.Table.Printable

/-!
# Texts in messages

How messages show texts and spans of time.

A text stands between quotes, and every character in it can be seen: quotes, backslashes and the
common controls are written with a backslash and a letter, and what has no visible form of its own
with its code point.

A span is written as years, months, days, hours, minutes, seconds and milliseconds, the largest
first and zero parts left out.  A year is 365.25 days and a month 30.44 days.
-/

namespace Polystore

namespace Text

/-- A code point in hexadecimal digits. -/
def codePoint (c : Char) : List Char :=
  '\\' :: 'u' :: '\x7b' :: Nat.toDigits 16 c.toNat ++ ['\x7d']

/-- One character between quotes. -/
def quotedChar (c : Char) : List Char :=
  match c with
  | '\x00' => ['\\', '0']
  | '\t' => ['\\', 't']
  | '\r' => ['\\', 'r']
  | '\n' => ['\\', 'n']
  | '"' => ['\\', '"']
  | '\\' => ['\\', '\\']
  | c =>
    if Table.graphemeExtend.holds c || Table.unprintable.holds c then codePoint c else [c]

/-- The text between quotes. -/
def quoted (s : String) : String :=
  String.ofList ('"' :: s.toList.flatMap quotedChar ++ ['"'])

end Text

namespace Time

/-- One part of a span with a unit that is written in full. -/
def namedPart (n : Nat) (unit : String) : List String :=
  if n = 0 then [] else [toString n ++ unit ++ (if n = 1 then "" else "s")]

/-- One part of a span with the letter of its unit. -/
def letterPart (n : Nat) (unit : String) : List String :=
  if n = 0 then [] else [toString n ++ unit]

/-- The text of a span of milliseconds. -/
def spanText (ms : Nat) : String :=
  if ms = 0 then "0s"
  else
    let secs := ms / 1000
    let yearRest := secs % 31557600
    let monthRest := yearRest % 2630016
    let dayRest := monthRest % 86400
    " ".intercalate
      (namedPart (secs / 31557600) "year" ++ namedPart (yearRest / 2630016) "month" ++
        namedPart (monthRest / 86400) "day" ++ letterPart (dayRest / 3600) "h" ++
        letterPart (dayRest % 3600 / 60) "m" ++ letterPart (dayRest % 60) "s" ++
        letterPart (ms % 1000) "ms")

end Time

end Polystore
