import Polystore.Json.Basic
import Polystore.Decimal.Shortest

/-!
# JSON text

A value on one line, without blanks between its parts.
-/

namespace Polystore

/-- The text of a number: plain digits for a whole number, the shortest decimal for a double. -/
def Number.text : Number → String
  | .int i => toString i
  | .double x => x.text

namespace Json

/-- A character inside a quoted text. -/
def escape (c : Char) : List Char :=
  if c = '"' then ['\\', '"']
  else if c = '\\' then ['\\', '\\']
  else if c.toNat < 32 then
    ['\\', 'u', '0', '0', Nat.digitChar (c.toNat / 16), Nat.digitChar (c.toNat % 16)]
  else [c]

/-- A text in quotes. -/
def quote (s : String) : String := String.ofList ('"' :: s.toList.flatMap escape ++ ['"'])

mutual

/-- The text of a value. -/
def text : Json → String
  | .null => "null"
  | .bool b => if b then "true" else "false"
  | .num n => n.text
  | .str s => quote s
  | .arr items => "[" ++ ",".intercalate (itemTexts items) ++ "]"
  | .obj fields => "\x7b" ++ ",".intercalate (fieldTexts fields) ++ "\x7d"

def itemTexts : List Json → List String
  | [] => []
  | x :: xs => text x :: itemTexts xs

def fieldTexts : List (String × Json) → List String
  | [] => []
  | (k, v) :: fs => (quote k ++ ":" ++ text v) :: fieldTexts fs

end

end Json

end Polystore
