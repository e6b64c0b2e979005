import Polystore.Text.Basic
import Polystore.Time.Day

/-!
# Time stamps

Reading an instant from a text, and writing it.  A text is either a date
with a time and an offset (RFC 3339) or a date alone, which stands for its first instant in UTC.
Instants are milliseconds since 1970.
-/

namespace Polystore.Time

/-! ## Parts -/

/-- The number of a run of digits. -/
def natOfDigits (ds : List Char) : Nat := ds.foldl (fun n d => 10 * n + (d.toNat - 48)) 0

/-- Exactly `n` digits. -/
def digits? (n : Nat) (cs : List Char) : Option (Nat × List Char) :=
  let ds := cs.take n
  if ds.length = n ∧ ds.all Char.isDigit then some (natOfDigits ds, cs.drop n) else none

/-- At least one digit and at most `n` of them. -/
def digitsUpTo? (n : Nat) (cs : List Char) : Option (Nat × List Char) :=
  let ds := (cs.take n).takeWhile Char.isDigit
  if ds = [] then none else some (natOfDigits ds, cs.drop ds.length)

/-- One character of a set. -/
def oneOf? (set : List Char) : List Char → Option (List Char)
  | c :: cs => if c ∈ set then some cs else none
  | [] => none

/-! ## Date with time and offset -/

/-- The milliseconds of a fraction of a second, which may be absent. -/
def fraction? : List Char → Option (Nat × List Char)
  | '.' :: cs =>
    let ds := cs.takeWhile Char.isDigit
    if ds = [] then none
    else some (natOfDigits ((ds ++ ['0', '0']).take 3), cs.drop ds.length)
  | cs => some (0, cs)

/-- The minutes of an offset from UTC. -/
def offset? : List Char → Option (Int × List Char)
  | [] => none
  | c :: cs =>
    if c = 'Z' ∨ c = 'z' then some (0, cs)
    else if c = '+' ∨ c = '-' ∨ c = '−' then do
      let (h, cs) ← digits? 2 cs
      let cs ← oneOf? [':'] cs
      let (m, cs) ← digits? 2 cs
      if h ≤ 23 ∧ m ≤ 59 then
        let minutes : Int := 60 * h + m
        some (if c = '+' then minutes else -minutes, cs)
      else none
    else none

/-- A date with time and offset; a `T`, a `t` or a blank stands between date and time.  Second 60
counts as the last second of its minute plus one more. -/
def dateTime? (s : String) : Option Int := do
  let (year, cs) ← digits? 4 s.toList
  let cs ← oneOf? ['-'] cs
  let (month, cs) ← digits? 2 cs
  let cs ← oneOf? ['-'] cs
  let (day, cs) ← digits? 2 cs
  let cs ← oneOf? ['T', 't', ' '] cs
  let (hour, cs) ← digits? 2 cs
  let cs ← oneOf? [':'] cs
  let (minute, cs) ← digits? 2 cs
  let cs ← oneOf? [':'] cs
  let (second, cs) ← digits? 2 cs
  let (millis, cs) ← fraction? cs
  let (offset, cs) ← offset? cs
  let date : Date := ⟨year, month, day⟩
  if cs = [] ∧ date.isReal ∧ hour ≤ 23 ∧ minute ≤ 59 ∧ second ≤ 60 then
    some (date.toDays * dayMillis +
      ((60 * ((60 * hour + minute : Nat) - offset) + second) * 1000 + millis))
  else none

/-! ## Date alone -/

/-- White space may stand before each number of a date. -/
def skipSpace (cs : List Char) : List Char := cs.dropWhile Text.isSpace

/-- A year: up to four digits, or any number of them after a sign. -/
def year? (cs : List Char) : Option (Int × List Char) :=
  match cs with
  | '-' :: cs => (digitsUpTo? cs.length cs).map fun r => (-(r.1 : Int), r.2)
  | '+' :: cs => (digitsUpTo? cs.length cs).map fun r => ((r.1 : Int), r.2)
  | cs => (digitsUpTo? 4 cs).map fun r => ((r.1 : Int), r.2)

/-- A date alone; month and day may have one digit. -/
def date? (s : String) : Option Date := do
  let (year, cs) ← year? (skipSpace s.toList)
  let cs ← oneOf? ['-'] cs
  let (month, cs) ← digitsUpTo? 2 (skipSpace cs)
  let cs ← oneOf? ['-'] cs
  let (day, cs) ← digitsUpTo? 2 (skipSpace cs)
  let date : Date := ⟨year, month, day⟩
  if cs = [] ∧ date.isReal then some date else none

/-- The instant that a text stands for. -/
def millis? (s : String) : Option Int :=
  match dateTime? s with
  | some ms => some ms
  | none => (date? s).map fun d => d.toDays * dayMillis

/-! ## Writing -/

/-- A number with zeros before it, up to a width. -/
def padded (width n : Nat) : String :=
  let ds := Nat.toDigits 10 n
  String.ofList (List.replicate (width - ds.length) '0' ++ ds)

/-- A year in four digits; one that needs more, or lies before year 0, carries its sign. -/
def yearText (y : Int) : String :=
  if 0 ≤ y ∧ y < 10000 then padded 4 y.toNat
  else (if y < 0 then "-" else "+") ++ padded 4 y.natAbs

/-- The time of day of a number of milliseconds since midnight. -/
def timeText (ms : Nat) : String :=
  padded 2 (ms / 3600000) ++ ":" ++ padded 2 (ms / 60000 % 60) ++ ":" ++
    padded 2 (ms / 1000 % 60) ++ "." ++ padded 3 (ms % 1000)

/-- An instant in UTC; instants outside the calendar have no text. -/
def instantText (ms : Int) : String :=
  let d := Date.ofDays (dayOfMillis ms)
  if d.isReal then
    yearText d.year ++ "-" ++ padded 2 d.month ++ "-" ++ padded 2 d.day ++ "T" ++
      timeText (ms - dayOfMillis ms * dayMillis).toNat ++ "Z"
  else ""

end Polystore.Time
