import Polystore.Json.Basic

/-!
# Reading JSON text

A reader takes the characters that are left and answers a value with what is left after it, or
nothing if the text is malformed.  Each
nested value costs one unit of `depth`, which starts at the length of the text and so never runs
out before the text does.

A number with a fraction or an exponent, and `-0`, is a double; one without is a whole number if
it fits 64 bits, signed or unsigned, and a double otherwise.  A key that is repeated keeps its
first place and its last value.
-/

namespace Polystore.Json

/-- The blanks that may stand between the parts. -/
def isBlankChar (c : Char) : Bool := c = ' ' || c = '\n' || c = '\t' || c = '\r'

def skipBlanks (cs : List Char) : List Char := cs.dropWhile isBlankChar

/-! ## Numbers -/

/-- The number that a run of digits stands for. -/
def natOfDigits (ds : List Char) : Nat := ds.foldl (fun n d => 10 * n + (d.toNat - 48)) 0

/-- The sign and the digits of an exponent. -/
def readExponent : List Char → Option (Int × List Char)
  | e :: cs =>
    if e = 'e' ∨ e = 'E' then
      let signed : Bool × List Char := match cs with
        | '+' :: r => (false, r)
        | '-' :: r => (true, r)
        | r => (false, r)
      let ds := signed.2.takeWhile Char.isDigit
      if ds = [] then none
      else
        let n : Int := natOfDigits ds
        some (if signed.1 then -n else n, signed.2.dropWhile Char.isDigit)
    else some (0, e :: cs)
  | [] => some (0, [])

/-- The number of a literal's parts. -/
def ofLiteral? (negative : Bool) (whole fraction : List Char) (exponent : Int) (plain : Bool) :
    Option Number :=
  let m := natOfDigits (whole ++ fraction)
  let double := (Decimal.nearestDecimal? negative m (exponent - fraction.length)).map Number.double
  if plain then
    let i : Int := if negative then -(m : Int) else m
    if negative && m == 0 then double
    else if -(Decimal.twoTo 63 : Int) ≤ i ∧ i < Decimal.twoTo 64 then some (.int i)
    else double
  else double

/-- A number. -/
def readNumber (cs : List Char) : Option (Number × List Char) := do
  let signed : Bool × List Char := match cs with
    | '-' :: r => (true, r)
    | r => (false, r)
  let whole := signed.2.takeWhile Char.isDigit
  let cs := signed.2.dropWhile Char.isDigit
  if whole = [] ∨ (whole.head? = some '0' ∧ whole.length ≠ 1) then none
  else
    let fraction : List Char × List Char × Bool := match cs with
      | '.' :: r => (r.takeWhile Char.isDigit, r.dropWhile Char.isDigit, true)
      | r => ([], r, false)
    if fraction.2.2 ∧ fraction.1 = [] then none
    else
      let (e, rest) ← readExponent fraction.2.1
      let plain := !fraction.2.2 && rest.length == fraction.2.1.length
      let n ← ofLiteral? signed.1 whole fraction.1 e plain
      some (n, rest)

/-! ## Texts -/

/-- The value of a hexadecimal digit. -/
def hexValue? (c : Char) : Option Nat :=
  if c.isDigit then some (c.toNat - 48)
  else if 'a' ≤ c ∧ c ≤ 'f' then some (c.toNat - 87)
  else if 'A' ≤ c ∧ c ≤ 'F' then some (c.toNat - 55)
  else none

/-- Four hexadecimal digits. -/
def readHex4 : List Char → Option (Nat × List Char)
  | a :: b :: c :: d :: cs => do
    let a ← hexValue? a
    let b ← hexValue? b
    let c ← hexValue? c
    let d ← hexValue? d
    some (((a * 16 + b) * 16 + c) * 16 + d, cs)
  | _ => none

/-- The character that an escape with one letter stands for. -/
def simpleEscape? (c : Char) : Option Char :=
  match c with
  | '"' => some '"'
  | '\\' => some '\\'
  | '/' => some '/'
  | 'b' => some '\x08'
  | 'f' => some '\x0c'
  | 'n' => some '\n'
  | 'r' => some '\r'
  | 't' => some '\t'
  | _ => none

/-- What follows a backslash: one character, written as one escape or as a pair of surrogates. -/
def readEscape : List Char → Option (Char × List Char)
  | 'u' :: cs => do
    let (high, cs) ← readHex4 cs
    if 0xD800 ≤ high ∧ high < 0xDC00 then
      match cs with
      | '\\' :: 'u' :: cs =>
        let (low, cs) ← readHex4 cs
        if 0xDC00 ≤ low ∧ low < 0xE000 then
          some (Char.ofNat (0x10000 + (high - 0xD800) * 0x400 + (low - 0xDC00)), cs)
        else none
      | _ => none
    else if 0xDC00 ≤ high ∧ high < 0xE000 then none
    else some (Char.ofNat high, cs)
  | c :: cs => (simpleEscape? c).map (·, cs)
  | [] => none

/-- The rest of a quoted text after its opening quote; `acc` holds what was read, in reverse. -/
def readQuoted : Nat → List Char → List Char → Option (String × List Char)
  | 0, _, _ => none
  | _ + 1, _, [] => none
  | n + 1, acc, c :: cs =>
    if c = '"' then some (String.ofList acc.reverse, cs)
    else if c = '\\' then
      match readEscape cs with
      | some (c, cs) => readQuoted n (c :: acc) cs
      | none => none
    else if c.toNat < 32 then none
    else readQuoted n (c :: acc) cs

/-! ## Values -/

/-- Drops a fixed word. -/
def dropWord (w : List Char) (cs : List Char) : Option (List Char) :=
  if cs.take w.length = w then some (cs.drop w.length) else none

mutual

/-- A value, after any blanks. -/
def readValue : Nat → List Char → Option (Json × List Char)
  | 0, _ => none
  | n + 1, cs =>
    match skipBlanks cs with
    | [] => none
    | '"' :: cs => (readQuoted cs.length.succ [] cs).map fun r => (.str r.1, r.2)
    | '[' :: cs =>
      match skipBlanks cs with
      | ']' :: cs => some (.arr [], cs)
      | cs => (readItems n [] cs).map fun r => (.arr r.1, r.2)
    | '\x7b' :: cs =>
      match skipBlanks cs with
      | '\x7d' :: cs => some (.obj [], cs)
      | cs => (readFields n [] cs).map fun r => (.obj r.1, r.2)
    | 'n' :: cs => (dropWord ['u', 'l', 'l'] cs).map (.null, ·)
    | 't' :: cs => (dropWord ['r', 'u', 'e'] cs).map (.bool true, ·)
    | 'f' :: cs => (dropWord ['a', 'l', 's', 'e'] cs).map (.bool false, ·)
    | cs => (readNumber cs).map fun r => (.num r.1, r.2)

/-- The items of a list from a value on; `acc` holds those before it, in reverse. -/
def readItems : Nat → List Json → List Char → Option ((List Json) × List Char)
  | 0, _, _ => none
  | n + 1, acc, cs =>
    match readValue n cs with
    | none => none
    | some (v, cs) =>
      match skipBlanks cs with
      | ',' :: cs => readItems n (v :: acc) cs
      | ']' :: cs => some ((v :: acc).reverse, cs)
      | _ => none

/-- The fields of an object from a key on, put into those before it. -/
def readFields : Nat → Record → List Char → Option (Record × List Char)
  | 0, _, _ => none
  | n + 1, acc, cs =>
    match skipBlanks cs with
    | '"' :: cs =>
      match readQuoted cs.length.succ [] cs with
      | none => none
      | some (k, cs) =>
        match skipBlanks cs with
        | ':' :: cs =>
          match readValue n cs with
          | none => none
          | some (v, cs) =>
            match skipBlanks cs with
            | ',' :: cs => readFields n (Assoc.put k v acc) cs
            | '\x7d' :: cs => some (Assoc.put k v acc, cs)
            | _ => none
        | _ => none
    | _ => none

end

/-- The value of a whole text. -/
def read? (s : String) : Option Json :=
  let cs := s.toList
  match readValue (2 * cs.length + 2) cs with
  | some (v, rest) => if (skipBlanks rest).isEmpty then some v else none
  | none => none

end Polystore.Json
