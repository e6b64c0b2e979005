import Polystore.Assoc
import Polystore.Decimal.Binary64

/-!
# JSON values

Whole numbers and doubles are different values, and objects keep the order of their keys.

Two values are the same (`Json.same`) if they agree up to the order of keys; a whole number is
never the same as a double, and the two zeros of a double are.  The order of scalars
(`Json.compare?`) looks at the nearest double of both numbers instead, so it takes numbers that
round alike for equal.

Merging a patch into an object (`Json.mergeFields`) keeps the keys that the patch does not name,
merges object into object under the keys that both have, and lets the patch win everywhere else.
Keys of the object keep their places; new keys follow in the order of the patch.
-/

namespace Polystore

/-- A JSON number: a whole number, or a double. -/
inductive Number where
  | int (i : Int)
  | double (x : Decimal.Binary64)
  deriving DecidableEq

/-- A JSON value. -/
inductive Json where
  | null
  | bool (b : Bool)
  | num (n : Number)
  | str (s : String)
  | arr (items : List Json)
  | obj (fields : List (String × Json))

/-- The fields of an object in order; a row, a document or a set of values to write. -/
abbrev Record := List (String × Json)

/-! ## Numbers -/

namespace Number

/-- The order of the double nearest to the number. -/
def order : Number → Int
  | .int i => Decimal.orderOfInt i
  | .double x => x.order

/-- Are the numbers of one kind and of one value? -/
def same : Number → Number → Bool
  | .int i, .int j => i == j
  | .double x, .double y => x.order == y.order
  | _, _ => false

/-- The number as a signed 64-bit integer. -/
def asI64? : Number → Option Int
  | .int i => if -(Decimal.twoTo 63 : Int) ≤ i ∧ i < Decimal.twoTo 63 then some i else none
  | .double _ => none

/-- The number as an unsigned 64-bit integer. -/
def asU64? : Number → Option Nat
  | .int i => if 0 ≤ i ∧ i < Decimal.twoTo 64 then some i.toNat else none
  | .double _ => none

/-- The nearest machine number. -/
def toFloat : Number → Float
  | .int i => ((Decimal.nearestInt? i).getD Decimal.Binary64.zero).toFloat
  | .double x => x.toFloat

end Number

namespace Json

instance : Inhabited Json := ⟨.null⟩

/-- A natural number as a value. -/
def ofNat (n : Nat) : Json := .num (.int n)

/-- A whole number as a value. -/
def ofInt (i : Int) : Json := .num (.int i)

/-- A list of texts as a value. -/
def ofStrings (l : List String) : Json := .arr (l.map .str)

/-- A machine number as a value; what is not finite has none and becomes `null`. -/
def ofFloat (f : Float) : Json :=
  match Decimal.Binary64.ofFloat? f with
  | some x => .num (.double x)
  | none => .null

/-- A value or `null`. -/
def ofOption {α : Type} (f : α → Json) : Option α → Json
  | some a => f a
  | none => .null

/-! ## Parts -/

def isNull : Json → Bool
  | .null => true
  | _ => false

def isObject : Json → Bool
  | .obj _ => true
  | _ => false

/-- Strings, numbers and booleans are the values that can be bound as one term. -/
def isScalar : Json → Bool
  | .str _ | .num _ | .bool _ => true
  | _ => false

def str? : Json → Option String
  | .str s => some s
  | _ => none

def bool? : Json → Option Bool
  | .bool b => some b
  | _ => none

def arr? : Json → Option (List Json)
  | .arr items => some items
  | _ => none

def obj? : Json → Option Record
  | .obj fields => some fields
  | _ => none

def i64? : Json → Option Int
  | .num n => n.asI64?
  | _ => none

def u64? : Json → Option Nat
  | .num n => n.asU64?
  | _ => none

/-- The value of a key; what is no object has none. -/
def get? (key : String) : Json → Option Json
  | .obj fields => Assoc.find? key fields
  | _ => none

/-! ## Equality and order -/

mutual

/-- Are the values the same up to the order of keys? -/
def same : Json → Json → Bool
  | .null, .null => true
  | .bool a, .bool b => a == b
  | .num m, .num n => m.same n
  | .str s, .str t => s == t
  | .arr xs, .arr ys => sameItems xs ys
  | .obj fs, .obj gs => fs.length == gs.length && sameFields fs gs
  | _, _ => false

/-- Are the lists the same, item by item? -/
def sameItems : List Json → List Json → Bool
  | [], [] => true
  | x :: xs, y :: ys => same x y && sameItems xs ys
  | _, _ => false

/-- Does the second object hold the same value under every key of the first? -/
def sameFields : List (String × Json) → List (String × Json) → Bool
  | [], _ => true
  | (k, v) :: fs, gs =>
    (match Assoc.find? k gs with
      | some w => same v w
      | none => false) && sameFields fs gs

end

/-- Does the list hold a value that is the same as `v`? -/
def isAmong (v : Json) (items : List Json) : Bool := items.any fun x => same x v

/-- The order of two scalars of one kind; scalars of different kinds and other values have no
order. -/
def compare? : Json → Json → Option Ordering
  | .num m, .num n => some (compare m.order n.order)
  | .str s, .str t => some (compare s t)
  | .bool a, .bool b => some (compare a b)
  | _, _ => none

/-! ## Deep merge -/

mutual

/-- The object with the patch merged into it. -/
def mergeFields (target : List (String × Json)) : List (String × Json) → List (String × Json)
  | [] => target
  | (k, v) :: patch => mergeFields (Assoc.put k (mergeValue (Assoc.find? k target) v) target) patch

/-- What stands under a key after the merge, given what stood there before. -/
def mergeValue (old : Option Json) : Json → Json
  | .obj patch =>
    match old with
    | some (.obj fields) => .obj (mergeFields fields patch)
    | _ => .obj patch
  | v => v

end

end Json

end Polystore
