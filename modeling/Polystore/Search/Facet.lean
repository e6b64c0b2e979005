import Polystore.Search.Score
import Polystore.Sorting
import Polystore.Time.Stamp

/-!
# Facets

Counting the values of a field over the documents that were found: by value, or by day.

By value, a document counts once for each different value it has; the values come with the
greatest counts first, those with equal counts in order of the value, and only the first of them
are listed.  By day, a document counts on the day of its first value that is an instant, and every
day between the first and the last is listed.

There is no answer if the values cannot be put in order, or if a day does not fit 64 bits.
-/

namespace Polystore

/-! ## By value -/

/-- Values without those that are the same as an earlier one. -/
def distinctFrom (seen : List Json) : List Json → List Json
  | [] => []
  | v :: vs => if v.isAmong seen then distinctFrom seen vs else v :: distinctFrom (v :: seen) vs

/-- The different values of a list, in order. -/
def distinct (vs : List Json) : List Json := distinctFrom [] vs

/-- Counts a value once more. -/
def countValue (v : Json) : List (Json × Nat) → List (Json × Nat)
  | [] => [(v, 1)]
  | (w, n) :: counts => if w.same v then (w, n + 1) :: counts else (w, n) :: countValue v counts

/-- In how many documents each value of a field occurs, in order of first occurrence. -/
def valueCounts (suffix field : String) (docs : List Json) : List (Json × Nat) :=
  (docs.flatMap fun d => distinct (fieldValues suffix field d)).foldl
    (fun counts v => countValue v counts) []

/-- Greater counts come first, then smaller values; values without an order are undecided. -/
def compareCounts (a b : Json × Nat) : Ordering :=
  (compare b.2 a.2).then ((a.1.compare? b.1).getD .eq)

/-- The values with the greatest counts, if they can be put in order. -/
def topValues? (suffix field : String) (size : Nat) (docs : List Json) :
    Option (List (Json × Nat)) :=
  (sortBy? compareCounts (valueCounts suffix field docs)).map fun counts => counts.take size

/-! ## By day -/

/-- The instant that a value stands for: a whole number of milliseconds, or a text. -/
def instantOf? : Json → Option Int
  | .num n => n.asI64?
  | .str s => Time.millis? s
  | _ => none

/-- The instant of a document: the first of its stored values that is one. -/
def documentInstant? (suffix field : String) (doc : Json) : Option Int :=
  (storedValues suffix field doc).findSome? instantOf?

/-- Is this a number of signed 64 bits? -/
def FitsI64 (i : Int) : Prop := -(Decimal.twoTo 63 : Int) ≤ i ∧ i < Decimal.twoTo 63

instance (i : Int) : Decidable (FitsI64 i) := inferInstanceAs (Decidable (_ ∧ _))

/-- The first instant of the day of an instant, if it fits 64 bits. -/
def dayStart? (ms : Int) : Option Int :=
  let day := Time.dayOfMillis ms * Time.dayMillis
  if FitsI64 day then some day else none

/-- The starts of the days of all documents that have an instant. -/
def dayStarts? (suffix field : String) (docs : List Json) : Option (List Int) :=
  (docs.filterMap (documentInstant? suffix field)).mapM dayStart?

/-- The days from `day` on, one after the other up to the last one, if the day after each of them
fits 64 bits. -/
def daysUpTo? (last day : Int) : Option (List Int) :=
  if day ≤ last then
    if FitsI64 (day + Time.dayMillis) then
      (daysUpTo? last (day + Time.dayMillis)).map fun days => day :: days
    else none
  else some []
termination_by (last + 1 - day).toNat
decreasing_by
  have : 0 < Time.dayMillis := by decide
  omega

/-- The days with the number of documents on each. -/
def dayCounts? (starts : List Int) : Option (List (Int × Nat)) :=
  match starts.min?, starts.max? with
  | some first, some last =>
    (daysUpTo? last first).map fun days => days.map fun d => (d, starts.countP (· == d))
  | _, _ => some []

end Polystore
