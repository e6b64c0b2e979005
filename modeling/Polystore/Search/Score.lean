import Polystore.Json.Path
import Polystore.Pattern.Reader
import Polystore.Search.Query
import Polystore.Text.Edits
import Polystore.Text.Letters

/-!
# Evaluation of queries

Whether a document matches a query, and with which score.  A field whose name ends in the suffix
of the untokenized sub-field is read without the suffix and in lower case.

A fault of a clause shows when the clause is evaluated.  A combination looks at its sections in
the order `must`, `filter`, `must_not`, `should` and stops at the first clause that decides
against the document, so clauses after that one are not evaluated.
-/

namespace Polystore

/-! ## Values of fields -/

/-- The field under a name that may end in the suffix; an empty suffix marks no field. -/
def baseField? (suffix field : String) : Option String :=
  if suffix.isEmpty then none else Text.dropEnd? field suffix

/-- The values of a field as they are compared. -/
def fieldValues (suffix field : String) (doc : Json) : List Json :=
  match baseField? suffix field with
  | some base => (doc.valuesAt base).map Json.fold
  | none => doc.valuesAt field

/-- The values of a field as they are stored. -/
def storedValues (suffix field : String) (doc : Json) : List Json :=
  doc.valuesAt ((baseField? suffix field).getD field)

/-! ## Words -/

/-- The number of words of a text that are like some word of the values. -/
def matchedWords (values : List String) (text : String) (f : Fuzziness) (swaps : Bool) : Nat :=
  let found := (values.flatMap Text.words).map String.toList
  ((Text.words text).map String.toList).countP fun w =>
    found.any fun v => Text.editDistance w v swaps ≤ f.allowed w

/-- The texts that a list of fields has in a document; `*` stands for every text in it. -/
def textsOf (suffix : String) (fields : List String) (doc : Json) : List String :=
  fields.flatMap fun field =>
    if field = "*" then doc.strings else (fieldValues suffix field doc).filterMap Json.str?

/-! ## Tests on one value -/

/-- Does a value lie within all bounds? -/
def withinBounds (bounds : List (Bound × Json)) (v : Json) : Bool :=
  bounds.all fun p =>
    match v.compare? p.2 with
    | some o => p.1.admits o
    | none => false

/-- Is the value a text with this start? -/
def hasStart (text : String) (v : Json) : Bool :=
  match v with
  | .str s => Text.startsWith s text
  | _ => false

/-- Is the value a text that the pattern matches? -/
def hasMatch (p : Pattern) (v : Json) : Bool :=
  match v with
  | .str s => p.occursIn s.toList
  | _ => false

/-! ## Scores -/

namespace Query

/-- The factor of a boost. -/
def weight (boost : Option Number) : Float :=
  match boost with
  | some n => n.toFloat
  | none => 1.0

/-- The greater of two scores; a score that is no number counts less than any. -/
def greater (a b : Float) : Float := if a < b || a.isNaN then b else a

/-- The score of a clause that matches or not. -/
def hit (matched : Bool) (boost : Option Number) : Except QueryFault (Option Float) :=
  pure (if matched then some (weight boost) else none)

/-- The score of a clause that matched a number of words. -/
def hits (matched : Nat) (boost : Option Number) : Except QueryFault (Option Float) :=
  pure (if 0 < matched then some (matched.toFloat * weight boost) else none)

/-- The greatest score over several documents, if any of them matches. -/
def best (score : Json → Except QueryFault (Option Float)) :
    Option Float → List Json → Except QueryFault (Option Float)
  | acc, [] => pure acc
  | acc, d :: ds => do
    match ← score d with
    | some s => best score (some (match acc with
      | some b => greater b s
      | none => s)) ds
    | none => best score acc ds

/-- How many of the optional clauses have to match if the query does not say: one, if there is
nothing else that has to match. -/
def defaultMinimum (must filter should : List Query) : Nat :=
  if must.isEmpty && filter.isEmpty && !should.isEmpty then 1 else 0

mutual

/-- The score of a document, if it matches. -/
def score (suffix : String) : Query → Json → Except QueryFault (Option Float)
  | all, _ => pure (some 1.0)
  | term field v boost, doc =>
    hit ((fieldValues suffix field doc).any fun w => w.same v) boost
  | terms field vs boost, doc =>
    hit ((fieldValues suffix field doc).any fun w => w.isAmong vs) boost
  | range field bounds boost, doc =>
    hit ((fieldValues suffix field doc).any (withinBounds bounds)) boost
  | start field text boost, doc =>
    hit ((fieldValues suffix field doc).any (hasStart text)) boost
  | pattern field source boost, doc =>
    match Pattern.ofNotation? source with
    | some p => hit ((fieldValues suffix field doc).any (hasMatch p)) boost
    | none => throw .invalidPattern
  | hasValue field boost, doc => hit (!(fieldValues suffix field doc).isEmpty) boost
  | words field text fuzziness swaps boost, doc =>
    hits (matchedWords ((fieldValues suffix field doc).filterMap Json.str?) text fuzziness swaps)
      boost
  | wordsIn fields text fuzziness boost, doc =>
    hits (matchedWords (textsOf suffix fields doc) text fuzziness true) boost
  | nested path q scored, doc => do
    let children := (doc.valuesAt path).filter Json.isObject
    let found ← best (fun child => score suffix q (Json.wrapAt path child)) none children
    pure (found.map fun s => if scored then s else 0.0)
  | bool must filter mustNot should minimum boost, doc => do
    match ← mustScore suffix must doc 0.0 with
    | none => pure none
    | some total =>
      if !(← allMatch suffix filter doc) then pure none
      else if !(← noneMatch suffix mustNot doc) then pure none
      else
        let (count, total) ← shouldScore suffix should doc 0 total
        if count < minimum.getD (defaultMinimum must filter should) then pure none
        else pure (some (total * weight boost))
  | malformed fault, _ => throw fault

/-- Adds the scores of clauses that all have to match. -/
def mustScore (suffix : String) :
    List Query → Json → Float → Except QueryFault (Option Float)
  | [], _, total => pure (some total)
  | q :: qs, doc, total => do
    match ← score suffix q doc with
    | some s => mustScore suffix qs doc (total + s)
    | none => pure none

/-- Do all clauses match? -/
def allMatch (suffix : String) : List Query → Json → Except QueryFault Bool
  | [], _ => pure true
  | q :: qs, doc => do
    match ← score suffix q doc with
    | some _ => allMatch suffix qs doc
    | none => pure false

/-- Does no clause match? -/
def noneMatch (suffix : String) : List Query → Json → Except QueryFault Bool
  | [], _ => pure true
  | q :: qs, doc => do
    match ← score suffix q doc with
    | some _ => pure false
    | none => noneMatch suffix qs doc

/-- Counts the clauses that match and adds their scores. -/
def shouldScore (suffix : String) :
    List Query → Json → Nat → Float → Except QueryFault (Nat × Float)
  | [], _, count, total => pure (count, total)
  | q :: qs, doc, count, total => do
    match ← score suffix q doc with
    | some s => shouldScore suffix qs doc (count + 1) (total + s)
    | none => shouldScore suffix qs doc count total

end

end Query

end Polystore
