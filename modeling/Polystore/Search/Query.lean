import Polystore.Search.Clause

/-!
# Queries

The tree of a query, its written form, and reading it back.

Reading never fails: a clause that is malformed becomes a leaf with its fault, so that the fault
shows only if the clause is evaluated.  `match_all` stands for any parameters, and keys that a
clause does not know are dropped.
-/

namespace Polystore

/-- What is wrong with a clause. -/
inductive QueryFault where
  | notObject
  | notSingle
  | unknownKind (kind : String)
  | noField
  | termsWithoutField
  | termsNotList
  | missing (param : String)
  | existsWithoutField
  | nestedWithoutPath
  | nestedWithoutQuery
  | invalidPattern
  deriving DecidableEq, Repr

/-- The fault in words; of a pattern that cannot be read nothing more is said. -/
def QueryFault.text : QueryFault → String
  | notObject => "expected an object"
  | notSingle => "a query clause must hold exactly one query type"
  | unknownKind kind => "unknown query [" ++ kind ++ "]"
  | noField => "query requires a field"
  | termsWithoutField => "[terms] requires a field"
  | termsNotList => "[terms] values must be a list"
  | missing param => "missing [" ++ param ++ "]"
  | existsWithoutField => "[exists] requires a field"
  | nestedWithoutPath => "[nested] requires a path"
  | nestedWithoutQuery => "[nested] requires a query"
  | invalidPattern => "invalid regexp:"

/-- How many edits a word may be away. -/
inductive Fuzziness where
  /-- None for up to two characters, one for up to five, two for longer words. -/
  | auto
  | edits (n : Nat)
  deriving DecidableEq, Repr

/-- A query. -/
inductive Query where
  | all
  | term (field : String) (v : Json) (boost : Option Number)
  | terms (field : String) (vs : List Json) (boost : Option Number)
  | range (field : String) (bounds : List (Bound × Json)) (boost : Option Number)
  | start (field text : String) (boost : Option Number)
  | pattern (field source : String) (boost : Option Number)
  | hasValue (field : String) (boost : Option Number)
  | words (field text : String) (fuzziness : Fuzziness) (swaps : Bool) (boost : Option Number)
  | wordsIn (fields : List String) (text : String) (fuzziness : Fuzziness)
      (boost : Option Number)
  | nested (path : String) (q : Query) (scored : Bool)
  | bool (must filter mustNot should : List Query) (minimum : Option Nat) (boost : Option Number)
  | malformed (fault : QueryFault)

namespace Fuzziness

/-- The edits allowed for a word. -/
def allowed (f : Fuzziness) (word : List Char) : Nat :=
  match f with
  | edits n => n
  | auto => if word.length ≤ 2 then 0 else if word.length ≤ 5 then 1 else 2

/-- The written form. -/
def toJson : Fuzziness → Json
  | auto => .str "AUTO"
  | edits n => .ofNat n

/-- The number of a text of digits with an optional plus sign, if it fits 64 bits. -/
def natOfText? (s : String) : Option Nat :=
  let ds := match s.toList with
    | '+' :: cs => cs
    | cs => cs
  if ds = [] ∨ !ds.all Char.isDigit then none
  else
    let n := ds.foldl (fun n d => 10 * n + (d.toNat - 48)) 0
    if n < Decimal.twoTo 64 then some n else none

/-- Reads the written form; anything else allows no edit. -/
def ofJson : Option Json → Fuzziness
  | some (.str s) =>
    if Text.sameIgnoringAsciiCase s "auto" then auto else edits ((natOfText? s).getD 0)
  | some (.num n) => edits (n.asU64?.getD 0)
  | _ => edits 0

end Fuzziness

namespace Query

/-! ## Writing -/

mutual

/-- The written form. -/
def toJson : Query → Json
  | all => Clause.all
  | term field v boost => Clause.term field v boost
  | terms field vs boost => Clause.terms field vs boost
  | range field bounds boost => Clause.range field bounds boost
  | start field text boost => Clause.start field text boost
  | pattern field source boost => Clause.pattern field source boost
  | hasValue field boost => Clause.hasValue field boost
  | words field text fuzziness swaps boost =>
    Clause.words field text (some fuzziness.toJson) swaps boost
  | wordsIn fields text fuzziness boost =>
    Clause.wordsIn fields text (some fuzziness.toJson) boost
  | nested path q scored => Clause.nested path (toJson q) scored
  | bool must filter mustNot should minimum boost =>
    Clause.combine (toJsons must) (toJsons filter) (toJsons mustNot) (toJsons should) minimum boost
  | malformed _ => .null

/-- The written forms of several queries. -/
def toJsons : List Query → List Json
  | [] => []
  | q :: qs => toJson q :: toJsons qs

end

/-! ## Reading -/

/-- The boost among some parameters. -/
def boostOf (params : Json) : Option Number :=
  match params.get? "boost" with
  | some (.num n) => some n
  | _ => none

/-- The first key that is not the boost, with its value. -/
def fieldOf? : Record → Option (String × Json)
  | [] => none
  | (k, v) :: fields => if k = "boost" then fieldOf? fields else some (k, v)

/-- A clause on one field: the field and its parameters. -/
def onField (params : Json) (f : String → Json → Query) : Query :=
  match params with
  | .obj fields =>
    match fieldOf? fields with
    | some (field, spec) => f field spec
    | none => malformed .noField
  | _ => malformed .notObject

/-- A text given directly or under a key. -/
def textOf? (key : String) : Json → Option String
  | .str s => some s
  | spec => (spec.get? key).bind Json.str?

/-- The bounds among some parameters. -/
def boundsOf (params : Record) : List (Bound × Json) :=
  params.filterMap fun p => (Bound.ofKey? p.1).map fun b => (b, p.2)

/-- A `terms` clause. -/
def ofTerms (params : Json) : Query :=
  match params with
  | .obj fields =>
    match fieldOf? fields with
    | some (field, .arr vs) => terms field vs (boostOf params)
    | some _ => malformed .termsNotList
    | none => malformed .termsWithoutField
  | _ => malformed .notObject

/-- A `match` clause. -/
def ofWords (field : String) (spec : Json) : Query :=
  match spec with
  | .str s => words field s (.edits 0) true none
  | _ =>
    match (spec.get? "query").bind Json.str? with
    | some s =>
      words field s (.ofJson (spec.get? "fuzziness"))
        (((spec.get? "fuzzy_transpositions").bind Json.bool?).getD true) (boostOf spec)
    | none => malformed (.missing "query")

/-- A `multi_match` clause. -/
def ofWordsIn (params : Json) : Query :=
  match (params.get? "query").bind Json.str? with
  | some s =>
    let fields := match (params.get? "fields").bind Json.arr? with
      | some items => items.filterMap Json.str?
      | none => ["*"]
    wordsIn fields s (.ofJson (params.get? "fuzziness")) (boostOf params)
  | none => malformed (.missing "query")

/-- A clause without clauses inside it. -/
def ofLeaf (kind : String) (params : Json) : Query :=
  match kind with
  | "match_all" => all
  | "term" =>
    onField params fun field spec => term field ((spec.get? "value").getD spec) (boostOf spec)
  | "terms" => ofTerms params
  | "range" =>
    onField params fun field spec =>
      match spec with
      | .obj fields => range field (boundsOf fields) (boostOf spec)
      | _ => malformed .notObject
  | "prefix" =>
    onField params fun field spec =>
      match textOf? "value" spec with
      | some s => start field s (boostOf spec)
      | none => malformed (.missing "value")
  | "regexp" =>
    onField params fun field spec =>
      match textOf? "value" spec with
      | some s => pattern field s (boostOf spec)
      | none => malformed (.missing "value")
  | "exists" =>
    match (params.get? "field").bind Json.str? with
    | some field => hasValue field (boostOf params)
    | none => malformed .existsWithoutField
  | "match" => onField params ofWords
  | "multi_match" => ofWordsIn params
  | kind => malformed (.unknownKind kind)

/-- The clauses of a combination by section. -/
structure Sections where
  must : List Query
  filter : List Query
  mustNot : List Query
  should : List Query

/-- A `nested` clause with its inner query, if there is one. -/
def ofNested (fields : Record) (inner : Option Query) : Query :=
  match (Assoc.find? "path" fields).bind Json.str? with
  | some path =>
    match inner with
    | some q =>
      nested path q ((Assoc.find? "score_mode" fields).bind Json.str? != some "none")
    | none => malformed .nestedWithoutQuery
  | none => malformed .nestedWithoutPath

/-- A `bool` clause with its sections. -/
def ofSections (params : Json) (s : Sections) : Query :=
  bool s.must s.filter s.mustNot s.should
    ((params.get? "minimum_should_match").bind Json.u64?) (boostOf params)

mutual

/-- Reads a query. -/
def ofJson : Json → Query
  | .obj [(kind, params)] =>
    if kind = "bool" then
      match params with
      | .obj fields => ofSections (.obj fields) (sectionsOf fields)
      | v => ofSections v ⟨[], [], [], []⟩
    else if kind = "nested" then
      match params with
      | .obj fields => ofNested fields (innerOf fields)
      | _ => malformed .nestedWithoutPath
    else ofLeaf kind params
  | .obj _ => malformed .notSingle
  | _ => malformed .notObject

/-- The sections of a combination; of a repeated key the first counts. -/
def sectionsOf : List (String × Json) → Sections
  | [] => ⟨[], [], [], []⟩
  | (k, v) :: fields =>
    let s := sectionsOf fields
    if k = "must" then { s with must := clausesOf v }
    else if k = "filter" then { s with filter := clausesOf v }
    else if k = "must_not" then { s with mustNot := clausesOf v }
    else if k = "should" then { s with should := clausesOf v }
    else s

/-- The query under the key `query`. -/
def innerOf : List (String × Json) → Option Query
  | [] => none
  | (k, v) :: fields => if k = "query" then some (ofJson v) else innerOf fields

/-- The clauses of a section; what is no list has none. -/
def clausesOf : Json → List Query
  | .arr items => ofJsons items
  | _ => []

/-- Reads several queries. -/
def ofJsons : List Json → List Query
  | [] => []
  | v :: vs => ofJson v :: ofJsons vs

end

end Query

end Polystore
