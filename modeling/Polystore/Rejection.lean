/-!
# Rejected requests

Why a request is refused before anything is executed.  `Rejection.message` is the text shown to
the caller.
-/

namespace Polystore

/-- A name that must not be blank. -/
inductive Subject where
  | keyspace
  | table
  | index
  | documentId
  | recordId
  | keyColumnName
  | keyValue
  | filterField
  | ttlField
  deriving DecidableEq, Repr

/-- What the name is called. -/
def Subject.text : Subject → String
  | keyspace => "keyspace"
  | table => "table"
  | index => "index"
  | documentId => "document id"
  | recordId => "record id"
  | keyColumnName => "key column name"
  | keyValue => "key value"
  | filterField => "filter field"
  | ttlField => "ttl field"

/-- A list that must not be empty. -/
inductive Listing where
  | keys
  | documentIds
  | properties
  deriving DecidableEq, Repr

/-- What the list is called. -/
def Listing.text : Listing → String
  | keys => "key list"
  | documentIds => "document ids"
  | properties => "properties"

/-- A write that needs columns. -/
inductive Write where
  | insert
  | update
  deriving DecidableEq, Repr

/-- What the write is called. -/
def Write.text : Write → String
  | insert => "insert"
  | update => "update"

/-- What is wrong with a filter entry. -/
inductive FilterFault where
  | nullValue
  | emptyList
  | nonScalarItem
  | nonScalarBound
  | nonTextOperand
  | emptyOperators
  | groupNotMap
  | groupUnsupported
  | operatorUnsupported
  | nonScalarNeedle
  deriving DecidableEq, Repr

/-- The fault in words. -/
def FilterFault.text : FilterFault → String
  | nullValue => "null is not a filter value"
  | emptyList => "list must not be empty"
  | nonScalarItem => "list elements must be scalars"
  | nonScalarBound => "range bounds must be scalars"
  | nonTextOperand => "lexical operands must be strings"
  | emptyOperators => "operator map must not be empty"
  | groupNotMap => "OR group must be a map"
  | groupUnsupported => "OR groups are only supported by the search index"
  | operatorUnsupported => "range and lexical operators are only supported by the search index"
  | nonScalarNeedle => "contains value must be a scalar"

/-- What is wrong with a field of a request. -/
inductive RequestFault where
  | notMap
  | notFieldMap
  | notString
  | notStringList
  | notStringMap
  | notInteger
  | weightNotInteger
  | kindNotString
  | notMapInList
  | notMapOrList
  | notDirectionMap
  | blank
  | unrestricted
  | problems (found : List String)
  deriving DecidableEq, Repr

/-- The fault in words. -/
def RequestFault.text : RequestFault → String
  | notMap => "expected a map"
  | notFieldMap => "expected a map of field to value"
  | notString => "expected a string"
  | notStringList => "expected a list of strings"
  | notStringMap => "expected a map of strings"
  | notInteger => "expected an integer"
  | weightNotInteger => "weights must be integers"
  | kindNotString => "aggregation kind must be a string"
  | notMapInList => "expected a list of maps"
  | notMapOrList => "expected a map or a list of maps"
  | notDirectionMap => "expected a map of field to direction"
  | blank => "must not be blank"
  | unrestricted => "delete requires a key or a list of ids"
  | problems found => "; ".intercalate found

/-- What is wrong with a declared key. -/
inductive LayoutFault where
  | noPartition
  | blankName
  | declaredTwice (column : String)
  deriving DecidableEq, Repr

/-- The fault in words. -/
def LayoutFault.text : LayoutFault → String
  | noPartition => "at least one partition column is required"
  | blankName => "key column names must not be blank"
  | declaredTwice column => "column '" ++ column ++ "' declared twice"

/-- Why a request is refused. -/
inductive Rejection where
  | blankIdentifier (what : Subject)
  | invalidIdentifier (name : String)
  | emptyCompositeKey
  | invalidKeyValue (column : String)
  | emptyList (what : Listing)
  | emptyRecord (write : Write)
  | missingKeyColumn (column : String)
  | keyColumnInValues (column : String)
  | invalidKeyLayout (fault : LayoutFault)
  | missingTtlAlias (field : String)
  | invalidTtl (seconds max : Int)
  | invalidFilter (field : String) (fault : FilterFault)
  | emptyFilter
  | unsupportedOperator (field operator : String)
  | conflictingOperators (field first second : String)
  | duplicateField (field : String)
  | invalidLimit (limit : Int) (max : Nat)
  | invalidOffset (offset : Int)
  | invalidRequest (field : String) (fault : RequestFault)
  | emptyBatch
  | batchSizeMismatch (records ttls : Nat)
  deriving DecidableEq, Repr

/-- The text shown to the caller. -/
def Rejection.message : Rejection → String
  | blankIdentifier what => what.text ++ " must not be blank"
  | invalidIdentifier name => "invalid identifier '" ++ name ++ "'"
  | emptyCompositeKey => "composite key must not be empty"
  | invalidKeyValue column => "composite key column '" ++ column ++ "' must hold a scalar value"
  | emptyList what => what.text ++ " must not be empty"
  | emptyRecord write => write.text ++ " requires at least one column"
  | missingKeyColumn column => "missing key column '" ++ column ++ "'"
  | keyColumnInValues column => "key column '" ++ column ++ "' cannot be updated"
  | invalidKeyLayout fault => "invalid key schema: " ++ fault.text
  | missingTtlAlias field => "missing alias for ttl field '" ++ field ++ "'"
  | invalidTtl seconds max =>
    "ttl of " ++ toString seconds ++ " seconds exceeds the maximum of " ++ toString max
  | invalidFilter field fault => "invalid filter for '" ++ field ++ "': " ++ fault.text
  | emptyFilter => "filters must not be empty when supplied"
  | unsupportedOperator field operator =>
    "unsupported operator '" ++ operator ++ "' for '" ++ field ++ "'"
  | conflictingOperators field first second =>
    "conflicting operators '" ++ first ++ "' and '" ++ second ++ "' for '" ++ field ++ "'"
  | duplicateField field => "duplicate filter field '" ++ field ++ "'"
  | invalidLimit limit max =>
    "limit must be between 1 and " ++ toString max ++ ", got " ++ toString limit
  | invalidOffset offset => "offset must not be negative, got " ++ toString offset
  | invalidRequest field fault =>
    "invalid search request field '" ++ field ++ "': " ++ fault.text
  | emptyBatch => "batch must contain at least one record"
  | batchSizeMismatch records ttls =>
    "batch has " ++ toString records ++ " records but " ++ toString ttls ++ " ttl values"

/-- A result that may be refused. -/
abbrev Checked (α : Type) := Except Rejection α

end Polystore
