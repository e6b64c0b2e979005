import Polystore.Rejection
import Polystore.Text.Basic
import Polystore.Text.Message

/-!
# Failures

How a call can fail, and what a caller is told.  A call is refused before anything is executed
(`Rejection`), or no handle can be had (`HandleFailure`), or the backend fails (`NativeFailure`).
A backend's failure is classified by its message: one that names an unknown column is a fault of
the caller, any other is a failed execution.  A native call can also be broken off (`Panic`).

    unknownProperty? m = some p     only if m holds one of two phrases, white space, and then p
-/

namespace Polystore

/-! ## What backends report -/

/-- Why a native call failed. -/
inductive Cause where
  | timeout
  | unavailable
  | rejected
  | other
  deriving DecidableEq, Repr

/-- The name of the cause. -/
def Cause.text : Cause → String
  | timeout => "timeout"
  | unavailable => "unavailable"
  | rejected => "rejected"
  | other => "other"

/-- Can the same call succeed later? -/
def Cause.isTransient : Cause → Bool
  | timeout | unavailable => true
  | rejected | other => false

/-- The failure of a native call. -/
structure NativeFailure where
  cause : Cause
  message : String
  deriving DecidableEq, Repr

/-- A request that the backend refused. -/
def NativeFailure.refused (message : String) : NativeFailure := ⟨.rejected, message⟩

/-- Why a call is broken off. -/
inductive Panic where
  /-- A number does not fit 64 bits. -/
  | overflow
  /-- Items cannot be put in order, since the comparison is no order. -/
  | noOrder
  deriving DecidableEq, Repr

/-- Why a native call has no result. -/
inductive Breakdown where
  | failure (f : NativeFailure)
  | panic (p : Panic)
  deriving DecidableEq, Repr

/-- The kinds of backends. -/
inductive BackendKind where
  | cassandra
  | elasticsearch
  | memory
  deriving DecidableEq, Repr

/-- The name of the kind. -/
def BackendKind.text : BackendKind → String
  | cassandra => "cassandra"
  | elasticsearch => "elasticsearch"
  | memory => "memory"

/-- Why no handle to a backend could be had, or why its data could not be read. -/
inductive HandleFailure where
  | unavailable (backend message : String)
  | connectionFailed (backend space message : String)
  | internal (backend message : String)
  | malformed (message : String)
  deriving DecidableEq, Repr

namespace HandleFailure

/-- The text shown to the caller. -/
def message : HandleFailure → String
  | unavailable backend m => "backend unavailable: " ++ backend ++ ": " ++ m
  | connectionFailed backend space m =>
    "connection failed to " ++ backend ++ " for '" ++ space ++ "': " ++ m
  | internal backend m => "internal error in " ++ backend ++ ": " ++ m
  | malformed m => "serialization error: " ++ m

/-- Can the same call succeed later? -/
def isTransient : HandleFailure → Bool
  | unavailable _ _ | connectionFailed _ _ _ => true
  | internal _ _ | malformed _ => false

end HandleFailure

/-! ## What callers are told -/

/-- The call that a failure belongs to: its name, and the keyspace with the table, or the index
twice. -/
structure CallContext where
  operation : String
  space : String
  table : String
  deriving DecidableEq, Repr

/-- A column that the backend does not know. -/
structure UnknownProperty where
  property : String
  space : String
  table : String
  native : String
  deriving DecidableEq, Repr

/-- The text shown to the caller. -/
def UnknownProperty.message (u : UnknownProperty) : String :=
  "invalid property '" ++ u.property ++ "' for " ++ u.space ++ "." ++ u.table

/-- A failed execution: how long it took, why it failed, and what the backend reported, if it
reported anything. -/
structure ExecutionFailure where
  context : CallContext
  elapsedMs : Nat
  cause : Cause
  message : String
  source : Option NativeFailure
  deriving DecidableEq, Repr

/-- The failure with its whole context in one line. -/
def ExecutionFailure.text (e : ExecutionFailure) : String :=
  e.context.operation ++ " on " ++ e.context.space ++ "." ++ e.context.table ++ " failed after " ++
    toString e.elapsedMs ++ "ms (" ++ e.cause.text ++ "): " ++ e.message

/-- How a call fails. -/
inductive AccessFailure where
  | refused (r : Rejection)
  | unknownProperty (u : UnknownProperty)
  | execution (e : ExecutionFailure)
  | handle (h : HandleFailure)
  | panicked (p : Panic)
  deriving DecidableEq, Repr

/-- The coarse kinds of failures. -/
inductive FailureKind where
  | validation
  | schema
  | execution
  | panic
  deriving DecidableEq, Repr

/-- The name of the kind. -/
def FailureKind.text : FailureKind → String
  | validation => "validation"
  | schema => "schema"
  | execution => "execution"
  | panic => "panic"

namespace AccessFailure

/-- The kind of a failure. -/
def kind : AccessFailure → FailureKind
  | refused _ => .validation
  | unknownProperty _ => .schema
  | execution _ | handle _ => .execution
  | panicked _ => .panic

/-- Is the caller responsible? -/
def isClientError (f : AccessFailure) : Bool :=
  match f.kind with
  | .validation | .schema => true
  | .execution | .panic => false

/-- Can the same call succeed later? -/
def isRetryable : AccessFailure → Bool
  | execution e => e.cause.isTransient
  | handle h => h.isTransient
  | refused _ | unknownProperty _ | panicked _ => false

end AccessFailure

/-! ## Classification -/

/-- The phrases that announce the name of an unknown column. -/
def unknownPhrases : List String := ["Undefined column name", "Unknown identifier"]

/-- May the character stand in an announced name? -/
def isPropertyChar (c : Char) : Bool := c.isAlphanum || c = '_' || c = '.'

/-- The name that follows white space and perhaps a quote. -/
def announcedName? (cs : List Char) : Option (List Char) :=
  let rest := cs.dropWhile Text.isSpace
  if rest.length = cs.length then none
  else
    let name := (match rest with
      | '"' :: r => r
      | r => r).takeWhile isPropertyChar
    if name = [] then none else some name

/-- The name announced at the start of a text. -/
def propertyHere? (cs : List Char) : Option (List Char) :=
  unknownPhrases.findSome? fun phrase =>
    if phrase.toList.isPrefixOf cs then announcedName? (cs.drop phrase.toList.length) else none

/-- The first name announced anywhere in a text. -/
def propertyIn? : List Char → Option (List Char)
  | [] => none
  | c :: cs =>
    match propertyHere? (c :: cs) with
    | some name => some name
    | none => propertyIn? cs

/-- The unknown column that a message names, without dots at the end of the name. -/
def unknownProperty? (message : String) : Option String :=
  (propertyIn? message.toList).map fun name =>
    String.ofList (name.reverse.dropWhile (· = '.')).reverse

/-- What the caller of a failed native call is told. -/
def classify (context : CallContext) (elapsedMs : Nat) (f : NativeFailure) : AccessFailure :=
  match unknownProperty? f.message with
  | some property => .unknownProperty ⟨property, context.space, context.table, f.message⟩
  | none => .execution ⟨context, elapsedMs, f.cause, f.message, some f⟩

/-- What the caller of a native call without a result is told. -/
def Breakdown.told (context : CallContext) (elapsedMs : Nat) : Breakdown → AccessFailure
  | failure f => classify context elapsedMs f
  | panic p => .panicked p

/-- What the caller of a native call is told that did not answer in time. -/
def timedOut (context : CallContext) (waitedMs : Nat) : AccessFailure :=
  .execution ⟨context, waitedMs, .timeout, "no response within " ++ Time.spanText waitedMs, none⟩

end Polystore
