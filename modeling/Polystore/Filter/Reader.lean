import Polystore.Filter.Basic

/-!
# Reading filters

A filter is written as an object from fields to values.  A scalar asks for equality, a list for
membership, an object holds operators.  The key `$or` holds an object whose entries are the
alternatives.
-/

namespace Polystore

/-- Reads the operators of a field, in order. -/
def Operators.read (field : String) (ops : Operators) : Record → Checked Operators
  | [] => pure ops
  | (name, operand) :: rest =>
    match Bound.ofSymbol? name with
    | some b =>
      if operand.isScalar then read field (ops.bound b operand) rest
      else throw (.invalidFilter field .nonScalarBound)
    | none =>
      match Affix.ofName? name with
      | some a =>
        match operand.str? with
        | some text => read field (ops.affix a text) rest
        | none => throw (.invalidFilter field .nonTextOperand)
      | none => throw (.unsupportedOperator field name)

/-- Reads what a field must satisfy. -/
def Criterion.ofJson (field : String) : Json → Checked Criterion
  | .null => throw (.invalidFilter field .nullValue)
  | .arr items =>
    if items.isEmpty then throw (.invalidFilter field .emptyList)
    else if items.all Json.isScalar then pure (.list items)
    else throw (.invalidFilter field .nonScalarItem)
  | .obj fields => do
    let ops ← Operators.read field .empty fields
    ops.check field
    pure (.operators ops)
  | v => pure (.scalar v)

namespace Filter

/-- Reads the alternatives, after those already read. -/
def readGroup (f : Filter) : Record → Checked Filter
  | [] => pure f
  | (field, v) :: rest => do
    let c ← Criterion.ofJson field v
    let f ← f.pushedAny field c
    readGroup f rest

/-- Reads entries, after those already read. -/
def readEntries (f : Filter) : Record → Checked Filter
  | [] => pure f
  | (field, v) :: rest =>
    if field = groupKey then
      match v.obj? with
      | some group => do
        let f ← readGroup f group
        readEntries f rest
      | none => throw (.invalidFilter field .groupNotMap)
    else do
      let c ← Criterion.ofJson field v
      let f ← f.pushed field c
      readEntries f rest

/-- The filter of the fields of an object. -/
def ofRecord (fields : Record) : Checked Filter := readEntries empty fields

/-- The filter of a value, which has to be an object. -/
def ofJson : Json → Checked Filter
  | .obj fields => ofRecord fields
  | _ => throw (.invalidRequest "filters" .notFieldMap)

end Filter

end Polystore
