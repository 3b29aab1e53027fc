import SqlDialect.ColumnType.Basic
import SqlDialect.Failure.Basic
import SqlDialect.Value.Basic

/-!
# Booleans as bits

OpenEdge keeps booleans in columns of type BIT, and they travel as integers: parameters
are encoded, and the cells of boolean columns are decoded, where every integer but zero is
true.
-/

namespace SqlDialect

namespace Value

/-- The value as it travels: a boolean becomes an integer. -/
def encodeBit : Value → Value
  | boolean content => integer (content.map fun x => if x then 1 else 0)
  | value => value

/-- The boolean that a cell of a boolean column stands for. -/
def decodeBit (value : Value) : Report Value :=
  if value.isNull then .ok (boolean none)
  else match value.integer? with
    | some n => .ok (boolean (some (n ≠ 0)))
    | none => .fail (.ofCause (.typeMismatch "BIT" value.typeName))

/-- The value that a cell of a column of the given type stands for. -/
def decode (type : ColumnType) (value : Value) : Report Value :=
  match type with
  | .boolean => value.decodeBit
  | _ => .ok value

/-- The values of a row, cell by cell; cells without a type stay as they are. -/
def decodeRow : List ColumnType → Row → Report Row
  | _, [] => .ok []
  | [], row => .ok row
  | type :: types, cell :: row => do
    let value ← cell.decode type
    let rest ← decodeRow types row
    return value :: rest

/-- The values of the rows, until one cannot be decoded. -/
def decodeRows (types : List ColumnType) : List Row → Report (List Row)
  | [] => .ok []
  | row :: rows => do
    let first ← decodeRow types row
    let rest ← decodeRows types rows
    return first :: rest

end Value

end SqlDialect
