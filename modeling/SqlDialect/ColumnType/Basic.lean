import SqlDialect.Failure.Cause

/-!
# Column types

The types that a column is declared with, and what they are called in a table definition, in
standard SQL and by OpenEdge.  OpenEdge has no boolean type and no time zones, and wants a
length for every VARCHAR.
-/

namespace SqlDialect

/-- The type of a column.  A decimal type with precision and scale zero leaves both to the
database. -/
inductive ColumnType
  | boolean
  | smallint
  | integer
  | bigint
  | decimal (precision scale : UInt8)
  | double
  | varchar (length : Option UInt32)
  | date
  | timestamp
  | timestampWithTimeZone
deriving DecidableEq

/-! ## Names in definitions -/

namespace ColumnType

/-- The name of a decimal type: its precision and scale are written unless both are zero. -/
def decimalName (precision scale : UInt8) : String :=
  if precision = 0 ∧ scale = 0 then "DECIMAL"
  else "DECIMAL(" ++ Text.integer precision.toNat ++ "," ++ Text.integer scale.toNat ++ ")"

/-- The name of a text type with a length. -/
def varcharName (length : UInt32) : String :=
  "VARCHAR(" ++ Text.integer length.toNat ++ ")"

/-- The name of a column type in standard SQL. -/
def standardName : ColumnType → String
  | boolean => "BOOLEAN"
  | smallint => "SMALLINT"
  | integer => "INTEGER"
  | bigint => "BIGINT"
  | decimal precision scale => decimalName precision scale
  | double => "DOUBLE PRECISION"
  | varchar (some length) => varcharName length
  | varchar none => "VARCHAR"
  | date => "DATE"
  | timestamp => "TIMESTAMP"
  | timestampWithTimeZone => "TIMESTAMP WITH TIME ZONE"

/-- The name of a column type in OpenEdge. -/
def openEdgeName : ColumnType → Except CompileFault String
  | boolean => .ok "BIT"
  | smallint => .ok "SMALLINT"
  | integer => .ok "INTEGER"
  | bigint => .ok "BIGINT"
  | decimal precision scale => .ok (decimalName precision scale)
  | double => .ok "DOUBLE PRECISION"
  | varchar (some length) => .ok (varcharName length)
  | varchar none => .error .varcharWithoutLength
  | date => .ok "DATE"
  | timestamp => .ok "TIMESTAMP"
  | timestampWithTimeZone => .ok "TIMESTAMP"

end ColumnType

end SqlDialect
