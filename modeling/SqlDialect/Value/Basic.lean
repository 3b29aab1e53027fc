import SqlDialect.Calendar.Timestamp
import SqlDialect.Numeric.Binary64
import SqlDialect.Numeric.Decimal

/-!
# Values

The values exchanged with a database: statement parameters and row cells.  A value has a
type of SQL and may be null in it; the untyped null has no type.  A decimal value also has
the precision and the scale it was declared with.
-/

namespace SqlDialect

/-- A value of a database, possibly null in its type. -/
inductive Value
  | null
  | boolean (content : Option Bool)
  | smallint (content : Option Int16)
  | integer (content : Option Int32)
  | bigint (content : Option Int64)
  | double (content : Option Binary64)
  | decimal (content : Option Decimal) (precision scale : UInt8)
  | varchar (content : Option String)
  | date (content : Option Date)
  | timestamp (content : Option Timestamp)
  | moment (content : Option Moment)
deriving DecidableEq, Inhabited

/-- A row of a result, one value for each column. -/
abbrev Row := List Value

/-- Equality of what may be absent. -/
def sameOption {α : Type} (same : α → α → Bool) : Option α → Option α → Bool
  | none, none => true
  | some x, some y => same x y
  | _, _ => false

namespace Value

/-- The value holds nothing. -/
def isNull : Value → Bool
  | null => true
  | boolean content => content.isNone
  | smallint content => content.isNone
  | integer content => content.isNone
  | bigint content => content.isNone
  | double content => content.isNone
  | decimal content _ _ => content.isNone
  | varchar content => content.isNone
  | date content => content.isNone
  | timestamp content => content.isNone
  | moment content => content.isNone

/-- The integer held by a value of an integer type. -/
def integer? : Value → Option Int
  | smallint content => content.map Int16.toInt
  | integer content => content.map Int32.toInt
  | bigint content => content.map Int64.toInt
  | _ => none

/-- The name of the type in messages. -/
def typeName : Value → String
  | null => "NULL"
  | boolean _ => "BOOLEAN"
  | smallint _ => "SMALLINT"
  | integer _ => "INTEGER"
  | bigint _ => "BIGINT"
  | double _ => "DOUBLE"
  | decimal _ _ _ => "DECIMAL"
  | varchar _ => "VARCHAR"
  | date _ => "DATE"
  | timestamp _ => "TIMESTAMP"
  | moment _ => "TIMESTAMP WITH TIME ZONE"

/-- Equality of values: of one type, with equal contents.  Numbers are compared as numbers and
moments as instants, so that a NaN differs from itself; decimals must also be declared alike. -/
def same : Value → Value → Bool
  | null, null => true
  | boolean x, boolean y => x = y
  | smallint x, smallint y => x = y
  | integer x, integer y => x = y
  | bigint x, bigint y => x = y
  | double x, double y => sameOption Binary64.same x y
  | decimal x p s, decimal y p' s' => sameOption Decimal.same x y && p = p' && s = s'
  | varchar x, varchar y => x = y
  | date x, date y => x = y
  | timestamp x, timestamp y => x = y
  | moment x, moment y => sameOption Moment.same x y
  | _, _ => false

end Value

end SqlDialect
