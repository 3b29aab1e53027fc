import SqlDialect.Value.Description

/-!
# Cells

The types of Lean that a value can be read into and made from.  Integers are read from
every integer type that they fit, truth values from integers by comparison with zero, and
decimals from integers; every other type is read from the values of its own SQL type
alone.  An optional cell reads every null as absent.
-/

namespace SqlDialect

/-- Why a value cannot be read into a cell type. -/
inductive ReadError
  | mismatch (value : Value) (target : String)
  | tooLarge
  | tooSmall
  | decimalOutOfRange
deriving DecidableEq

/-- The text of a reading error. -/
def ReadError.message : ReadError → String
  | mismatch value target => "Cannot convert " ++ value.describe ++ " to " ++ target
  | tooLarge => "number too large to fit in target type"
  | tooSmall => "number too small to fit in target type"
  | decimalOutOfRange => "Error while converting to i64"

/-- The types that values are read into and made from. -/
class Cell (α : Type) where
  /-- The null value of the type. -/
  absent : Value
  /-- The value that holds `x`. -/
  toValue (x : α) : Value
  /-- What the value holds. -/
  read (value : Value) : Except ReadError α

/-- An integer as 32-bit, when it fits. -/
def narrowToInt32 (n : Int64) : Except ReadError Int32 :=
  if n.toInt < Int32.minValue.toInt then .error .tooSmall
  else if Int32.maxValue.toInt < n.toInt then .error .tooLarge
  else .ok n.toInt32

/-- The integer part of a decimal as 64-bit, when it fits. -/
def narrowToInt64 (d : Decimal) : Except ReadError Int64 :=
  if Int64.minValue.toInt ≤ d.truncate ∧ d.truncate ≤ Int64.maxValue.toInt then
    .ok (Int64.ofInt d.truncate)
  else .error .decimalOutOfRange

namespace Cell

instance : Cell Bool where
  absent := .boolean none
  toValue x := .boolean (some x)
  read
    | .boolean (some x) => .ok x
    | .smallint (some n) => .ok (n ≠ 0)
    | .integer (some n) => .ok (n ≠ 0)
    | .bigint (some n) => .ok (n ≠ 0)
    | value => .error (.mismatch value "bool")

instance : Cell Int16 where
  absent := .smallint none
  toValue x := .smallint (some x)
  read
    | .smallint (some n) => .ok n
    | value => .error (.mismatch value "i16")

instance : Cell Int32 where
  absent := .integer none
  toValue x := .integer (some x)
  read
    | .integer (some n) => .ok n
    | .smallint (some n) => .ok n.toInt32
    | .bigint (some n) => narrowToInt32 n
    | value => .error (.mismatch value "i32")

instance : Cell Int64 where
  absent := .bigint none
  toValue x := .bigint (some x)
  read
    | .bigint (some n) => .ok n
    | .smallint (some n) => .ok n.toInt64
    | .integer (some n) => .ok n.toInt64
    | .decimal (some d) precision scale =>
      if scale = 0 then narrowToInt64 d
      else .error (.mismatch (.decimal (some d) precision scale) "i64")
    | value => .error (.mismatch value "i64")

instance : Cell Binary64 where
  absent := .double none
  toValue x := .double (some x)
  read
    | .double (some x) => .ok x
    | value => .error (.mismatch value "f64")

instance : Cell String where
  absent := .varchar none
  toValue x := .varchar (some x)
  read
    | .varchar (some x) => .ok x
    | value => .error (.mismatch value "alloc::string::String")

instance : Cell Decimal where
  absent := .decimal none 0 0
  toValue x := .decimal (some x) 0 0
  read
    | .decimal (some x) _ _ => .ok x
    | .smallint (some n) => .ok (.ofInt64 n.toInt64)
    | .integer (some n) => .ok (.ofInt64 n.toInt64)
    | .bigint (some n) => .ok (.ofInt64 n)
    | value => .error (.mismatch value "rust_decimal::decimal::Decimal")

instance : Cell Date where
  absent := .date none
  toValue x := .date (some x)
  read
    | .date (some x) => .ok x
    | value => .error (.mismatch value "time::date::Date")

instance : Cell Timestamp where
  absent := .timestamp none
  toValue x := .timestamp (some x)
  read
    | .timestamp (some x) => .ok x
    | value => .error (.mismatch value "time::plain_date_time::PlainDateTime")

instance : Cell Moment where
  absent := .moment none
  toValue x := .moment (some x)
  read
    | .moment (some x) => .ok x
    | value => .error (.mismatch value "time::offset_date_time::OffsetDateTime")

instance {α : Type} [Cell α] : Cell (Option α) where
  absent := absent α
  toValue
    | some x => toValue x
    | none => absent α
  read value := if value.isNull then .ok none else (read value).map some

end Cell

end SqlDialect
