import SqlDialect.ColumnType.Basic
import SqlDialect.Failure.Basic
import SqlDialect.Text.Basic

/-!
# Type names on the wire

Reading the type names that OpenEdge reports for the columns of a result, such as
`varchar(40)`: words in any letter case, separated by blanks, and for some types a list of
numbers in parentheses at the end.
-/

namespace SqlDialect.ColumnType

/-- A number in a list of arguments: ASCII digits, perhaps after a plus sign, of a value below
2^32. -/
def argument? (text : List Char) : Option Nat :=
  let digits := match text with
    | '+' :: rest => rest
    | _ => text
  if !digits.isEmpty && digits.all Char.isDigit && Text.numberOf digits < UInt32.size then
    some (Text.numberOf digits)
  else none

/-- The arguments of a list that follows an opening parenthesis: it ends with the closing one, and
blanks around its arguments do not count. -/
def arguments? (text : List Char) : Option (List Nat) :=
  if text.getLast? = some ')' then
    (text.dropLast.splitOn ',').mapM fun part => argument? (Text.trim part)
  else none

/-- The words of a type name in upper case, one space apart, and the arguments of its list. -/
def wireParts? (name : List Char) : Option (String × Option (List Nat)) :=
  let trimmed := Text.trim name
  let base := trimmed.takeWhile (· ≠ '(')
  let words := String.ofList
    ((List.intercalate [' '] (Text.words (Text.trimEnd base))).map Char.toUpper)
  match trimmed.dropWhile (· ≠ '(') with
  | [] => some (words, none)
  | _ :: list => (arguments? list).map fun arguments => (words, some arguments)

/-- A precision or a scale: at most 255. -/
def byte? (n : Nat) : Option UInt8 :=
  if n < 256 then some (UInt8.ofNat n) else none

/-- The column type of the given words and arguments. -/
def ofWireParts? : String → Option (List Nat) → Option ColumnType
  | "BIT", none => some boolean
  | "SMALLINT", none => some smallint
  | "INTEGER", none => some integer
  | "BIGINT", none => some bigint
  | "DECIMAL", none => some (decimal 0 0)
  | "DECIMAL", some [precision] => (byte? precision).map (decimal · 0)
  | "DECIMAL", some [precision, scale] => do
    some (decimal (← byte? precision) (← byte? scale))
  | "DOUBLE PRECISION", none => some double
  | "VARCHAR", none => some (varchar none)
  | "VARCHAR", some [length] => some (varchar (some (UInt32.ofNat length)))
  | "DATE", none => some date
  | "TIMESTAMP", none => some timestamp
  | _, _ => none

/-- The column type that a type name on the wire stands for. -/
def ofWireName? (name : List Char) : Option ColumnType := do
  let (words, arguments) ← wireParts? name
  ofWireParts? words arguments

/-- The column type of a type name on the wire; a name that stands for none is reported. -/
def ofWireName (name : String) : Report ColumnType :=
  match ofWireName? name.toList with
  | some type => .ok type
  | none => .fail (.ofCause (.unsupportedType name))

end SqlDialect.ColumnType
