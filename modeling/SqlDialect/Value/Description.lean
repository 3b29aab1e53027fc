import SqlDialect.Calendar.Timestamp
import SqlDialect.Numeric.Binary64
import SqlDialect.Text.Visible
import SqlDialect.Value.Basic

/-!
# Descriptions of values

How an error message names a value: its variant and, in parentheses, what it holds.  Texts
are quoted with escapes, floating point numbers are positional from 0.0001 up to 10^16,
and dates show the sign of the year apart from its four digits.
-/

namespace SqlDialect

/-- Numbers in descriptions are positional from 0.0001 up to 10^16, and ties go up. -/
def descriptionLayout : FloatLayout where
  plainFrom := -4
  plainBelow := 16
  tie := .upward

/-- A character inside a described text: the quotation mark, the backslash and characters that do
not show themselves are escaped. -/
def describeChar (c : Char) : List Char :=
  if c = '"' then ['\\', '"']
  else if c = '\\' then ['\\', '\\']
  else if c = '\n' then ['\\', 'n']
  else if c = '\r' then ['\\', 'r']
  else if c = '\t' then ['\\', 't']
  else if c.toNat = 0 then ['\\', '0']
  else if Text.isVisible c then [c]
  else ['\\', 'u', '\x7b'] ++ Nat.toDigits 16 c.toNat ++ ['\x7d']

/-- A text between quotation marks, with escapes. -/
def describeText (text : String) : String :=
  String.ofList ('"' :: text.toList.flatMap describeChar ++ ['"'])

/-- A date: the sign of the year, four digits of the year, month and day. -/
def Date.describe (d : Date) : String :=
  (if d.year < 0 then "-" else "") ++ Text.padded 4 d.year.natAbs ++ "-" ++ Text.padded 2 d.month
    ++ "-" ++ Text.padded 2 d.day

/-- A time of day: the hour as it is, and at least one digit of the fraction. -/
def Clock.describe (c : Clock) : String :=
  let fraction := if c.nanosecond.val = 0 then "0" else Text.fraction 9 c.nanosecond
  Text.integer c.hour.val ++ ":" ++ Text.padded 2 c.minute ++ ":" ++ Text.padded 2 c.second ++ "."
    ++ fraction

/-- A date and a time of day. -/
def Timestamp.describe (t : Timestamp) : String :=
  t.date.describe ++ " " ++ t.clock.describe

/-- A timestamp as shown, and its offset with a sign, in hours, minutes and seconds. -/
def Moment.describe (m : Moment) : String :=
  let seconds := m.offset.natAbs
  m.wall.describe ++ " " ++ (if m.offset < 0 then "-" else "+") ++ Text.padded 2 (seconds / 3600)
    ++ ":" ++ Text.padded 2 (seconds / 60 % 60) ++ ":" ++ Text.padded 2 (seconds % 60)

namespace Value

/-- What a value holds, when it holds something. -/
def describeContent {α : Type} (describe : α → String) : Option α → String
  | none => "None"
  | some x => "Some(" ++ describe x ++ ")"

/-- The variant of a value and what it holds. -/
def describe : Value → String
  | null => "Null"
  | boolean content =>
    "Boolean(" ++ describeContent (fun x => if x then "true" else "false") content ++ ")"
  | smallint content => "Int16(" ++ describeContent (Text.integer ·.toInt) content ++ ")"
  | integer content => "Int32(" ++ describeContent (Text.integer ·.toInt) content ++ ")"
  | bigint content => "Int64(" ++ describeContent (Text.integer ·.toInt) content ++ ")"
  | double content => "Float64(" ++ describeContent descriptionLayout.render content ++ ")"
  | decimal content precision scale =>
    "Decimal(" ++ describeContent Decimal.text content ++ ", " ++ Text.integer precision.toNat
      ++ ", " ++ Text.integer scale.toNat ++ ")"
  | varchar content => "Varchar(" ++ describeContent describeText content ++ ")"
  | date content => "Date(" ++ describeContent Date.describe content ++ ")"
  | timestamp content => "Timestamp(" ++ describeContent Timestamp.describe content ++ ")"
  | moment content => "TimestampWithTimezone(" ++ describeContent Moment.describe content ++ ")"

end Value

end SqlDialect
