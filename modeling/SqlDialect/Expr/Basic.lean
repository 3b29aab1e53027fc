import SqlDialect.ColumnType.Basic
import SqlDialect.Value.Basic

/-!
# Expressions

The expressions of SQL statements as trees, with the references to tables and columns that
they and statements are made of.  An empty schema, table or alias is an absent one.  A
literal keeps what it denotes, a value is either written into the text or bound to a marker,
and raw text is written as it is.  How strongly operators bind decides where an expression
needs parentheses: what is no operator binds strongest, except that a negative integer literal
binds like the sign it is written with.
-/

namespace SqlDialect

/-! ## Tables and columns -/

/-- A reference to a table, possibly under an alias, its label. -/
structure Table where
  name : String
  schema : String := ""
  label : String := ""
deriving DecidableEq

/-- What messages call a table: its alias, or else its name after its schema. -/
def Table.fullName (t : Table) : String :=
  if t.label ≠ "" then t.label
  else if t.schema ≠ "" then t.schema ++ "." ++ t.name
  else t.name

/-- A reference to a column, possibly of a table. -/
structure Column where
  name : String
  table : String := ""
  schema : String := ""
deriving DecidableEq

/-- The column of a table: it goes by the alias of the table, or else by its name and schema. -/
def Table.column (t : Table) (name : String) : Column :=
  if t.label = "" then ⟨name, t.name, t.schema⟩ else ⟨name, t.label, ""⟩

/-! ## Expressions -/

/-- The leaves of expressions. -/
inductive Operand
  | null
  | boolean (content : Bool)
  | float (content : Binary64)
  | raw (text : String)
  | int (content : Int)
  | text (content : String)
  | column (column : Column)
  | type (type : ColumnType)
  /-- A value written as a literal. -/
  | inline (value : Value)
  /-- A value bound to a marker, where markers are allowed. -/
  | bound (value : Value)
  | asterisk
deriving DecidableEq

/-- The operators in front of an operand. -/
inductive UnaryOp
  | negative
  | not
deriving DecidableEq

/-- The operators between two operands. -/
inductive BinaryOp
  | multiply
  | divide
  | remainder
  | add
  | subtract
  | equal
  | notEqual
  | less
  | lessEqual
  | greater
  | greaterEqual
  | is
  | isNot
  | like
  | notLike
  | and
  | or
deriving DecidableEq

/-- A named sequence, possibly in a schema. -/
structure Sequence where
  name : String
  schema : Option String := none
deriving DecidableEq

/-- An expression. -/
inductive Expr
  | operand (operand : Operand)
  | unary (op : UnaryOp) (argument : Expr)
  | binary (op : BinaryOp) (left right : Expr)
  | cast (argument target : Expr)
  /-- An expression under an alias. -/
  | labelled (argument label : Expr)
  | currentTimestamp
  | currentDate
  | call (name : String) (arguments : List Expr)
  | nextValue (sequence : Sequence)

/-- The direction of an ordering. -/
inductive Direction
  | ascending
  | descending
deriving DecidableEq

/-- An expression to order by. -/
structure OrderKey where
  expr : Expr
  direction : Direction

namespace Expr

/-- The expression is the next value of a sequence, possibly under aliases. -/
def isNextValue : Expr → Bool
  | nextValue _ => true
  | labelled argument _ => argument.isNextValue
  | _ => false

end Expr

/-! ## Precedence -/

/-- The binding strength of an operator in front of its operand. -/
def UnaryOp.precedence : UnaryOp → Nat
  | negative => 1250
  | not => 250

/-- The binding strength of an operator between its operands. -/
def BinaryOp.precedence : BinaryOp → Nat
  | or => 100
  | and => 200
  | equal | notEqual | less | lessEqual | greater | greaterEqual => 300
  | is | isNot | like | notLike => 400
  | add | subtract => 800
  | multiply | divide | remainder => 900

namespace Expr

/-- The binding strength of a conversion. -/
def castPrecedence : Nat := 1100

/-- The binding strength of a renaming. -/
def labelPrecedence : Nat := 1200

/-- The binding strength of what is no operator. -/
def atomPrecedence : Nat := 1000000

/-- The binding strength of an expression. -/
def precedence : Expr → Nat
  | operand (.int n) => if n < 0 then UnaryOp.negative.precedence else atomPrecedence
  | unary op _ => op.precedence
  | binary op _ _ => op.precedence
  | cast _ _ => castPrecedence
  | labelled _ _ => labelPrecedence
  | _ => atomPrecedence

end Expr

end SqlDialect
