import SqlDialect.Expr.Basic
import SqlDialect.Render.Literal

/-!
# Tokens of expressions

An expression is rendered as a list of tokens: parentheses, operators, and atoms, which
are everything that reads as one operand whatever stands beside it.  An operand of an
operator is put in parentheses when it binds less strongly than the operator, and on the
right and behind an operator in front also when it binds equally strongly.
-/

namespace SqlDialect

/-- A token of an expression. -/
inductive Token
  | opening
  | closing
  | unary (op : UnaryOp)
  | binary (op : BinaryOp)
  | naming
  | atom (pieces : List Piece)
deriving DecidableEq

/-- The spelling of an operator in front of its operand. -/
def UnaryOp.text : UnaryOp → String
  | negative => "-"
  | not => "NOT "

/-- The spelling of an operator between its operands. -/
def BinaryOp.text : BinaryOp → String
  | multiply => " * "
  | divide => " / "
  | remainder => " % "
  | add => " + "
  | subtract => " - "
  | equal => " = "
  | notEqual => " <> "
  | less => " < "
  | lessEqual => " <= "
  | greater => " > "
  | greaterEqual => " >= "
  | is => " IS "
  | isNot => " IS NOT "
  | like => " LIKE "
  | notLike => " NOT LIKE "
  | and => " AND "
  | or => " OR "

namespace Token

/-- The pieces of a token. -/
def pieces : Token → List Piece
  | opening => [.plain "("]
  | closing => [.plain ")"]
  | unary op => [.plain op.text]
  | binary op => [.plain op.text]
  | naming => [.plain " AS "]
  | atom pieces => pieces

/-- The pieces of a list of tokens. -/
def piecesOf (tokens : List Token) : List Piece :=
  tokens.flatMap pieces

/-- The tokens, in parentheses where needed. -/
def enclosed (needed : Prop) [Decidable needed] (tokens : List Token) : List Token :=
  if needed then opening :: tokens ++ [closing] else tokens

/-- An integer: the sign of a negative one is an operator. -/
def ofInt (n : Int) : List Token :=
  if n < 0 then [unary .negative, atom [.plain (Text.integer n.natAbs)]]
  else [atom [.plain (Text.integer n)]]

end Token

/-- The tokens of a leaf.  A bound value is written as a literal where markers are not allowed. -/
def Operand.tokens (style : Style) (scope : Scope) : Operand → List Token
  | null => [.atom [.plain "NULL"]]
  | boolean x => [.atom [.plain (style.boolean x)]]
  | float x => [.atom (x.pieces style)]
  | raw verbatim => [.atom [.plain verbatim]]
  | int n => Token.ofInt n
  | text content => [.atom [.literal content]]
  | column c => [.atom (c.pieces style scope)]
  | type t => [.atom (style.typePieces t)]
  | inline value => [.atom (value.pieces style)]
  | bound value => [.atom (if scope.inline then value.pieces style else [.marker value])]
  | asterisk => [.atom [.plain "*"]]

namespace Expr

mutual

/-- The tokens of an expression.  A renaming is left out of an ORDER BY clause. -/
def tokens (style : Style) (scope : Scope) : Expr → List Token
  | operand leaf => leaf.tokens style scope
  | unary op argument =>
    .unary op :: Token.enclosed (argument.precedence ≤ op.precedence) (argument.tokens style scope)
  | binary op left right =>
    Token.enclosed (left.precedence < op.precedence) (left.tokens style scope)
      ++ .binary op
        :: Token.enclosed (right.precedence ≤ op.precedence) (right.tokens style scope)
  | cast argument target =>
    [.atom (Piece.cast (Token.piecesOf (argument.tokens style (scope.entering .casting)))
      (Token.piecesOf (target.tokens style (scope.entering .casting))))]
  | labelled argument label =>
    if scope.clause = .selectOrderBy then argument.tokens style scope
    else
      Token.enclosed (argument.precedence < labelPrecedence) (argument.tokens style scope)
        ++ .naming
          :: Token.enclosed (label.precedence ≤ labelPrecedence) (label.tokens style scope)
  | currentTimestamp => [.atom [.plain style.currentTimestamp]]
  | currentDate => [.atom [.plain "CURRENT_DATE"]]
  | call name arguments =>
    [.atom (.plain name :: .plain "(" :: Piece.separated ", " (argumentPieces style scope arguments)
      ++ [.plain ")"])]
  | nextValue sequence => [.atom (sequence.nextValuePieces style)]

/-- The pieces of each of the expressions. -/
def argumentPieces (style : Style) (scope : Scope) : List Expr → List (List Piece)
  | [] => []
  | argument :: rest =>
    Token.piecesOf (argument.tokens style scope) :: argumentPieces style scope rest

end

/-- The pieces of an expression. -/
def pieces (style : Style) (scope : Scope) (e : Expr) : List Piece :=
  Token.piecesOf (e.tokens style scope)

end Expr

/-- An expression to order by, and its direction. -/
def OrderKey.pieces (style : Style) (scope : Scope) (key : OrderKey) : List Piece :=
  key.expr.pieces style scope ++ match key.direction with
    | .ascending => [.plain " ASC"]
    | .descending => [.plain " DESC"]

end SqlDialect
