import SqlDialect.Statement.Basic

/-!
# Equality of statements

Two expressions or statements are the same when they have the same shape and the values in
them are equal as values: a NaN makes an expression differ from itself, and a decimal may
be written with other places.  Table definitions are not compared.
-/

namespace SqlDialect

/-- Equality of leaves. -/
def Operand.same : Operand → Operand → Bool
  | null, null => true
  | boolean x, boolean y => x = y
  | float x, float y => x.same y
  | raw x, raw y => x = y
  | int x, int y => x = y
  | text x, text y => x = y
  | column x, column y => x = y
  | type x, type y => x = y
  | inline x, inline y => x.same y
  | bound x, bound y => x.same y
  | asterisk, asterisk => true
  | _, _ => false

mutual

/-- Equality of expressions. -/
def Expr.same : Expr → Expr → Bool
  | .operand x, .operand y => x.same y
  | .unary op x, .unary op' y => op = op' && x.same y
  | .binary op x z, .binary op' y w => op = op' && x.same y && z.same w
  | .cast x z, .cast y w => x.same y && z.same w
  | .labelled x z, .labelled y w => x.same y && z.same w
  | .currentTimestamp, .currentTimestamp => true
  | .currentDate, .currentDate => true
  | .call f xs, .call g ys => f = g && Expr.sameAll xs ys
  | .nextValue x, .nextValue y => x = y
  | _, _ => false

/-- Equality of lists of expressions, member by member. -/
def Expr.sameAll : List Expr → List Expr → Bool
  | [], [] => true
  | x :: xs, y :: ys => x.same y && Expr.sameAll xs ys
  | _, _ => false

end

/-- Equality of order keys. -/
def OrderKey.same (x y : OrderKey) : Bool :=
  x.expr.same y.expr && x.direction = y.direction

/-- Equality of fetch clauses. -/
def FetchClause.same (x y : FetchClause) : Bool :=
  x.count.same y.count && x.percent = y.percent && x.withTies = y.withTies

/-- Equality of queries. -/
def SelectQuery.same (x y : SelectQuery) : Bool :=
  Expr.sameAll x.columns y.columns && x.source = y.source
    && sameOption Expr.same x.condition y.condition
    && x.orderBy.isEqv y.orderBy OrderKey.same
    && sameOption Expr.same x.limit y.limit && sameOption Expr.same x.offset y.offset
    && sameOption FetchClause.same x.fetch y.fetch

/-- Equality of insertions. -/
def InsertQuery.same (x y : InsertQuery) : Bool :=
  x.table = y.table && x.columns = y.columns && x.rows.isEqv y.rows Expr.sameAll

/-- Equality of updates. -/
def UpdateQuery.same (x y : UpdateQuery) : Bool :=
  x.table = y.table
    && x.assignments.isEqv y.assignments (fun a b => a.1 = b.1 && a.2.same b.2)
    && sameOption Expr.same x.condition y.condition

/-- Equality of deletions. -/
def DeleteQuery.same (x y : DeleteQuery) : Bool :=
  x.table = y.table && sameOption Expr.same x.condition y.condition

/-- Equality of statements other than table definitions. -/
def Statement.same : Statement → Statement → Bool
  | select x, select y => x.same y
  | insert x, insert y => x.same y
  | update x, update y => x.same y
  | delete x, delete y => x.same y
  | dropTable x, dropTable y => x = y
  | addConstraint x, addConstraint y => x = y
  | _, _ => false

end SqlDialect
