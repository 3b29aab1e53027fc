import SqlDialect.Render.Piece
import SqlDialect.Render.Token
import SqlDialect.Statement.Basic
import SqlDialect.Text.Basic

/-!
# Limits on rows

The clauses that limit the rows of a query.  A row count that is a literal integer or a
value is refused unless it is an integer that is not negative, and one that writes nothing
but blanks is refused after it was written.  OpenEdge has no markers in these clauses,
writes the offset before the limit, and has neither percentages nor ties.
-/

namespace SqlDialect

/-- What is wrong with a value as a row count. -/
def Value.countFault? (clause : String) (value : Value) : Option CompileFault :=
  match value.integer? with
  | some n => if n < 0 then some (.negativeCount clause) else none
  | none => some (.nonIntegerCount clause (if value.isNull then "NULL" else value.typeName))

/-- What is wrong with an expression as a row count, as far as that can be told without rendering
it. -/
def Expr.countFault? (clause : String) : Expr → Option CompileFault
  | operand (.int n) => if n < 0 then some (.negativeCount clause) else none
  | operand (.inline value) => value.countFault? clause
  | operand (.bound value) => value.countFault? clause
  | _ => none

/-- A row count in the given clause. -/
def Expr.countAttempt (style : Style) (scope : Scope) (clause : String) (e : Expr) : Attempt :=
  let pieces := e.pieces style scope
  .checked (e.countFault? clause) (.ok pieces
    ++ .checked (if (Text.trim (Piece.textOf pieces).toList).isEmpty then some (.blankCount clause)
        else none) (.ok []))

/-- A clause: its keyword, its row count when there is one, and what stands behind the count. -/
def Expr.clauseAttempt (style : Style) (scope : Scope) (start clause finish : String) :
    Option Expr → Attempt
  | none => .ok []
  | some count =>
    .ok [.plain start] ++ count.countAttempt style scope clause ++ .ok [.plain finish]

/-- The OFFSET clause in front of a limit that counts rows in words.  Where one is wanted but none
is given it skips no rows. -/
def offsetAttempt (style : Style) (scope : Scope) (start : String) (needed : Bool)
    (offset : Option Expr) : Attempt :=
  match offset with
  | some _ => Expr.clauseAttempt style scope start "OFFSET" " ROWS" offset
  | none => .ok (if needed then [.plain (start ++ "0 ROWS")] else [])

namespace SelectQuery

/-- The clauses for a limit and an offset. -/
def limitAttempt (style : Style) (scope : Scope) (q : SelectQuery) : Attempt :=
  match style with
  | .standard _ =>
    Expr.clauseAttempt style scope "\nLIMIT " "LIMIT" "" q.limit
      ++ Expr.clauseAttempt style scope "\nOFFSET " "OFFSET" "" q.offset
  | .openEdge =>
    offsetAttempt style scope.inlining "\n OFFSET " false q.offset
      ++ Expr.clauseAttempt style scope.inlining "\n FETCH FIRST " "FETCH FIRST" " ROWS ONLY"
        q.limit

/-- What a fetch clause ends with. -/
def fetchEnd (fetch : FetchClause) : String :=
  (if fetch.percent then " PERCENT" else "")
    ++ if fetch.withTies then " ROWS WITH TIES" else " ROWS ONLY"

/-- What OpenEdge cannot do of a fetch clause. -/
def fetchFault? (fetch : Option FetchClause) : Option CompileFault :=
  match fetch with
  | none => none
  | some fetch =>
    if fetch.percent then some .fetchPercent
    else if fetch.withTies then some .fetchWithTies
    else none

/-- The clauses for a fetch clause and an offset. -/
def fetchAttempt (style : Style) (scope : Scope) (needsOffset : Bool) (q : SelectQuery) : Attempt :=
  match style with
  | .standard _ =>
    offsetAttempt style scope "\nOFFSET " needsOffset q.offset
      ++ Expr.clauseAttempt style scope "\nFETCH FIRST " "FETCH FIRST"
        ((q.fetch.map fetchEnd).getD "") (q.fetch.map (·.count))
  | .openEdge =>
    .checked (fetchFault? q.fetch)
      (offsetAttempt style scope.inlining "\n OFFSET " needsOffset q.offset
        ++ Expr.clauseAttempt style scope.inlining "\n FETCH FIRST " "FETCH FIRST" " ROWS ONLY"
          (q.fetch.map (·.count)))

/-- The limits on the rows of a query: a limit and a fetch clause exclude each other. -/
def paginationAttempt (style : Style) (scope : Scope) (q : SelectQuery) : Attempt :=
  match q.fetch, q.limit, q.offset with
  | some _, some _, _ => .fail .limitWithFetch
  | some _, none, _ => q.fetchAttempt style scope style.fetchNeedsOffset
  | none, none, none => .ok []
  | none, _, _ => q.limitAttempt style scope

end SelectQuery

end SqlDialect
