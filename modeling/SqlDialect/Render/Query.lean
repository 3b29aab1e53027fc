import SqlDialect.Render.Pagination

/-!
# Queries and changes in SQL

The SQL of queries, insertions, updates and deletions.  In queries columns are qualified
with their tables.  OpenEdge wants every query to have a source: one without a source
reads from the table with one row, unless it selects the next value of a sequence, which
brings its own.
-/

namespace SqlDialect

/-- A condition behind WHERE, if there is one. -/
def wherePieces (style : Style) (scope : Scope) : Option Expr → List Piece
  | some condition => .plain "\nWHERE " :: condition.pieces style scope
  | none => []

namespace SelectQuery

/-- What stands in the place of the source of a query without one. -/
def withoutSourcePieces (style : Style) (q : SelectQuery) : List Piece :=
  match style with
  | .standard _ => []
  | .openEdge =>
    if q.columns.any Expr.isNextValue then []
    else [.plain ("\nFROM " ++ OpenEdge.calcTable)]

/-- The source of a query. -/
def sourcePieces (style : Style) (scope : Scope) (q : SelectQuery) : List Piece :=
  match q.source with
  | some table => .plain "\nFROM " :: table.pieces style (scope.entering .selectFrom)
  | none => q.withoutSourcePieces style

/-- The order of a query. -/
def orderPieces (style : Style) (scope : Scope) (q : SelectQuery) : List Piece :=
  match q.orderBy with
  | [] => []
  | keys =>
    .plain "\nORDER BY " :: Piece.separated ", "
      (keys.map (OrderKey.pieces style (scope.entering .selectOrderBy)))

/-- A query up to the limits on its rows. -/
def bodyPieces (style : Style) (scope : Scope) (q : SelectQuery) : List Piece :=
  .plain "SELECT " :: Piece.separated ", "
      (q.columns.map (Expr.pieces style (scope.entering .select)))
    ++ q.sourcePieces style scope
    ++ wherePieces style (scope.entering .selectWhere) q.condition
    ++ q.orderPieces style scope

/-- A query. -/
def attempt (style : Style) (scope : Scope) (q : SelectQuery) : Attempt :=
  .checked (if q.columns.isEmpty then some .selectWithoutColumns else none)
    (.ok (q.bodyPieces style scope.qualifying)
      ++ q.paginationAttempt style (scope.qualifying.entering .selectPagination))

end SelectQuery

namespace InsertQuery

/-- What is wrong with the rows of an insertion. -/
def rowFault? (q : InsertQuery) : Option CompileFault :=
  if q.rows.isEmpty then some .insertWithoutRows
  else (q.rows.find? fun row => row.length ≠ q.columns.length).map fun row =>
    .insertRowLength row.length q.columns.length

/-- A row of values in parentheses. -/
def rowPieces (style : Style) (scope : Scope) (row : List Expr) : List Piece :=
  .plain "(" :: Piece.separated ", " (row.map (Expr.pieces style scope)) ++ [.plain ")"]

/-- An insertion. -/
def attempt (style : Style) (scope : Scope) (q : InsertQuery) : Attempt :=
  .checked q.rowFault?
    (.ok (.plain "INSERT INTO " :: q.table.pieces style (scope.entering .insertInto)
      ++ .plain " " :: .plain "("
        :: Piece.separated ", " (q.columns.map fun column => [style.identifier column])
      ++ .plain ") VALUES\n"
        :: Piece.separated ",\n" (q.rows.map (rowPieces style (scope.entering .insertValues)))))

end InsertQuery

namespace UpdateQuery

/-- An assignment to a column. -/
def assignmentPieces (style : Style) (scope : Scope) (assignment : String × Expr) : List Piece :=
  style.identifier assignment.1 :: .plain " = " :: assignment.2.pieces style scope

/-- An update. -/
def attempt (style : Style) (scope : Scope) (q : UpdateQuery) : Attempt :=
  .checked (if q.assignments.isEmpty then some .updateWithoutAssignments else none)
    (.ok (.plain "UPDATE " :: q.table.pieces style (scope.entering .update)
      ++ .plain " SET " :: Piece.separated ", "
        (q.assignments.map (assignmentPieces style (scope.entering .updateSet)))
      ++ wherePieces style (scope.entering .updateWhere) q.condition))

end UpdateQuery

/-- A deletion. -/
def DeleteQuery.attempt (style : Style) (scope : Scope) (q : DeleteQuery) : Attempt :=
  .ok (.plain "DELETE FROM " :: q.table.pieces style (scope.entering .deleteFrom)
    ++ wherePieces style (scope.entering .deleteWhere) q.condition)

end SqlDialect
