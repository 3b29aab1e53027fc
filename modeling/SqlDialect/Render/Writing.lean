import SqlDialect.Render.Compile
import SqlDialect.Render.Draft

/-!
# Writing statements

How a statement and its parts are written on a draft, one after the other.  An expression
never stops the writing: a type without a name in it is recorded.  Statements and the clauses
for their rows are checked before they are written, and definitions and limits on rows also
on the way.
-/

namespace SqlDialect

open Writing

/-! ## Names and values -/

namespace Style

/-- An identifier. -/
def writeIdentifier (style : Style) (name : String) : Writing Unit :=
  append (style.identifier name).text

/-- The identifier of what the next one belongs to; an empty one is left out. -/
def writeOwner (style : Style) (owner : String) : Writing Unit :=
  given (owner ≠ "") do
    style.writeIdentifier owner
    append "."

/-- The name of a column type. -/
def writeType (style : Style) (type : ColumnType) : Writing Unit :=
  match style.typeName type with
  | .ok name => append name
  | .error fault => refuse fault

/-- The name of a column type where the writing does not stop. -/
def recordType (style : Style) (type : ColumnType) : Writing Unit :=
  try style.writeType type catch failure => record failure

/-- Names in parentheses. -/
def writeNames (style : Style) (names : List String) : Writing Unit := do
  append "("
  separated ", " (names.map style.writeIdentifier)
  append ")"

end Style

/-- A table.  It declares its alias in a FROM clause, and goes by it everywhere else. -/
def Table.write (style : Style) (t : Table) : Writing Unit := do
  let declares : Prop := (← scope).clause = .selectFrom
  given (declares ∨ t.label = "") do
    style.writeOwner t.schema
    style.writeIdentifier t.name
  given (t.label ≠ "") do
    given declares (append " ")
    style.writeIdentifier t.label

/-- A column, after its table where columns are qualified. -/
def Column.write (style : Style) (c : Column) : Writing Unit := do
  let scope ← scope
  given (scope.qualified ∧ c.table ≠ "") do
    style.writeOwner c.schema
    style.writeOwner c.table
  style.writeIdentifier c.name

namespace Sequence

/-- The name of a sequence. -/
def write (style : Style) (s : Sequence) : Writing Unit := do
  let given := s.schema.getD ""
  style.writeOwner <| match style with
    | .standard _ => given
    | .openEdge => if given = "" then OpenEdge.userSchema else given
  style.writeIdentifier s.name

/-- The next value of a sequence. -/
def writeNextValue (style : Style) (s : Sequence) : Writing Unit :=
  match style with
  | .standard _ => do
    append "NEXT VALUE FOR "
    s.write style
  | .openEdge => do
    s.write style
    append (".NEXTVAL FROM " ++ OpenEdge.calcTable)

end Sequence

/-- A conversion.  A renaming in it is no renaming of a column to order by. -/
def writeCast (argument target : Writing Unit) : Writing Unit :=
  switching .casting do
    append "CAST("
    argument
    append " AS "
    target
    append ")"

/-- A text between apostrophes. -/
def writeLiteral (content : String) : Writing Unit :=
  append (Piece.literal content).text

/-- A floating point number without a literal, as the conversion of its name. -/
def Binary64.writeCast (style : Style) (x : Binary64) : Writing Unit :=
  SqlDialect.writeCast (writeLiteral (sqlLayout.render x)) (style.recordType .double)

/-- A floating point number. -/
def Binary64.write (style : Style) (x : Binary64) : Writing Unit :=
  if x.isFinite then append (sqlLayout.render x) else x.writeCast style

/-- A moment, as its timestamp in UTC. -/
def Moment.write (m : Moment) : Writing Unit :=
  match m.utc? with
  | some t => writeLiteral t.text
  | none => lose m

/-- A value as a literal. -/
def Value.write (style : Style) (value : Value) : Writing Unit :=
  if value.isNull then append "NULL"
  else
    match value with
    | boolean (some x) => append (style.boolean x)
    | smallint (some n) => append (Text.integer n.toInt)
    | integer (some n) => append (Text.integer n.toInt)
    | bigint (some n) => append (Text.integer n.toInt)
    | double (some x) => x.write style
    | decimal (some x) _ _ => append x.text
    | varchar (some x) => writeLiteral x
    | date (some x) => writeLiteral x.text
    | timestamp (some x) => writeLiteral x.text
    | moment (some x) => x.write
    | _ => pure ()

/-! ## Expressions -/

/-- A value bound to a marker, or written as a literal where there are no markers. -/
def Value.bind (style : Style) (value : Value) : Writing Unit := do
  if (← scope).inline then value.write style else mark value

/-- A leaf of an expression. -/
def Operand.write (style : Style) : Operand → Writing Unit
  | null => append "NULL"
  | boolean x => append (style.boolean x)
  | float x => x.write style
  | raw verbatim => append verbatim
  | int n => append (Text.integer n)
  | text content => writeLiteral content
  | column c => c.write style
  | type t => style.recordType t
  | inline value => value.write style
  | bound value => value.bind style
  | asterisk => append "*"

namespace Expr

/-- Two operands with an operator between them, or a renaming. -/
def writeJoined (precedence : Nat) (infixed : String) (left right : Nat × Writing Unit) :
    Writing Unit := do
  switching (← scope).clause do
    enclosed (left.1 < precedence) left.2
    append infixed
    enclosed (right.1 ≤ precedence) right.2

mutual

/-- An expression. -/
def write (style : Style) : Expr → Writing Unit
  | operand leaf => leaf.write style
  | unary op argument => do
    append op.text
    enclosed (argument.precedence ≤ op.precedence) (argument.write style)
  | binary op left right =>
    writeJoined op.precedence op.text (left.precedence, left.write style)
      (right.precedence, right.write style)
  | cast argument target => writeCast (argument.write style) (target.write style)
  | labelled argument label => do
    if (← scope).clause = .selectOrderBy then argument.write style
    else
      writeJoined labelPrecedence " AS " (argument.precedence, argument.write style)
        (label.precedence, label.write style)
  | currentTimestamp => append style.currentTimestamp
  | currentDate => append "CURRENT_DATE"
  | call name arguments => do
    append name
    append "("
    separated ", " (writeEach style arguments)
    append ")"
  | nextValue sequence => sequence.writeNextValue style

/-- Each of the expressions. -/
def writeEach (style : Style) : List Expr → List (Writing Unit)
  | [] => []
  | argument :: rest => argument.write style :: writeEach style rest

end

end Expr

/-- An expression to order by, and its direction. -/
def OrderKey.write (style : Style) (key : OrderKey) : Writing Unit := do
  key.expr.write style
  append <| match key.direction with
    | .ascending => " ASC"
    | .descending => " DESC"

/-! ## Queries -/

namespace Expr

/-- A row count in the given clause.  What is written of it is looked at afterwards. -/
def writeCount (style : Style) (clause : String) (e : Expr) : Writing Unit := do
  check (e.countFault? clause)
  let text ← textWritten (e.write style)
  check (if (Text.trim text).isEmpty then some (.blankCount clause) else none)

/-- A clause: its keyword, its row count, and what stands behind the count. -/
def writeClause (style : Style) (start clause finish : String) (count : Expr) : Writing Unit := do
  append start
  count.writeCount style clause
  append finish

end Expr

/-- The OFFSET clause in front of a limit that counts rows in words. -/
def writeOffset (style : Style) (start : String) (needed : Bool) : Option Expr → Writing Unit
  | some offset => offset.writeClause style start "OFFSET" " ROWS"
  | none => given needed (append (start ++ "0 ROWS"))

namespace SelectQuery

/-- The clauses for a limit and an offset. -/
def writeLimit (style : Style) (q : SelectQuery) : Writing Unit :=
  match style with
  | .standard _ => do
    q.limit.forM (Expr.writeClause style "\nLIMIT " "LIMIT" "")
    q.offset.forM (Expr.writeClause style "\nOFFSET " "OFFSET" "")
  | .openEdge => do
    literally (← scope).clause do
      writeOffset style "\n OFFSET " false q.offset
      q.limit.forM (Expr.writeClause style "\n FETCH FIRST " "FETCH FIRST" " ROWS ONLY")

/-- The clauses for a fetch clause and an offset. -/
def writeFetch (style : Style) (needsOffset : Bool) (q : SelectQuery) : Writing Unit :=
  match style with
  | .standard _ => do
    writeOffset style "\nOFFSET " needsOffset q.offset
    q.fetch.forM fun fetch =>
      fetch.count.writeClause style "\nFETCH FIRST " "FETCH FIRST" (fetchEnd fetch)
  | .openEdge => do
    check (fetchFault? q.fetch)
    literally (← scope).clause do
      writeOffset style "\n OFFSET " needsOffset q.offset
      q.fetch.forM fun fetch =>
        fetch.count.writeClause style "\n FETCH FIRST " "FETCH FIRST" " ROWS ONLY"

/-- The limits on the rows of a query. -/
def writePagination (style : Style) (q : SelectQuery) : Writing Unit :=
  match q.fetch, q.limit, q.offset with
  | some _, some _, _ => refuse .limitWithFetch
  | some _, none, _ => q.writeFetch style style.fetchNeedsOffset
  | none, none, none => pure ()
  | none, _, _ => q.writeLimit style

/-- What stands in the place of the source of a query without one. -/
def writeWithoutSource (style : Style) (q : SelectQuery) : Writing Unit :=
  match style with
  | .standard _ => pure ()
  | .openEdge =>
    given (¬ q.columns.any Expr.isNextValue) (append ("\nFROM " ++ OpenEdge.calcTable))

/-- The source of a query. -/
def writeSource (style : Style) (q : SelectQuery) : Writing Unit :=
  match q.source with
  | some table => do
    append "\nFROM "
    switching .selectFrom (table.write style)
  | none => q.writeWithoutSource style

/-- The order of a query. -/
def writeOrder (style : Style) (q : SelectQuery) : Writing Unit :=
  given (q.orderBy ≠ []) do
    append "\nORDER BY "
    switching .selectOrderBy (separated ", " (q.orderBy.map (OrderKey.write style)))

end SelectQuery

/-- A condition behind WHERE, if there is one. -/
def writeWhere (style : Style) (clause : Clause) (condition : Option Expr) : Writing Unit :=
  condition.forM fun condition => do
    append "\nWHERE "
    switching clause (condition.write style)

namespace SelectQuery

/-- A query up to the limits on its rows. -/
def writeBody (style : Style) (q : SelectQuery) : Writing Unit := do
  append "SELECT "
  separated ", " (q.columns.map (Expr.write style))
  q.writeSource style
  writeWhere style .selectWhere q.condition
  q.writeOrder style

/-- A query. -/
def write (style : Style) (q : SelectQuery) : Writing Unit := do
  check (if q.columns.isEmpty then some .selectWithoutColumns else none)
  switching .select do
    qualify
    q.writeBody style
    switching .selectPagination (q.writePagination style)

end SelectQuery

/-! ## Changes of rows -/

/-- A row of values in parentheses. -/
def InsertQuery.writeRow (style : Style) (row : List Expr) : Writing Unit := do
  append "("
  separated ", " (row.map (Expr.write style))
  append ")"

/-- An insertion. -/
def InsertQuery.write (style : Style) (q : InsertQuery) : Writing Unit := do
  check q.rowFault?
  switching .insertInto do
    append "INSERT INTO "
    q.table.write style
    append " "
    append "("
    separated ", " (q.columns.map style.writeIdentifier)
    append ") VALUES\n"
    switching .insertValues (separated ",\n" (q.rows.map (writeRow style)))

/-- An assignment to a column. -/
def UpdateQuery.writeAssignment (style : Style) (assignment : String × Expr) : Writing Unit := do
  style.writeIdentifier assignment.1
  append " = "
  assignment.2.write style

/-- An update. -/
def UpdateQuery.write (style : Style) (q : UpdateQuery) : Writing Unit := do
  check (if q.assignments.isEmpty then some .updateWithoutAssignments else none)
  switching .update do
    append "UPDATE "
    q.table.write style
    append " SET "
    switching .updateSet (separated ", " (q.assignments.map (writeAssignment style)))
    writeWhere style .updateWhere q.condition

/-- A deletion. -/
def DeleteQuery.write (style : Style) (q : DeleteQuery) : Writing Unit :=
  switching .deleteFrom do
    append "DELETE FROM "
    q.table.write style
    writeWhere style .deleteWhere q.condition

/-! ## Definitions -/

/-- A column of a table definition. -/
def ColumnDef.write (style : Style) (c : ColumnDef) : Writing Unit := do
  style.writeIdentifier c.name
  append " "
  style.writeType c.type
  given (c.nullable = false) (append " NOT NULL")
  c.default.forM fun value => do
    append " DEFAULT "
    literally (← scope).clause (value.write style)

/-- What a constraint demands, on the given columns of the given table. -/
def ConstraintKind.write (style : Style) (table : Table) (columns : List String) :
    ConstraintKind → Writing Unit
  | primaryKey => do
    append "PRIMARY KEY "
    style.writeNames columns
  | unique => do
    append "UNIQUE "
    style.writeNames columns
  | foreignKey references referenced onDelete => do
    check (if referenced.length ≠ columns.length then
      some (.foreignKeyLength table.fullName columns.length referenced.length) else none)
    append "FOREIGN KEY "
    style.writeNames columns
    append " REFERENCES "
    references.write style
    append " "
    style.writeNames referenced
    onDelete.forM fun action => do
      append " ON DELETE "
      append action.text

/-- A constraint. -/
def Constraint.write (style : Style) (c : Constraint) : Writing Unit := do
  check (if c.columns = [] then some (.constraintWithoutColumns c.table.fullName) else none)
  c.writtenName?.forM fun name => do
    append "CONSTRAINT "
    style.writeIdentifier name
    append " "
  c.kind.write style c.table c.columns

/-- A table definition. -/
def TableDef.write (style : Style) (d : TableDef) : Writing Unit := do
  check (if d.columns.isEmpty then some (.tableWithoutColumns d.table.fullName) else none)
  switching .createTable do
    append "CREATE TABLE "
    d.table.write style
    append " (\n"
    separated ",\n" (d.columns.map (ColumnDef.write style))
    switching .createTableConstraint do
      d.constraints.forM fun c => do
        append ",\n"
        c.write style
      append "\n)"

/-- A constraint added to its table. -/
def Constraint.writeAddition (style : Style) (c : Constraint) : Writing Unit :=
  switching .alterTable do
    append "ALTER TABLE "
    c.table.write style
    append " ADD "
    c.write style

/-- The removal of a table. -/
def Table.writeRemoval (style : Style) (t : Table) : Writing Unit :=
  switching .dropTable do
    append "DROP TABLE "
    t.write style

/-! ## Statements -/

namespace Statement

/-- A statement as it stands. -/
def writeRaw (style : Style) : Statement → Writing Unit
  | select q => q.write style
  | insert q => q.write style
  | update q => q.write style
  | delete q => q.write style
  | createTable d => d.write style
  | dropTable t => t.writeRemoval style
  | addConstraint c => c.writeAddition style

/-- A statement, with names for its constraints. -/
def write (style : Style) (s : Statement) : Writing Unit :=
  (s.prepared style).writeRaw style

end Statement

/-- What comes of a draft, by how the writing ended: nothing but an unlogged failure when a moment
was lost on the way, and otherwise the failure at which the writing stopped, or else the one that
was recorded, or else the query. -/
def Draft.compiled : Except Failure Unit × Draft → Report CompiledQuery
  | (outcome, d) =>
    match d.state.lost?, outcome, d.state.recorded? with
    | some moment, _, _ => .unlogged (.ofCause (.outsideCalendar moment))
    | none, .error failure, _ => .fail failure
    | none, .ok _, some failure => .fail failure
    | none, .ok _, none => .ok ⟨d.text, d.state.parameters⟩

/-! ## Parts -/

/-- What can be written on its own. -/
inductive Part
  | text (verbatim : String)
  | value (value : Value)
  | notFinite (x : Binary64)
  | table (table : Table)
  | column (column : Column)
  | type (type : ColumnType)
  | sequence (sequence : Sequence)
  | expr (e : Expr)
  | orderKey (key : OrderKey)
  | count (clause : String) (e : Expr)
  | limit (query : SelectQuery)
  | fetch (needsOffset : Bool) (query : SelectQuery)
  | withoutSource (query : SelectQuery)
  | columnDef (definition : ColumnDef)
  | constraint (constraint : Constraint)
  | statement (statement : Statement)

/-- What is written of a part. -/
def Part.write (style : Style) : Part → Writing Unit
  | text verbatim => append verbatim
  | value v => v.write style
  | notFinite x => x.writeCast style
  | table t => t.write style
  | column c => c.write style
  | type t => style.writeType t
  | sequence s => s.write style
  | expr e => e.write style
  | orderKey key => key.write style
  | count clause e => e.writeCount style clause
  | limit q => q.writeLimit style
  | fetch needsOffset q => q.writeFetch style needsOffset
  | withoutSource q => q.writeWithoutSource style
  | columnDef c => c.write style
  | constraint c => c.write style
  | statement s => s.write style

end SqlDialect
