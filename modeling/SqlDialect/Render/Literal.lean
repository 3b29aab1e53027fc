import SqlDialect.Calendar.Timestamp
import SqlDialect.Expr.Basic
import SqlDialect.Identifier
import SqlDialect.Numeric.Binary64
import SqlDialect.Render.Piece
import SqlDialect.Render.Scope

/-!
# Names and literals in SQL

Identifiers, and the names of tables, columns, column types and sequences.  In literals texts,
dates and timestamps are quoted; a moment is written as its timestamp in UTC; a NaN or an
infinity, which has no literal, is written as the conversion of its name.
-/

namespace SqlDialect

/-! ## Names -/

namespace OpenEdge

/-- The schema that OpenEdge keeps user tables and sequences in. -/
def userSchema : String := "PUB"

/-- The schema of the system catalogs of OpenEdge. -/
def systemSchema : String := "SYSPROGRESS"

/-- The table of OpenEdge that has exactly one row. -/
def calcTable : String := systemSchema ++ ".SYSCALCTABLE"

end OpenEdge

namespace Style

/-- A name as an identifier: bare when it can stand bare, and quoted otherwise. -/
def identifier (style : Style) (name : String) : Piece :=
  if style.needsQuotes name then .quoted '"' name else .plain name

/-- An identifier after the identifier of what it belongs to, which is left out when empty. -/
def qualifiedBy (style : Style) (owner : String) (rest : List Piece) : List Piece :=
  if owner = "" then rest else style.identifier owner :: .plain "." :: rest

/-- The name of a column type; a type without a name is a fault. -/
def typePieces (style : Style) (type : ColumnType) : List Piece :=
  match style.typeName type with
  | .ok name => [.plain name]
  | .error fault => [.fault (.ofFault fault)]

end Style

/-- A table: in a FROM clause its name followed by its alias, and elsewhere its alias or, without
one, its name. -/
def Table.pieces (style : Style) (scope : Scope) (t : Table) : List Piece :=
  let name := style.qualifiedBy t.schema [style.identifier t.name]
  let label := style.identifier t.label
  if t.label = "" then name
  else if scope.clause = .selectFrom then name ++ [.plain " ", label]
  else [label]

/-- A column, after its table where columns are qualified. -/
def Column.pieces (style : Style) (scope : Scope) (c : Column) : List Piece :=
  let name := [style.identifier c.name]
  if scope.qualified ∧ c.table ≠ "" then
    style.qualifiedBy c.schema (style.qualifiedBy c.table name)
  else name

namespace Sequence

/-- The name of a sequence, after its schema.  OpenEdge looks in its schema for user tables when
none is given. -/
def namePieces (style : Style) (s : Sequence) : List Piece :=
  let given := s.schema.getD ""
  let schema := match style with
    | .standard _ => given
    | .openEdge => if given = "" then OpenEdge.userSchema else given
  style.qualifiedBy schema [style.identifier s.name]

/-- The next value of a sequence.  OpenEdge selects it from the table with one row. -/
def nextValuePieces (style : Style) (s : Sequence) : List Piece :=
  match style with
  | .standard _ => .plain "NEXT VALUE FOR " :: s.namePieces style
  | .openEdge => s.namePieces style ++ [.plain (".NEXTVAL FROM " ++ OpenEdge.calcTable)]

end Sequence

/-! ## Literals -/

/-- Numbers in SQL are positional from 0.00001 up to 10^16, and ties go to the even neighbour. -/
def sqlLayout : FloatLayout where
  plainFrom := -5
  plainBelow := 16
  tie := .toEven

namespace Piece

/-- A text between apostrophes. -/
def literal (content : String) : Piece := quoted '\'' content

/-- A conversion. -/
def cast (argument target : List Piece) : List Piece :=
  plain "CAST(" :: argument ++ plain " AS " :: target ++ [plain ")"]

end Piece

/-- A floating point number as the conversion of its name. -/
def Binary64.castPieces (style : Style) (x : Binary64) : List Piece :=
  Piece.cast [.literal (sqlLayout.render x)] (style.typePieces .double)

/-- A floating point number: its shortest decimal when it is finite. -/
def Binary64.pieces (style : Style) (x : Binary64) : List Piece :=
  if x.isFinite then [.plain (sqlLayout.render x)] else x.castPieces style

/-- A moment as its timestamp in UTC. -/
def Moment.pieces (m : Moment) : List Piece :=
  match m.utc? with
  | some t => [.literal t.text]
  | none => [.outsideCalendar m]

/-- A value as a literal; every value is null or has content. -/
def Value.pieces (style : Style) (value : Value) : List Piece :=
  if value.isNull then [.plain "NULL"]
  else
    match value with
    | boolean (some x) => [.plain (style.boolean x)]
    | smallint (some n) => [.plain (Text.integer n.toInt)]
    | integer (some n) => [.plain (Text.integer n.toInt)]
    | bigint (some n) => [.plain (Text.integer n.toInt)]
    | double (some x) => x.pieces style
    | decimal (some x) _ _ => [.plain x.text]
    | varchar (some x) => [.literal x]
    | date (some x) => [.literal x.text]
    | timestamp (some x) => [.literal x.text]
    | moment (some x) => x.pieces
    | _ => []

end SqlDialect
