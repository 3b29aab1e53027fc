import SqlDialect.Render.Piece
import SqlDialect.Render.Literal
import SqlDialect.Render.Token
import SqlDialect.Statement.Basic

/-!
# Definitions in SQL

The SQL of constraints, of table definitions, of added constraints and of removed tables.
Constraints are written behind their name, if they have one; a constraint needs columns, and a
foreign key as many columns in the table that it refers to.  Definitions have no markers: the
values in a default are written as literals.
-/

namespace SqlDialect

/-! ## Constraints -/

/-- The spelling of a delete action. -/
def DeleteAction.text : DeleteAction → String
  | noAction => "NO ACTION"
  | restrict => "RESTRICT"
  | cascade => "CASCADE"
  | setNull => "SET NULL"
  | setDefault => "SET DEFAULT"

/-- Names in parentheses. -/
def Style.nameList (style : Style) (names : List String) : List Piece :=
  .plain "(" :: Piece.separated ", " (names.map fun name => [style.identifier name]) ++ [.plain ")"]

/-- What a constraint demands, on the given columns of the given table. -/
def ConstraintKind.attempt (style : Style) (scope : Scope) (table : Table) (columns : List String) :
    ConstraintKind → Attempt
  | primaryKey => .ok (.plain "PRIMARY KEY " :: style.nameList columns)
  | unique => .ok (.plain "UNIQUE " :: style.nameList columns)
  | foreignKey references referenced onDelete =>
    .checked (if referenced.length ≠ columns.length then
        some (.foreignKeyLength table.fullName columns.length referenced.length) else none)
      (.ok (.plain "FOREIGN KEY " :: style.nameList columns ++ .plain " REFERENCES "
          :: references.pieces style scope ++ .plain " " :: style.nameList referenced
        ++ match onDelete with
          | some action => [.plain " ON DELETE ", .plain action.text]
          | none => []))

/-- A constraint. -/
def Constraint.attempt (style : Style) (scope : Scope) (c : Constraint) : Attempt :=
  .checked (if c.columns = [] then some (.constraintWithoutColumns c.table.fullName) else none)
    (.ok (match c.writtenName? with
        | some name => [.plain "CONSTRAINT ", style.identifier name, .plain " "]
        | none => [])
      ++ c.kind.attempt style scope c.table c.columns)

/-- The constraint as the style writes it: OpenEdge gives it a name. -/
def Constraint.prepared (style : Style) (c : Constraint) : Constraint :=
  match style with
  | .standard _ => c
  | .openEdge => c.named

/-! ## Tables -/

/-- The name of a column type; a type without a name stops the writing. -/
def Style.typeAttempt (style : Style) (type : ColumnType) : Attempt :=
  match style.typeName type with
  | .ok name => .ok [.plain name]
  | .error fault => .fail fault

/-- A column of a table definition. -/
def ColumnDef.attempt (style : Style) (scope : Scope) (c : ColumnDef) : Attempt :=
  let default := match c.default with
    | some value => .plain " DEFAULT " :: value.pieces style scope.inlining
    | none => []
  .ok [style.identifier c.name, .plain " "] ++ style.typeAttempt c.type
    ++ .ok ((if c.nullable then [] else [.plain " NOT NULL"]) ++ default)

namespace TableDef

/-- The constraints one after the other, each on a line of its own. -/
def constraintsAttempt (style : Style) (scope : Scope) : List Constraint → Attempt
  | [] => .ok []
  | c :: rest => .ok [.plain ",\n"] ++ c.attempt style scope ++ constraintsAttempt style scope rest

/-- A table definition. -/
def attempt (style : Style) (scope : Scope) (d : TableDef) : Attempt :=
  .checked (if d.columns.isEmpty then some (.tableWithoutColumns d.table.fullName) else none)
    (.ok (.plain "CREATE TABLE " :: d.table.pieces style (scope.entering .createTable)
        ++ [.plain " (\n"])
      ++ .separated ",\n" (d.columns.map (ColumnDef.attempt style (scope.entering .createTable)))
      ++ constraintsAttempt style (scope.entering .createTableConstraint) d.constraints
      ++ .ok [.plain "\n)"])

end TableDef

/-- A constraint added to its table. -/
def Constraint.additionAttempt (style : Style) (scope : Scope) (c : Constraint) : Attempt :=
  let scope := scope.entering .alterTable
  .ok (.plain "ALTER TABLE " :: c.table.pieces style scope ++ [.plain " ADD "])
    ++ c.attempt style scope

/-- The removal of a table. -/
def Table.removalAttempt (style : Style) (scope : Scope) (t : Table) : Attempt :=
  .ok (.plain "DROP TABLE " :: t.pieces style (scope.entering .dropTable))

end SqlDialect
