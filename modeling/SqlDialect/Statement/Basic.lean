import SqlDialect.Expr.Basic

/-!
# Statements

The statements that can be written as SQL: queries, changes of rows, and definitions of
tables with their keys and their references to other tables.  A constraint may come without a
name, and OpenEdge then gets one made from the kind, the table and the columns.
-/

namespace SqlDialect

/-! ## Constraints -/

/-- What happens to a referencing row when the referenced row is deleted. -/
inductive DeleteAction
  | noAction
  | restrict
  | cascade
  | setNull
  | setDefault
deriving DecidableEq

/-- What a constraint demands of its columns. -/
inductive ConstraintKind
  | primaryKey
  | unique
  | foreignKey (references : Table) (referenced : List String) (onDelete : Option DeleteAction)
deriving DecidableEq

/-- A constraint on columns of a table. -/
structure Constraint where
  kind : ConstraintKind
  table : Table
  columns : List String
  name : Option String := none
deriving DecidableEq

namespace Constraint

/-- The constraint with a delete action, which only a foreign key has. -/
def onDelete (action : DeleteAction) (c : Constraint) : Constraint :=
  match c.kind with
  | .foreignKey references referenced _ =>
    { c with kind := .foreignKey references referenced (some action) }
  | _ => c

/-- The name that is written: none when the name is empty. -/
def writtenName? (c : Constraint) : Option String :=
  c.name.filter (· ≠ "")

/-- The name of a constraint that was given none: of a primary key the table, and of any other
kind the table and the columns. -/
def defaultName (c : Constraint) : String :=
  match c.kind with
  | .primaryKey => "pk_" ++ c.table.name
  | .unique => "_".intercalate ("uq" :: c.table.name :: c.columns)
  | .foreignKey _ _ _ => "_".intercalate ("fk" :: c.table.name :: c.columns)

/-- The constraint under its default name unless it has a name. -/
def named (c : Constraint) : Constraint :=
  match c.writtenName? with
  | some _ => c
  | none => { c with name := some c.defaultName }

end Constraint

/-! ## Statements -/

/-- A limit on the rows of a query, as a count or a percentage, possibly with the rows that tie
with the last one. -/
structure FetchClause where
  count : Expr
  percent : Bool := false
  withTies : Bool := false

/-- A query. -/
structure SelectQuery where
  columns : List Expr
  source : Option Table := none
  condition : Option Expr := none
  orderBy : List OrderKey := []
  limit : Option Expr := none
  offset : Option Expr := none
  fetch : Option FetchClause := none

/-- New rows for a table. -/
structure InsertQuery where
  table : Table
  columns : List String
  rows : List (List Expr)

/-- New values for columns of a table. -/
structure UpdateQuery where
  table : Table
  assignments : List (String × Expr)
  condition : Option Expr := none

/-- Rows to remove from a table. -/
structure DeleteQuery where
  table : Table
  condition : Option Expr := none

/-- A column of a table definition. -/
structure ColumnDef where
  name : String
  type : ColumnType
  nullable : Bool := true
  default : Option Expr := none

/-- A table definition. -/
structure TableDef where
  table : Table
  columns : List ColumnDef
  constraints : List Constraint := []

/-- A statement. -/
inductive Statement
  | select (query : SelectQuery)
  | insert (query : InsertQuery)
  | update (query : UpdateQuery)
  | delete (query : DeleteQuery)
  | createTable (definition : TableDef)
  | dropTable (table : Table)
  | addConstraint (constraint : Constraint)

end SqlDialect
