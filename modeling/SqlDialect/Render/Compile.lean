import SqlDialect.Failure.Basic
import SqlDialect.Render.Definition
import SqlDialect.Render.Query
import SqlDialect.Text.Bytes

/-!
# Compilation

The SQL text of a statement with its parameters.  Before a statement is written its
constraints get the names they lack, where the style gives names.  A compilation fails
when the writing stopped, and otherwise when a fault was recorded on the way, and logs the
failure.  When a moment could not be written nothing comes out of it, not even a log
record.
-/

namespace SqlDialect

/-- A query as text, with the parameters of its markers. -/
structure CompiledQuery where
  sql : String
  parameters : List Value
deriving DecidableEq

/-- What messages and logs show of a query. -/
def excerptOf (sql : String) : String :=
  String.ofList (Text.excerpt sql.toList)

namespace Statement

/-- The statement with the names that its constraints are written under.  A table definition
without columns is left as it is. -/
def prepared (style : Style) : Statement → Statement
  | createTable d =>
    if d.columns.isEmpty then createTable d
    else createTable { d with constraints := d.constraints.map (Constraint.prepared style) }
  | addConstraint c => addConstraint (c.prepared style)
  | s => s

/-- The names of the constraints of a statement that defines some. -/
def constraintNames? : Statement → Option (List (Option String))
  | createTable d => some (d.constraints.map (·.name))
  | addConstraint c => some [c.name]
  | _ => none

/-- A statement as it stands. -/
def rawAttempt (style : Style) (scope : Scope) : Statement → Attempt
  | select q => q.attempt style scope
  | insert q => q.attempt style scope
  | update q => q.attempt style scope
  | delete q => q.attempt style scope
  | createTable d => d.attempt style scope
  | dropTable t => t.removalAttempt style scope
  | addConstraint c => c.additionAttempt style scope

/-- A statement, with names for its constraints. -/
def attempt (style : Style) (scope : Scope) (s : Statement) : Attempt :=
  (s.prepared style).rawAttempt style scope

end Statement

/-- The query that was written, or the failure that counts: a moment that could not be written, or
else the failure that stopped the writing, or else the first one recorded. -/
def Attempt.compiled (a : Attempt) : Report CompiledQuery :=
  match Piece.momentOf? a.written, a.failure.or (Piece.failureOf? a.written) with
  | some moment, _ => .unlogged (.ofCause (.outsideCalendar moment))
  | none, some failure => .fail failure
  | none, none => .ok ⟨Piece.textOf a.written, Piece.parametersOf a.written⟩

/-- The SQL of a statement. -/
def Style.compile (style : Style) (s : Statement) : Report CompiledQuery :=
  (s.attempt style {}).compiled

/-- The SQL of a statement, and the statement as it is left: with the names that its constraints
were to be written under, whether or not SQL came out of it. -/
def Style.compileInPlace (style : Style) (s : Statement) : Report CompiledQuery × Statement :=
  (style.compile s, s.prepared style)

end SqlDialect
