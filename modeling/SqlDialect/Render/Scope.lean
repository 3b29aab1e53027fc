/-!
# Scopes

Where in a statement something is written, and what that changes: tables declare their
aliases in the FROM clause of a query and renamings are left out of its ORDER BY clause,
columns may be qualified with their tables, and values may have to be written into the
text instead of bound to markers.
-/

namespace SqlDialect

/-- The parts of statements. -/
inductive Clause
  | none
  | casting
  | alterTable
  | createTable
  | createTableConstraint
  | deleteFrom
  | deleteWhere
  | dropTable
  | insertInto
  | insertValues
  | select
  | selectFrom
  | selectWhere
  | selectOrderBy
  | selectPagination
  | update
  | updateSet
  | updateWhere
deriving DecidableEq

/-- The place where something is written. -/
structure Scope where
  clause : Clause := .none
  qualified : Bool := false
  inline : Bool := false
deriving DecidableEq

namespace Scope

/-- The scope in another part of the statement. -/
def entering (clause : Clause) (scope : Scope) : Scope := { scope with clause }

/-- The scope in which values are written into the text. -/
def inlining (scope : Scope) : Scope := { scope with inline := true }

/-- The scope in which columns are qualified. -/
def qualifying (scope : Scope) : Scope := { scope with qualified := true }

end Scope

end SqlDialect
