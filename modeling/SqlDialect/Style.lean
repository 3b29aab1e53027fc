import SqlDialect.ColumnType.Basic

/-!
# Styles

How a database spells SQL where databases differ: standard SQL, which may want every FETCH
FIRST clause to stand behind an OFFSET clause, and OpenEdge.
-/

namespace SqlDialect

/-- A way of spelling SQL. -/
inductive Style
  | standard (fetchNeedsOffset : Bool)
  | openEdge
deriving DecidableEq

namespace Style

/-- Standard SQL. -/
abbrev generic : Style := standard false

/-- Standard SQL with an OFFSET clause before every FETCH FIRST clause. -/
abbrev genericWithOffset : Style := standard true

/-- A FETCH FIRST clause wants an OFFSET clause before it. -/
def fetchNeedsOffset : Style → Bool
  | standard needed => needed
  | openEdge => false

/-- The spelling of a truth value. -/
def boolean : Style → Bool → String
  | standard _, true => "true"
  | standard _, false => "false"
  | openEdge, true => "1"
  | openEdge, false => "0"

/-- The spelling of the current timestamp. -/
def currentTimestamp : Style → String
  | standard _ => "CURRENT_TIMESTAMP"
  | openEdge => "SYSDATE"

/-- The name of a column type. -/
def typeName : Style → ColumnType → Except CompileFault String
  | standard _, type => .ok type.standardName
  | openEdge, type => type.openEdgeName

end Style

end SqlDialect
