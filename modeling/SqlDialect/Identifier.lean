import SqlDialect.Style

/-!
# Identifiers

Which names can stand in SQL as they are, and which have to be quoted: words of letters,
digits and underscores that do not start with a digit and are not reserved can stand bare.
In standard SQL the letters have to be lower case.  Each style keeps words for itself, in any
letter case; they are kept in ascending order, and a word is looked up by halving.
-/

namespace SqlDialect

/-! ## Reserved words -/

/-- The reserved words of standard SQL, in lower case and ascending order. -/
def standardReserved : List String :=
  ["all", "and", "as", "asc", "between", "by", "case", "check", "column", "constraint", "create",
    "default", "delete", "desc", "distinct", "drop", "else", "end", "exists", "false", "fetch",
    "for", "foreign", "from", "grant", "group", "having", "in", "insert", "into", "is", "join",
    "key", "like", "limit", "not", "null", "offset", "on", "or", "order", "primary", "references",
    "select", "set", "table", "then", "to", "true", "union", "unique", "update", "user", "using",
    "values", "when", "where", "with"]

/-- The reserved words of OpenEdge, in upper case and ascending order. -/
def openEdgeReserved : List String :=
  ["ADD", "ALL", "ALTER", "AND", "ANY", "AS", "ASC", "AVG", "BEGIN", "BETWEEN", "BIGINT", "BIT",
    "BY", "CASE", "CAST", "CHAR", "CHARACTER", "CHECK", "CLOSE", "COLUMN", "COMMIT", "CONNECT",
    "CONSTRAINT", "CONTAINS", "COUNT", "CREATE", "CURRENT", "CURSOR", "DATE", "DECIMAL",
    "DECLARE", "DEFAULT", "DELETE", "DESC", "DISTINCT", "DOUBLE", "DROP", "ELSE", "END", "ESCAPE",
    "EXISTS", "FETCH", "FLOAT", "FOR", "FOREIGN", "FROM", "GRANT", "GROUP", "HAVING", "IN",
    "INDEX", "INSERT", "INTEGER", "INTO", "IS", "JOIN", "KEY", "LEFT", "LIKE", "MAX", "MIN",
    "NOT", "NULL", "NUMERIC", "OF", "OFFSET", "ON", "OPEN", "OPTION", "OR", "ORDER", "OUTER",
    "PRECISION", "PRIMARY", "PRIVILEGES", "PUBLIC", "REAL", "REFERENCES", "RESOURCE", "REVOKE",
    "RIGHT", "ROLLBACK", "ROWID", "ROWNUM", "ROWS", "SELECT", "SET", "SMALLINT", "SOME", "SUM",
    "SYNONYM", "SYSDATE", "SYSTIME", "SYSTIMESTAMP", "TABLE", "THEN", "TIME", "TIMESTAMP",
    "TINYINT", "TO", "UNION", "UNIQUE", "UPDATE", "USER", "USING", "VALUES", "VARCHAR", "VIEW",
    "WHEN", "WHERE", "WITH", "WORK"]

/-- The word is found in a table in ascending order.  The word in the middle of the table tells in
which half to look on. -/
def foundIn (word : String) (table : List String) : Bool :=
  match _h : table.drop (table.length / 2) with
  | [] => false
  | middle :: above =>
    if word = middle then true
    else if word < middle then foundIn word (table.take (table.length / 2))
    else foundIn word above
termination_by table.length
decreasing_by
  all_goals
    have hlength := congrArg List.length _h
    simp only [List.length_drop, List.length_cons, List.length_take] at hlength ⊢
    omega

/-- The word is reserved, in whatever letter case. -/
def Style.isReserved (style : Style) (word : String) : Bool :=
  match style with
  | .standard _ => foundIn (word.map Char.toLower) standardReserved
  | .openEdge => foundIn (word.map Char.toUpper) openEdgeReserved

/-! ## Names that stand bare -/

/-- An ASCII lower case letter or an underscore. -/
def isLowerStart (c : Char) : Bool := c.isLower || c = '_'

/-- An ASCII lower case letter, an ASCII digit or an underscore. -/
def isLowerWord (c : Char) : Bool := isLowerStart c || c.isDigit

/-- An ASCII letter, an ASCII digit or an underscore. -/
def isAnyWord (c : Char) : Bool := c.isAlphanum || c = '_'

/-- The shape of a name that can stand bare, if it is not reserved. -/
def Style.isWord : Style → List Char → Bool
  | _, [] => false
  | standard _, first :: rest => isLowerStart first && rest.all isLowerWord
  | openEdge, first :: rest => !first.isDigit && (first :: rest).all isAnyWord

/-- The name has to be quoted. -/
def Style.needsQuotes (style : Style) (name : String) : Bool :=
  !style.isWord name.toList || style.isReserved name

end SqlDialect
