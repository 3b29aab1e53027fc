import SqlDialect.Render.Literal
import SqlDialect.Session.Basic

/-!
# Operations of sessions

Running statements, reading rows, asking for the next value of a sequence, looking up
tables and sequences, pinging, connecting, and learning the version of the server.  A
failure while a statement is run names the statement; one met before or after does not.  The
catalog queries have a row exactly when there is what they ask for.  A ping runs the
cheapest statement there is to learn whether a connection can be used: a failure with a
driver error is a failure of the ping, and any other means that the connection cannot be
used.  The version is recorded once, and only a blocking connection asks the server for it.
-/

namespace SqlDialect

/-! ## Catalog queries -/

namespace Catalog

/-- The query for a table. -/
def tableQuery (name : String) : String :=
  "SELECT 1 FROM " ++ OpenEdge.systemSchema ++ ".SYSTABLES WHERE OWNER='"
    ++ OpenEdge.userSchema ++ "' AND TBL=" ++ (Piece.literal name).text

/-- The query for a sequence. -/
def sequenceQuery (name : String) : String :=
  "SELECT 1 FROM " ++ OpenEdge.systemSchema ++ ".SYSSEQUENCES WHERE \"SEQ-OWNER\"='"
    ++ OpenEdge.userSchema ++ "' AND \"SEQ-NAME\"=" ++ (Piece.literal name).text

end Catalog

/-! ## Pings -/

/-- A statement without rows that proves that the server is reached. -/
def OpenEdge.pingQuery : String := "SELECT 1 FROM " ++ calcTable ++ " WHERE 1=0"

/-- The exchange of a ping. -/
def Cursor.ping : Exchange Unit := do
  let _ ← create
  Exchange.andFinally (do
    let _ ← execute OpenEdge.pingQuery []
    return ()) close

/-- What the exchange of a ping says of the connection. -/
def pingReport : Except Failure Unit → Report Bool
  | .ok () => .ok true
  | .error f =>
    if f.driverErrors.isEmpty then
      ⟨.ok false, [⟨.warning,
        "Ping failed, the connection is considered unusable: " ++ f.message⟩]⟩
    else .fail (f.within .pinging)

/-- Whether the connection of a session can be used. -/
def Session.ping : Operation Bool :=
  Operation.exchange pingReport Cursor.ping

/-! ## Operations -/

namespace Session

/-- What came of running a query; a failure names the query. -/
def queryReport (sql : String) :
    Except Failure (List Row × Option Nat) → Report (List Row × Option Nat)
  | .ok answer => .ok answer
  | .error f => .fail (f.within (.executing (excerptOf sql)))

/-- Running a compiled query. -/
def run (sql : String) (parameters : List Value) (wantsRows : Bool) :
    Operation (List Row × Option Nat) := fun s =>
  Operation.exchange (queryReport sql) (Cursor.run s.reading sql parameters wantsRows) s

/-- Running a statement: the count of affected rows. -/
def execute (statement : Statement) : Operation (Option Nat) := do
  let query ← Operation.compile statement
  let (_, count) ← run query.sql query.parameters false
  return count

/-- Running a statement: its rows, decoded by the types of their columns. -/
def fetchAll (statement : Statement) (types : List ColumnType) : Operation (List Row) := do
  let query ← Operation.compile statement
  let (rows, _) ← run query.sql query.parameters true
  Operation.report (Value.decodeRows types rows)

/-- The integer in the first cell of the first row. -/
def firstInteger (sequence : Sequence) (rows : List Row) : Report Int :=
  let cell := (rows.headD []).headD .null
  match cell.integer? with
  | some n => .ok n
  | none =>
    .fail ((Failure.ofCause (.typeMismatch "INTEGER" cell.typeName)).within
      (.readingNextValue sequence.name))

/-- The next value of a sequence. -/
def nextValue (sequence : Sequence) : Operation Int := do
  let statement := Statement.select { columns := [.nextValue sequence] }
  let query ← Operation.report (Style.openEdge.compile statement)
  let (rows, _) ← run query.sql [] true
  Operation.report (firstInteger sequence rows)

/-- Whether a query has rows. -/
def hasRows (sql : String) : Operation Bool := do
  let (rows, _) ← run sql [] true
  return !rows.isEmpty

/-- Whether there is a table with the given name. -/
def hasTable (name : String) : Operation Bool := hasRows (Catalog.tableQuery name)

/-- Whether there is a sequence with the given name. -/
def hasSequence (name : String) : Operation Bool := hasRows (Catalog.sequenceQuery name)

/-- The version in what a server says of itself; one that cannot be read counts as unknown. -/
def versionReport : Except Failure String → Report ServerVersion
  | .error f => .fail (f.within .readingServerVersion)
  | .ok text =>
    match ServerVersion.parse? text.toList with
    | some version => .ok version
    | none =>
      ⟨.ok .unknown, [⟨.warning, "Could not parse the OpenEdge server version `" ++ text
        ++ "`, recording " ++ ServerVersion.unknown.text⟩]⟩

/-- The version of the server, which is unknown when the server is not asked. -/
def serverVersion : Operation ServerVersion := fun s =>
  match s.reading with
  | .blocking => Operation.exchange versionReport (Script.info .version) s
  | .streaming => (.ok .unknown, s)

/-- The version is recorded, unless one was recorded before. -/
def recordVersion (version : ServerVersion) : Operation Unit := fun s =>
  (.ok (), { s with version := s.version.or (some version) })

/-- Learning the version of the server. -/
def learnVersion : Operation Unit := do
  recordVersion (← serverVersion)

/-- What came of connecting; a failure names the server. -/
def connectionReport (url : String) : Except Failure Unit → Report Unit
  | .ok () => .ok ()
  | .error f => .fail (f.within (.connecting url))

/-- Connecting to the server. -/
def connect (url : String) : Operation Unit :=
  Operation.exchange (connectionReport url) (Script.connect url)

/-- The name that the server goes by. -/
def serverName : Operation String :=
  Operation.exchange (fun result => ⟨result, []⟩) (Script.info .name)

end Session

end SqlDialect
