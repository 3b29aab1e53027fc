import SqlDialect.Dialect
import SqlDialect.ServerVersion
import SqlDialect.Session.Cursor

/-!
# Sessions

A session is a connection to an OpenEdge server together with what the dialect remembers,
the version of the server.  An operation of a session reports its result and what it
logged.
-/

namespace SqlDialect

/-- A connection, read in one of the two ways, and the version of the server once it is known. -/
structure Session where
  reading : Reading
  version : Option ServerVersion := none
  script : Script := {}

namespace Session

/-- The dialect of a session. -/
def dialect (s : Session) : Dialect :=
  match s.reading with
  | .blocking => .odbc
  | .streaming => .odbcAsync

end Session

/-- An operation of a session. -/
def Operation (α : Type) := Session → Report α × Session

namespace Operation

/-- A report that needs no session. -/
def report {α : Type} (r : Report α) : Operation α := fun s => (r, s)

/-- One operation and, if it succeeds, another. -/
def bind {α β : Type} (first : Operation α) (next : α → Operation β) : Operation β :=
  fun s =>
    match first s with
    | (⟨.ok x, log⟩, s) =>
      let (r, s) := next x s
      (⟨r.result, log ++ r.log⟩, s)
    | (⟨.error f, log⟩, s) => (⟨.error f, log⟩, s)

instance : Monad Operation where
  pure x := report (.ok x)
  bind := bind

/-- An exchange with the server whose result is turned into a report. -/
def exchange {α β : Type} (turn : Except Failure α → Report β) (e : Exchange α) :
    Operation β :=
  fun s =>
    let (result, script) := e s.script
    (turn result, { s with script := script })

/-- The SQL of a statement for the dialect of the session. -/
def compile (statement : Statement) : Operation CompiledQuery := fun s =>
  (s.dialect.compile statement, s)

end Operation

end SqlDialect
