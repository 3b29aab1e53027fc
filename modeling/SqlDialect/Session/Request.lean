import SqlDialect.Session.Operations

/-!
# Requests

What a session can be asked to do, as data.  A request that comes with a statement leaves
the statement with the names that its constraints were written under.  Requests are made
one after the other.
-/

namespace SqlDialect

/-- A request to a session. -/
inductive Request
  | execute (statement : Statement)
  | fetchAll (statement : Statement) (types : List ColumnType)
  | nextValue (sequence : Sequence)
  | hasTable (name : String)
  | hasSequence (name : String)
  | ping
  | learnVersion
  | connect (url : String)

/-- What a request is answered with. -/
inductive Answer
  | affected (count : Option Nat)
  | rows (rows : List Row)
  | integer (n : Int)
  | truth (holds : Bool)
  | done
deriving DecidableEq

namespace Request

/-- The operation that answers a request. -/
def operation : Request → Operation Answer
  | execute statement => return .affected (← Session.execute statement)
  | fetchAll statement types => return .rows (← Session.fetchAll statement types)
  | nextValue sequence => return .integer (← Session.nextValue sequence)
  | hasTable name => return .truth (← Session.hasTable name)
  | hasSequence name => return .truth (← Session.hasSequence name)
  | ping => return .truth (← Session.ping)
  | learnVersion => do
    Session.learnVersion
    return .done
  | connect url => do
    Session.connect url
    return .done

/-- The request as it is left. -/
def left (d : Dialect) : Request → Request
  | execute statement => execute (d.compileInPlace statement).2
  | fetchAll statement types => fetchAll (d.compileInPlace statement).2 types
  | r => r

end Request

/-- What comes of a request: the report, and the request as it is left. -/
structure Reply where
  report : Report Answer
  left : Request

namespace Session

/-- A request is made. -/
def ask (r : Request) (s : Session) : Reply × Session :=
  let (report, after) := r.operation s
  (⟨report, r.left s.dialect⟩, after)

/-- Requests are made one after the other. -/
def askAll : List Request → Session → List Reply × Session
  | [], s => ([], s)
  | r :: rest, s =>
    let (reply, s) := s.ask r
    let (replies, s) := askAll rest s
    (reply :: replies, s)

end Session

end SqlDialect
