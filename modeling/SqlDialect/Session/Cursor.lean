import SqlDialect.Session.Script

/-!
# Cursors

A statement is run on a cursor, from which its rows are read.  A blocking connection reads
row by row, and needs one request more than there are rows to learn that there are no
more; a connection that does not block asks once and gets all the rows.
-/

namespace SqlDialect

/-- How rows are read. -/
inductive Reading
  | blocking
  | streaming
deriving DecidableEq

/-- What reading the rows of a cursor came to: the rows or the failure, and the number of requests
that the server took. -/
structure Harvest where
  rows : Except Failure (List Row)
  requests : Nat

/-- Reading row by row, when so many rows were asked for before. -/
def Harvest.byRow (fault : Option FetchFault) : (asked : Nat) → List Row → Harvest
  | asked, rows =>
    match fault.filter (·.delivered = asked) with
    | some fault => ⟨.error fault.failure, 0⟩
    | none =>
      match rows with
      | [] => ⟨.ok [], 1⟩
      | row :: rest =>
        let harvest := byRow fault (asked + 1) rest
        ⟨harvest.rows.map (row :: ·), harvest.requests + 1⟩

/-- Reading all the rows at once. -/
def Harvest.atOnce (fault : Option FetchFault) (rows : List Row) : Harvest :=
  match fault.filter (·.delivered ≤ rows.length) with
  | some fault => ⟨.error fault.failure, 1⟩
  | none => ⟨.ok rows, 1⟩

/-- Reading the rows. -/
def Harvest.of (reading : Reading) (fault : Option FetchFault) (rows : List Row) : Harvest :=
  match reading with
  | .blocking => byRow fault 0 rows
  | .streaming => atOnce fault rows

/-- The result of a statement that waits to be read. -/
structure Cursor where
  rows : List Row := []
  rowCount : Option Nat := none

namespace Cursor

/-- A new cursor. -/
def create : Exchange Cursor := fun s =>
  match s.faults.cursor with
  | f :: rest => (.error f, { s with faults.cursor := rest })
  | [] => (.ok {}, s.record .cursor)

/-- Running a statement: it leads to the next outcome, or else to the default rows. -/
def execute (sql : String) (parameters : List Value) : Exchange Cursor := fun s =>
  let s := { s.record (.execute sql) with parameters := s.parameters ++ [parameters] }
  let (outcome, s) := match s.outcomes with
    | outcome :: rest => (outcome, { s with outcomes := rest })
    | [] => (.rows s.defaultRows, s)
  (outcome.result.map fun (rows, count) => { rows := rows, rowCount := some count }, s)

/-- Reading the rows, which takes the next fault. -/
def read (reading : Reading) (c : Cursor) : Exchange (List Row) := fun s =>
  let harvest := Harvest.of reading s.faults.fetch.head? c.rows
  (harvest.rows, { s with
    faults.fetch := s.faults.fetch.tail
    calls := s.calls ++ List.replicate harvest.requests .fetch })

/-- The count of affected rows, unless it is missing. -/
def affected (c : Cursor) : Exchange (Option Nat) := fun s =>
  match s.faults.rowCount with
  | missing + 1 => (.ok none, { s with faults.rowCount := missing })
  | 0 => (.ok c.rowCount, s)

/-- Closing the cursor. -/
def close : Exchange Unit := fun s =>
  let s := s.record .close
  match s.faults.close with
  | f :: rest => (.error f, { s with faults.close := rest })
  | [] => (.ok (), s)

/-- Reading the rows if they are asked for. -/
def readIf (wantsRows : Bool) (reading : Reading) (c : Cursor) : Exchange (List Row) :=
  if wantsRows then c.read reading else Exchange.pure []

/-- Running a statement on a cursor that is there: the rows, if they are asked for, and the count
of affected rows. -/
def answer (reading : Reading) (sql : String) (parameters : List Value) (wantsRows : Bool) :
    Exchange (List Row × Option Nat) := do
  let cursor ← execute sql parameters
  let rows ← cursor.readIf wantsRows reading
  return (rows, ← cursor.affected)

/-- Running a statement on a new cursor, which is closed in any case. -/
def run (reading : Reading) (sql : String) (parameters : List Value) (wantsRows : Bool) :
    Exchange (List Row × Option Nat) := do
  let _ ← create
  Exchange.andFinally (answer reading sql parameters wantsRows) close

end Cursor

end SqlDialect
