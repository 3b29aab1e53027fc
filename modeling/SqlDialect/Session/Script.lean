import SqlDialect.Failure.Basic
import SqlDialect.Value.Basic

/-!
# Scripted servers

A server that answers by a script: the outcomes of the statements to come, what is
answered when they run out, and the faults to come, each kind first come first served.  It
keeps a record of the calls made to it and of the parameters of each statement.
-/

namespace SqlDialect

/-- What a statement leads to. -/
inductive Outcome
  | rows (rows : List Row)
  | affected (count : Nat)
  | driver (error : DriverError)
  | failure (text : String)

/-- The rows of an outcome and the count of affected rows, or the failure. -/
def Outcome.result : Outcome → Except Failure (List Row × Nat)
  | .rows found => .ok (found, found.length)
  | .affected count => .ok ([], count)
  | .driver error => .error (.ofCause (.driver error))
  | .failure text => .error (.ofCause (.stated text))

/-- What a connection can tell of its server. -/
inductive ServerInfo
  | name
  | version
deriving DecidableEq

/-- A call made to a server. -/
inductive Call
  | connect (url : String)
  | cursor
  | execute (sql : String)
  | fetch
  | close
  | info (item : ServerInfo)
deriving DecidableEq

/-- A fault in the reading of rows: so many rows are delivered, and then the reading fails. -/
structure FetchFault where
  delivered : Nat
  failure : Failure

/-- The faults to come, by the place where they strike. -/
structure Faults where
  connect : List Failure := []
  cursor : List Failure := []
  fetch : List FetchFault := []
  close : List Failure := []
  /-- How many counts of affected rows will be missing. -/
  rowCount : Nat := 0

/-- A fault to come. -/
inductive Fault
  | connect (failure : Failure)
  | cursor (failure : Failure)
  | fetch (delivered : Nat) (failure : Failure)
  | close (failure : Failure)
  | rowCount

/-- The faults with one more, which strikes after those of its place. -/
def Faults.add (fault : Fault) (faults : Faults) : Faults :=
  match fault with
  | .connect f => { faults with connect := faults.connect ++ [f] }
  | .cursor f => { faults with cursor := faults.cursor ++ [f] }
  | .fetch delivered f => { faults with fetch := faults.fetch ++ [⟨delivered, f⟩] }
  | .close f => { faults with close := faults.close ++ [f] }
  | .rowCount => { faults with rowCount := faults.rowCount + 1 }

/-- What a server will answer and what it was asked. -/
structure Script where
  outcomes : List Outcome := []
  defaultRows : List Row := []
  version : Option String := none
  faults : Faults := {}
  calls : List Call := []
  parameters : List (List Value) := []

/-- An exchange with a server: it changes the script and may fail. -/
def Exchange (α : Type) := Script → Except Failure α × Script

namespace Exchange

/-- No exchange at all. -/
def pure {α : Type} (x : α) : Exchange α := fun s => (.ok x, s)

/-- One exchange and, if it succeeds, another. -/
def bind {α β : Type} (first : Exchange α) (next : α → Exchange β) : Exchange β := fun s =>
  match first s with
  | (.ok x, s) => next x s
  | (.error f, s) => (.error f, s)

instance : Monad Exchange where
  pure := pure
  bind := bind

/-- One exchange and, whether or not it succeeds, another; the failure of the first counts. -/
def andFinally {α : Type} (first : Exchange α) (last : Exchange Unit) : Exchange α := fun s =>
  match first s with
  | (.error f, s) => (.error f, (last s).2)
  | (.ok x, s) =>
    match last s with
    | (.ok _, s) => (.ok x, s)
    | (.error f, s) => (.error f, s)

end Exchange

namespace Script

/-- The script with one more outcome, after those that it has. -/
def queue (outcome : Outcome) (s : Script) : Script :=
  { s with outcomes := s.outcomes ++ [outcome] }

/-- The script with one more fault. -/
def addFault (fault : Fault) (s : Script) : Script := { s with faults := s.faults.add fault }

/-- The script with one more call on record. -/
def record (call : Call) (s : Script) : Script := { s with calls := s.calls ++ [call] }

/-- The script with its record empty. -/
def withoutRecord (s : Script) : Script := { s with calls := [], parameters := [] }

/-- Connecting to the server. -/
def connect (url : String) : Exchange Unit := fun s =>
  let s := s.record (.connect url)
  match s.faults.connect with
  | f :: rest => (.error f, { s with faults.connect := rest })
  | [] => (.ok (), s)

/-- Asking what a connection can tell of its server. -/
def info (item : ServerInfo) : Exchange String := fun s =>
  let s := s.record (.info item)
  match item, s.version with
  | .name, _ => (.ok "OpenEdge", s)
  | .version, some version => (.ok version, s)
  | .version, none => (.error (.ofCause (.stated "getinfo is not supported")), s)

end Script

end SqlDialect
