import Mathlib.Tactic.Use
import SqlDialect.Session.Operations

/-!
# Turns of queries

On a connection without faults nothing goes wrong but the queries themselves.  Each of
them has its turn: it takes the oldest outcome, and makes one complete stretch of calls,
from the opening of a cursor to its closing.
-/

namespace SqlDialect

/-- A query as it is sent, and whether its rows are read. -/
structure Query where
  sql : String
  parameters : List Value
  readsRows : Bool

/-- The query of a ping. -/
def Query.ping : Query := ⟨OpenEdge.pingQuery, [], false⟩

/-- A query with the outcome that it leads to. -/
structure Turn where
  query : Query
  outcome : Outcome

/-- How many times rows are asked for until all of them are read. -/
def Reading.requests (rows : List Row) : Reading → Nat
  | blocking => rows.length + 1
  | streaming => 1

namespace Turn

/-- How many times rows are asked for: not at all, unless the query succeeds and its rows are
read. -/
def fetches (reading : Reading) (t : Turn) : Nat :=
  match t.query.readsRows, t.outcome.result with
  | true, .ok (rows, _) => reading.requests rows
  | _, _ => 0

/-- The calls of a turn. -/
def calls (reading : Reading) (t : Turn) : List Call :=
  .cursor :: .execute t.query.sql :: (List.replicate (t.fetches reading) .fetch ++ [.close])

/-- The calls of a turn, if there is one. -/
def calls? (reading : Reading) (turn? : Option Turn) : List Call := turn?.elim [] (calls reading)

/-- What comes of a turn: the rows, if they are read, and the count of affected rows. -/
def result (t : Turn) : Except Failure (List Row × Option Nat) :=
  t.outcome.result.map fun (rows, count) => (if t.query.readsRows then rows else [], some count)

end Turn

namespace Script

/-- The outcome that comes next. -/
def next (s : Script) : Outcome := s.outcomes.headD (.rows s.defaultRows)

/-- The script after some calls, in which a query may have had its turn. -/
def after (calls : List Call) (turn? : Option Turn) (s : Script) : Script :=
  match turn? with
  | none => { s with calls := s.calls ++ calls }
  | some t => { s with
    outcomes := s.outcomes.tail
    calls := s.calls ++ calls
    parameters := s.parameters ++ [t.query.parameters] }

variable (calls : List Call) (turn? : Option Turn) (s : Script)

/-- Faults stay the same through a turn. -/
theorem faults_after :
  (s.after calls turn?).faults = s.faults
  := by
  cases turn? <;> rfl

/-- The version of the server stays the same through a turn. -/
theorem version_after :
  (s.after calls turn?).version = s.version
  := by
  cases turn? <;> rfl

/-- Nothing changes when nothing was called. -/
theorem after_nil :
  s.after [] none = s
  := by
  rw [after, List.append_nil]

end Script

/-! ## Cursors without faults -/

namespace Exchange

variable {α β : Type} {first : Exchange α} {next : α → Exchange β} {s after : Script}

/-- An exchange goes on with what came of the one before it. -/
theorem bind_of_ok {x : α} (h : first s = (.ok x, after)) :
  (first >>= next) s = next x after
  := by
  change bind first next s = _
  rw [bind, h]

/-- An exchange stops at a failure of the one before it. -/
theorem bind_of_error {f : Failure} (h : first s = (.error f, after)) :
  (first >>= next) s = (.error f, after)
  := by
  change bind first next s = _
  rw [bind, h]

end Exchange

/-- Without a fault all rows are read one by one, with a request more that finds none. -/
theorem Harvest.byRow_none (asked : Nat) (rows : List Row) :
  Harvest.byRow none asked rows = ⟨.ok rows, rows.length + 1⟩
  := by
  induction rows generalizing asked with
  | nil => rfl
  | cons row rest ih =>
    rw [byRow]
    dsimp only [Option.filter_none]
    rw [ih]
    rfl

/-- Without a fault all rows are read, however they are read. -/
theorem Harvest.of_none (reading : Reading) (rows : List Row) :
  Harvest.of reading none rows = ⟨.ok rows, reading.requests rows⟩
  := by
  cases reading with
  | blocking => exact byRow_none 0 rows
  | streaming => rfl

namespace Cursor

/-- The outcome that is next answers an execution. -/
theorem execute_eq (sql : String) (parameters : List Value) (s : Script) :
  execute sql parameters s
    = (s.next.result.map fun (rows, count) => { rows := rows, rowCount := some count },
      { s with
        outcomes := s.outcomes.tail
        calls := s.calls ++ [.execute sql]
        parameters := s.parameters ++ [parameters] })
  := by
  obtain ⟨outcomes, rows, version, faults, calls, parameters⟩ := s
  cases outcomes <;> rfl

/-- Without faults a cursor is made. -/
theorem create_eq {s : Script} (h : s.faults = {}) :
  create s = (.ok {}, s.record .cursor)
  := by
  rw [create, h]

/-- Without faults a cursor is closed in the end, whatever came of it before. -/
theorem andFinally_close {α : Type} {first : Exchange α} {s after : Script}
    {result : Except Failure α} (hfirst : first s = (result, after)) (h : after.faults = {}) :
  Exchange.andFinally first close s = (result, after.record .close)
  := by
  have hclose : close after = (.ok (), after.record .close) := by
    have hfaults : (after.record .close).faults.close = [] := by
      change after.faults.close = []
      rw [h]
    rw [close]
    dsimp only
    rw [hfaults]
  rw [Exchange.andFinally, hfirst]
  cases result with
  | error f =>
    dsimp only
    rw [hclose]
  | ok x =>
    dsimp only
    rw [hclose]

/-- Without faults the rows of a cursor are read. -/
theorem read_eq (reading : Reading) (c : Cursor) {s : Script} (h : s.faults = {}) :
  read reading c s = (.ok c.rows, { s with
    calls := s.calls ++ List.replicate (reading.requests c.rows) .fetch })
  := by
  obtain ⟨outcomes, rows, version, faults, calls, parameters⟩ := s
  obtain rfl : faults = {} := h
  rw [read]
  dsimp only [List.head?_nil, List.tail_nil]
  rw [Harvest.of_none]

/-- Without faults the number of affected rows is read. -/
theorem affected_eq (c : Cursor) {s : Script} (h : s.faults = {}) :
  affected c s = (.ok c.rowCount, s)
  := by
  rw [affected, h]

/-- Without faults rows are read where they are wanted, and otherwise none. -/
theorem readIf_eq (wantsRows : Bool) (reading : Reading) (c : Cursor) {s : Script}
    (h : s.faults = {}) :
  readIf wantsRows reading c s = (.ok (if wantsRows then c.rows else []), { s with
    calls := s.calls ++ List.replicate (if wantsRows then reading.requests c.rows else 0) .fetch })
  := by
  cases wantsRows with
  | false =>
    rw [if_neg Bool.false_ne_true, if_neg Bool.false_ne_true, List.replicate_zero, List.append_nil]
    rfl
  | true =>
    rw [readIf, if_pos rfl, if_pos rfl, if_pos rfl, read_eq reading c h]

/-- Without faults a query is answered by the outcome that is next. -/
theorem answer_eq (reading : Reading) (q : Query) {s : Script} (h : s.faults = {}) :
  answer reading q.sql q.parameters q.readsRows s
    = (Turn.result ⟨q, s.next⟩, { s with
      outcomes := s.outcomes.tail
      calls := s.calls ++ .execute q.sql :: List.replicate (Turn.fetches reading ⟨q, s.next⟩) .fetch
      parameters := s.parameters ++ [q.parameters] })
  := by
  have hexecute := execute_eq q.sql q.parameters s
  rw [Turn.result, Turn.fetches, answer]
  dsimp only
  generalize s.next.result = result at hexecute ⊢
  cases result with
  | error f =>
    rw [Exchange.bind_of_error hexecute]
    cases q.readsRows <;> rfl
  | ok found =>
    rw [Exchange.bind_of_ok hexecute]
    refine Eq.trans (Exchange.bind_of_ok (readIf_eq q.readsRows reading _ h)) ?_
    refine Eq.trans (Exchange.bind_of_ok (affected_eq _ h)) ?_
    rw [List.append_assoc]
    cases q.readsRows <;> rfl

/-- What is done on a new cursor that is closed in any case makes the calls of a turn. -/
theorem onCursor_eq {α : Type} {body : Exchange α} {result : Except Failure α} {reading : Reading}
    {t : Turn} {s : Script} (h : s.faults = {})
    (hbody : body (s.record .cursor) = (result, { s with
      outcomes := s.outcomes.tail
      calls := s.calls ++ [.cursor] ++ .execute t.query.sql
        :: List.replicate (t.fetches reading) .fetch
      parameters := s.parameters ++ [t.query.parameters] })) :
  (do
    let _ ← create
    Exchange.andFinally body close : Exchange α) s = (result, s.after (t.calls reading) (some t))
  := by
  rw [Exchange.bind_of_ok (create_eq h), andFinally_close hbody h]
  simp only [Script.record, Script.after, Turn.calls, List.append_assoc, List.cons_append,
    List.nil_append]

/-- On a connection without faults a query has its turn. -/
theorem run_eq (reading : Reading) (q : Query) {s : Script} (h : s.faults = {}) :
  run reading q.sql q.parameters q.readsRows s
    = (Turn.result ⟨q, s.next⟩, s.after (Turn.calls reading ⟨q, s.next⟩) (some ⟨q, s.next⟩))
  := by
  apply onCursor_eq h
  exact answer_eq reading q h

/-- On a connection without faults a ping has its turn. -/
theorem ping_eq (reading : Reading) {s : Script} (h : s.faults = {}) :
  ping s = ((Turn.mk .ping s.next).result.map fun _ => (),
    s.after ((Turn.mk .ping s.next).calls reading) (some ⟨.ping, s.next⟩))
  := by
  apply onCursor_eq h
  have hexecute := execute_eq OpenEdge.pingQuery [] (s.record .cursor)
  change _ = (((s.record .cursor).next.result.map _).map _, _)
  generalize (s.record .cursor).next.result = result at hexecute ⊢
  cases result with
  | error f => exact Exchange.bind_of_error hexecute
  | ok found => exact Exchange.bind_of_ok hexecute

end Cursor

/-! ## Complete calls -/

/-- The stretches of calls after which nothing is left open. -/
inductive Call.Complete : List Call → Prop
  | connect (url : String) : Complete [.connect url]
  | version : Complete [.info .version]
  | cursor (sql : String) (n : Nat) :
    Complete (.cursor :: .execute sql :: (List.replicate n .fetch ++ [.close]))

/-- The SQL of a call that runs some. -/
def Call.sql? : Call → Option String
  | execute sql => some sql
  | _ => none

namespace Turn

/-- Rows are fetched in a turn only if it wants them and was answered. -/
theorem fetch_mem_calls {reading : Reading} {t : Turn} (h : .fetch ∈ t.calls reading) :
  t.query.readsRows = true ∧ ∃ found, t.outcome.result = .ok found
  := by
  have hfetches : t.fetches reading ≠ 0 := by
    intro hnone
    simp [calls, hnone] at h
  rw [fetches] at hfetches
  cases hreads : t.query.readsRows with
  | false => simp [hreads] at hfetches
  | true =>
    use rfl
    cases hresult : t.outcome.result with
    | error f => simp [hreads, hresult] at hfetches
    | ok found => use found

/-- There is one statement in the calls of a turn. -/
theorem sql_calls (reading : Reading) (t : Turn) :
  (t.calls reading).filterMap Call.sql? = [t.query.sql]
  := by
  have hfetches : (List.replicate (t.fetches reading) Call.fetch).filterMap Call.sql? = [] := by
    simp [Call.sql?]
  rw [calls, List.filterMap_cons, List.filterMap_cons, List.filterMap_append, hfetches]
  rfl

end Turn

end SqlDialect
