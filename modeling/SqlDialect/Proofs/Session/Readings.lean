import SqlDialect.Proofs.Session.Serving

/-!
# Both ways of reading rows

A blocking connection and one that does not block answer the same requests alike: the
reports, the log and the statements left behind are the same, and so is the script but for
the calls that ask for rows.  Two scripts are compared with these calls erased, and every
exchange of the one is matched with an exchange of the other.
-/

namespace SqlDialect

namespace Call

/-- The calls that do not ask for rows. -/
def withoutFetches (calls : List Call) : List Call := calls.filter (· ≠ .fetch)

/-- A call of another kind stays when the fetches are left out. -/
theorem withoutFetches_concat (calls : List Call) (call : Call) (h : call ≠ .fetch) :
  withoutFetches (calls ++ [call]) = withoutFetches calls ++ [call]
  := by
  rw [withoutFetches, List.filter_append, List.filter_cons_of_pos (by simpa using h)]
  rfl

/-- Fetches in a row are left out. -/
theorem withoutFetches_append_replicate (calls : List Call) (n : Nat) :
  withoutFetches (calls ++ List.replicate n .fetch) = withoutFetches calls
  := by
  simp [withoutFetches]

end Call

/-- The script without the calls that ask for rows. -/
def Script.withoutFetches (s : Script) : Script :=
  { s with calls := Call.withoutFetches s.calls }

/-! ## Rows -/

namespace Harvest

variable {fault : FetchFault} {asked : Nat}

/-- Where the fault is due the next fetch fails, and no row is delivered. -/
theorem byRow_of_eq (h : fault.delivered = asked) (rows : List Row) :
  byRow (some fault) asked rows = ⟨.error fault.failure, 0⟩
  := by
  cases rows <;> rw [byRow, Option.filter_some_pos (by simpa using h)]

/-- Behind the last row one more fetch finds none. -/
theorem byRow_nil_of_ne (h : fault.delivered ≠ asked) :
  byRow (some fault) asked [] = ⟨.ok [], 1⟩
  := by
  rw [byRow, Option.filter_some_neg (by simpa using h)]

/-- A row that is fetched before the fault is due stands in front of those behind it. -/
theorem byRow_cons_of_ne (h : fault.delivered ≠ asked) (row : Row) (rest : List Row) :
  byRow (some fault) asked (row :: rest)
    = ⟨(byRow (some fault) (asked + 1) rest).rows.map (row :: ·),
      (byRow (some fault) (asked + 1) rest).requests + 1⟩
  := by
  rw [byRow, Option.filter_some_neg (by simpa using h)]

/-- Reading row by row meets the fault when it strikes at one of the rows or behind the last. -/
theorem rows_byRow (fault : FetchFault) (asked : Nat) (rows : List Row) :
  (byRow (some fault) asked rows).rows
    = if asked ≤ fault.delivered ∧ fault.delivered ≤ asked + rows.length then
        .error fault.failure
      else .ok rows
  := by
  -- The fault strikes once so many rows were asked for as it delivers, so these are counted along.
  induction rows generalizing asked with
  | nil =>
    by_cases h : fault.delivered = asked
    · rw [byRow_of_eq h, if_pos (by simp [h])]
    · rw [byRow_nil_of_ne h, if_neg (by simp only [List.length_nil]; omega)]
  | cons row rest ih =>
    by_cases h : fault.delivered = asked
    · rw [byRow_of_eq h, if_pos (by simp [h])]
    · rw [byRow_cons_of_ne h, ih]
      dsimp only [List.length_cons]
      by_cases hlater : asked + 1 ≤ fault.delivered ∧ fault.delivered ≤ asked + 1 + rest.length
      · rw [if_pos hlater, if_pos (by omega)]
        rfl
      · rw [if_neg hlater, if_neg (by omega)]
        rfl

/-- Reading row by row and reading all the rows at once come to the same. -/
theorem rows_of (fault : Option FetchFault) (rows : List Row) :
  (of .blocking fault rows).rows = (of .streaming fault rows).rows
  := by
  cases fault with
  | none => rw [of_none, of_none]
  | some fault =>
    change (byRow (some fault) 0 rows).rows = (atOnce (some fault) rows).rows
    rw [rows_byRow, atOnce]
    by_cases h : fault.delivered ≤ rows.length
    · rw [if_pos (by omega), Option.filter_some_pos (by simpa using h)]
    · rw [if_neg (by omega), Option.filter_some_neg (by simpa using h)]

end Harvest

/-! ## Exchanges -/

namespace Exchange

variable {α β : Type}

/-- On scripts that differ in nothing but the calls that ask for rows, the exchanges come to the
same, and leave scripts of which this is true again. -/
def Alike (e e' : Exchange α) : Prop :=
  ∀ ⦃s s' : Script⦄, s.withoutFetches = s'.withoutFetches →
    (e s).1 = (e' s').1 ∧ (e s).2.withoutFetches = (e' s').2.withoutFetches

/-- An exchange is like itself when it does not mind whether these calls are on record. -/
theorem alike_self {e : Exchange α}
    (h : ∀ s, e s.withoutFetches = ((e s).1, (e s).2.withoutFetches)) :
  Alike e e
  := by
  intro s s' hs
  have heq : ((e s).1, (e s).2.withoutFetches) = ((e s').1, (e s').2.withoutFetches) := by
    rw [← h s, ← h s', hs]
  injection heq with hresult hscript
  use hresult, hscript

/-- An exchange that does nothing is alike for both readings. -/
theorem alike_pure (x : α) :
  Alike (pure x) (pure x)
  := by
  intro s s' hs
  use rfl
  apply hs

/-- Exchanges are alike when their parts are. -/
theorem Alike.bind {e e' : Exchange α} {next next' : α → Exchange β} (he : Alike e e')
    (hnext : ∀ x, Alike (next x) (next' x)) :
  Alike (e >>= next) (e' >>= next')
  := by
  intro s s' hs
  obtain ⟨hresult, hscript⟩ := he hs
  rcases h : e s with ⟨result, after⟩
  rcases h' : e' s' with ⟨result', after'⟩
  rw [h, h'] at hresult hscript
  obtain rfl : result = result' := hresult
  cases result with
  | error f =>
    rw [bind_of_error h, bind_of_error h']
    use rfl, hscript
  | ok x =>
    rw [bind_of_ok h, bind_of_ok h']
    apply hnext x hscript

/-- What is done finally is alike whether or not the exchange before it failed. -/
theorem Alike.andFinally {e e' : Exchange α} {last last' : Exchange Unit} (he : Alike e e')
    (hlast : Alike last last') :
  Alike (e.andFinally last) (e'.andFinally last')
  := by
  intro s s' hs
  obtain ⟨hresult, hscript⟩ := he hs
  rw [Exchange.andFinally, Exchange.andFinally]
  rcases h : e s with ⟨result, after⟩
  rcases h' : e' s' with ⟨result', after'⟩
  rw [h, h'] at hresult hscript
  obtain rfl : result = result' := hresult
  obtain ⟨hclosed, hafter⟩ := hlast hscript
  cases result with
  | error f => use rfl, hafter
  | ok x =>
    -- Closing can fail too, and that failure counts when there is no earlier one.
    dsimp only at hclosed hafter ⊢
    rcases h : last after with ⟨closed, final⟩
    rcases h' : last' after' with ⟨closed', final'⟩
    rw [h, h'] at hclosed hafter
    obtain rfl : closed = closed' := hclosed
    cases closed with
    | error f => use rfl, hafter
    | ok _ => use rfl, hafter

end Exchange

namespace Cursor

/-- A cursor is created alike for both readings. -/
theorem alike_create :
  Exchange.Alike create create
  := by
  apply Exchange.alike_self
  intro s
  have hfaults : s.withoutFetches.faults = s.faults := rfl
  rw [create, create, hfaults]
  cases s.faults.cursor with
  | nil =>
    dsimp only [Script.record, Script.withoutFetches]
    rw [Call.withoutFetches_concat _ .cursor (by simp)]
  | cons f rest => rfl

/-- A query is executed alike for both readings. -/
theorem alike_execute (sql : String) (parameters : List Value) :
  Exchange.Alike (execute sql parameters) (execute sql parameters)
  := by
  apply Exchange.alike_self
  intro s
  rw [execute_eq, execute_eq]
  dsimp only [Script.withoutFetches]
  rw [Call.withoutFetches_concat _ (.execute sql) (by simp)]
  rfl

/-- The rows read one by one are those read at once. -/
theorem alike_read (c : Cursor) :
  Exchange.Alike (c.read .blocking) (c.read .streaming)
  := by
  intro s s' hs
  injection hs with houtcomes hdefault hversion hfaults hcalls hparameters
  rw [read, read, hfaults]
  use Harvest.rows_of _ _
  dsimp only [Script.withoutFetches]
  rw [Call.withoutFetches_append_replicate, Call.withoutFetches_append_replicate, houtcomes,
    hdefault, hversion, hcalls, hparameters]

/-- The count of affected rows is read alike for both readings. -/
theorem alike_affected (c : Cursor) :
  Exchange.Alike c.affected c.affected
  := by
  apply Exchange.alike_self
  intro s
  have hfaults : s.withoutFetches.faults = s.faults := rfl
  rw [affected, affected, hfaults]
  cases s.faults.rowCount <;> rfl

/-- A cursor is closed alike for both readings. -/
theorem alike_close :
  Exchange.Alike close close
  := by
  apply Exchange.alike_self
  intro s
  have hfaults : s.withoutFetches.faults = s.faults := rfl
  rw [close, close]
  dsimp only [Script.record]
  rw [hfaults]
  cases s.faults.close <;>
    dsimp only [Script.withoutFetches] <;> rw [Call.withoutFetches_concat _ .close (by simp)]

/-- Rows are wanted or not wanted for both readings. -/
theorem alike_readIf (wantsRows : Bool) (c : Cursor) :
  Exchange.Alike (c.readIf wantsRows .blocking) (c.readIf wantsRows .streaming)
  := by
  cases wantsRows with
  | false => apply Exchange.alike_pure
  | true => apply alike_read

/-- A query is run alike for both readings. -/
theorem alike_run (sql : String) (parameters : List Value) (wantsRows : Bool) :
  Exchange.Alike (run .blocking sql parameters wantsRows) (run .streaming sql parameters wantsRows)
  := by
  apply alike_create.bind
  intro _
  apply Exchange.Alike.andFinally _ alike_close
  apply (alike_execute sql parameters).bind
  intro cursor
  apply (alike_readIf wantsRows cursor).bind
  intro rows
  apply (alike_affected cursor).bind
  intro count
  apply Exchange.alike_pure

/-- A ping is alike for both readings. -/
theorem alike_ping :
  Exchange.Alike ping ping
  := by
  apply alike_create.bind
  intro _
  apply Exchange.Alike.andFinally _ alike_close
  apply (alike_execute _ _).bind
  intro _
  apply Exchange.alike_pure

end Cursor

/-! ## Operations -/

/-- A session that reads row by row and one that reads all rows at once, on scripts that differ in
nothing but the calls that ask for rows. -/
structure Session.Mirrors (s s' : Session) : Prop where
  blocking : s.reading = .blocking
  streaming : s'.reading = .streaming
  script : s.script.withoutFetches = s'.script.withoutFetches

namespace Operation

variable {α β : Type}

/-- Sessions that mirror each other are reported the same, and go on to mirror each other. -/
def Alike (op : Operation α) : Prop :=
  ∀ ⦃s s' : Session⦄, s.Mirrors s' → (op s).1 = (op s').1 ∧ (op s).2.Mirrors (op s').2

/-- An operation that does not look at the session is alike for both readings. -/
theorem Steady.alike {op : Operation α} {r : Report α} (h : Steady op r) :
  Alike op
  := by
  intro s s' hs
  constructor
  · rw [h.report, h.report]
  constructor
  · rw [h.reading, hs.blocking]
  · rw [h.reading, hs.streaming]
  · rw [h.script, h.script, hs.script]

/-- Operations are alike when their parts are. -/
theorem Alike.bind {first : Operation α} {next : α → Operation β} (hfirst : Alike first)
    (hnext : ∀ x, Alike (next x)) :
  Alike (first >>= next)
  := by
  intro s s' hs
  obtain ⟨hreport, hsessions⟩ := hfirst hs
  constructor
  · rw [bind_report, bind_report, ← hreport]
    apply Report.bind_congr
    intro x _
    apply (hnext x hsessions).1
  · cases hresult : (first s).1.result with
    | error f =>
      rw [bind_session_of_error hresult, bind_session_of_error (hreport ▸ hresult)]
      apply hsessions
    | ok x =>
      rw [bind_session_of_ok hresult, bind_session_of_ok (hreport ▸ hresult)]
      apply (hnext x hsessions).2

/-- What is made of the results is alike when the operation is. -/
theorem Alike.map {op : Operation α} (f : α → β) (h : Alike op) :
  Alike (do return f (← op))
  := by
  apply h.bind
  intro x
  apply (steady_report _).alike

/-- An operation is alike when the exchange that it makes is. -/
theorem alike_exchange {turn : Except Failure α → Report β} (e : Reading → Exchange α)
    {op : Operation β} (hop : ∀ s, op s = exchange turn (e s.reading) s)
    (h : Exchange.Alike (e .blocking) (e .streaming)) :
  Alike op
  := by
  intro s s' hs
  obtain ⟨hresult, hscript⟩ := h hs.script
  rw [hop, hop, exchange, exchange, hs.blocking, hs.streaming]
  dsimp only
  rw [hresult]
  use rfl
  exact ⟨rfl, rfl, hscript⟩

end Operation

namespace Session

open Operation

/-- Running a query is alike for both readings. -/
theorem alike_run (sql : String) (parameters : List Value) (wantsRows : Bool) :
  Alike (run sql parameters wantsRows)
  := by
  apply alike_exchange fun reading => Cursor.run reading sql parameters wantsRows
  · intro s
    rfl
  · apply Cursor.alike_run

/-- A ping of a session is alike for both readings. -/
theorem alike_ping :
  Alike ping
  := by
  apply alike_exchange fun _ => Cursor.ping
  · intro s
    rfl
  · apply Cursor.alike_ping

/-- The execution of a statement is alike for both readings. -/
theorem alike_execute (statement : Statement) :
  Alike (execute statement)
  := by
  apply (steady_compile statement).alike.bind
  intro query
  apply (alike_run query.sql query.parameters false).map

/-- The rows of a statement are fetched alike for both readings. -/
theorem alike_fetchAll (statement : Statement) (types : List ColumnType) :
  Alike (fetchAll statement types)
  := by
  apply (steady_compile statement).alike.bind
  intro query
  apply (alike_run query.sql query.parameters true).bind
  intro answer
  apply (steady_report _).alike

/-- The next value of a sequence is alike for both readings. -/
theorem alike_nextValue (sequence : Sequence) :
  Alike (nextValue sequence)
  := by
  apply (steady_report _).alike.bind
  intro query
  apply (alike_run query.sql [] true).bind
  intro answer
  apply (steady_report _).alike

/-- Whether a query has rows is found out alike for both readings. -/
theorem alike_hasRows (sql : String) :
  Alike (hasRows sql)
  := by
  apply (alike_run sql [] true).map

end Session

/-- A request that runs statements is alike for both readings. -/
theorem Request.alike_operation {r : Request} (h : r.runsStatement) :
  Operation.Alike r.operation
  := by
  cases r with
  | execute statement => apply (Session.alike_execute statement).map
  | fetchAll statement types => apply (Session.alike_fetchAll statement types).map
  | nextValue sequence => apply (Session.alike_nextValue sequence).map
  | hasTable name => apply (Session.alike_hasRows (Catalog.tableQuery name)).map
  | hasSequence name => apply (Session.alike_hasRows (Catalog.sequenceQuery name)).map
  | ping => apply Session.alike_ping.map
  | learnVersion => cases h
  | connect url => cases h

/-! ## Requests -/

namespace Session

variable {s s' : Session}

/-- Sessions that mirror each other have the same dialect, and so leave a request alike. -/
theorem Mirrors.left_eq (hs : s.Mirrors s') (r : Request) :
  r.left s.dialect = r.left s'.dialect
  := by
  rw [dialect, dialect, hs.blocking, hs.streaming]
  cases r <;> rfl

/-- Sessions that mirror each other reply the same to a request that runs a statement. -/
theorem Mirrors.ask {r : Request} (hs : s.Mirrors s') (hr : r.runsStatement) :
  (s.ask r).1 = (s'.ask r).1 ∧ (s.ask r).2.Mirrors (s'.ask r).2
  := by
  obtain ⟨hreport, hsessions⟩ := r.alike_operation hr hs
  constructor
  · change Reply.mk (r.operation s).1 _ = Reply.mk (r.operation s').1 _
    rw [hreport, hs.left_eq]
  · apply hsessions

/-- Sessions that mirror each other answer requests alike and mirror each other afterwards. -/
theorem Mirrors.askAll {requests : List Request} (hs : s.Mirrors s')
    (h : ∀ r ∈ requests, r.runsStatement) :
  (s.askAll requests).1 = (s'.askAll requests).1
    ∧ (s.askAll requests).2.Mirrors (s'.askAll requests).2
  := by
  induction requests generalizing s s' with
  | nil => exact ⟨rfl, hs⟩
  | cons r rest ih =>
    obtain ⟨hr, hrest⟩ := List.forall_mem_cons.mp h
    obtain ⟨hreply, hsessions⟩ := hs.ask hr
    obtain ⟨hreplies, hfinal⟩ := ih hsessions hrest
    constructor
    · change (s.ask r).1 :: ((s.ask r).2.askAll rest).1
        = (s'.ask r).1 :: ((s'.ask r).2.askAll rest).1
      rw [hreply, hreplies]
    · apply hfinal

end Session

end SqlDialect
