import SqlDialect.Proofs.Session.Turns
import SqlDialect.Session.Request

/-!
# Requests in turns

On a connection without faults a request has at most one turn.  Its reply is settled by
that turn, and so are the calls that it makes: the complete stretch of the turn, or one
call of a request that runs no statement, or none.
-/

namespace SqlDialect

/-! ## What is settled by a turn -/

/-- The turn that a query would have now. -/
def Script.turn? (query? : Option Query) (s : Script) : Option Turn := query?.map (⟨·, s.next⟩)

/-- All that an operation with at most that query can learn: how rows are read, what the server
tells of its version, and the turn of the query. -/
def Session.horizon (query? : Option Query) (s : Session) :
    Reading × Option String × Option Turn :=
  (s.reading, s.script.version, s.script.turn? query?)

/-- What follows a report matters only for the result that the report has. -/
theorem Report.bind_congr {α β : Type} {r : Report α} {next next' : α → Report β}
    (h : ∀ x, r.result = .ok x → next x = next' x) :
  r.bind next = r.bind next'
  := by
  rw [bind, bind]
  cases hresult : r.result with
  | error f => rfl
  | ok x =>
    dsimp only
    rw [h x hresult]

namespace Operation

variable {α β : Type} {first : Operation α} {next : α → Operation β} {s : Session}

/-- The reports of two parts follow one another. -/
theorem bind_report :
  ((first >>= next) s).1 = (first s).1.bind fun x => (next x (first s).2).1
  := by
  change (bind first next s).1 = _
  rw [bind]
  rcases first s with ⟨⟨_ | _, log⟩, s⟩ <;> rfl

/-- Behind a part that succeeded the session is the one that the second part leaves. -/
theorem bind_session_of_ok {x : α} (h : (first s).1.result = .ok x) :
  ((first >>= next) s).2 = (next x (first s).2).2
  := by
  change (bind first next s).2 = _
  rw [bind]
  rcases hfirst : first s with ⟨⟨_ | y, log⟩, s⟩
  · rw [hfirst] at h
    cases h
  · rw [hfirst] at h
    obtain rfl := Except.ok.inj h
    rfl

/-- Behind a part that failed the session is the one that it left. -/
theorem bind_session_of_error {f : Failure} (h : (first s).1.result = .error f) :
  ((first >>= next) s).2 = (first s).2
  := by
  change (bind first next s).2 = _
  rw [bind]
  rcases hfirst : first s with ⟨⟨_ | y, log⟩, s⟩
  · rfl
  · rw [hfirst] at h
    cases h

/-- The operation has no need of the server, and reports the same to every session. -/
structure Steady (op : Operation α) (r : Report α) : Prop where
  report (s : Session) : (op s).1 = r
  reading (s : Session) : (op s).2.reading = s.reading
  script (s : Session) : (op s).2.script = s.script

/-- On a connection without faults the operation sends the query, if there is one, and makes the
calls, and its report is settled by what it can learn. -/
structure InTurn (op : Operation α) (query? : Option Query)
    (calls : Reading → Option Turn → List Call) : Prop where
  report {s s' : Session} : s.script.faults = {} → s'.script.faults = {} →
    s.horizon query? = s'.horizon query? → (op s).1 = (op s').1
  reading {s : Session} : s.script.faults = {} → (op s).2.reading = s.reading
  script {s : Session} : s.script.faults = {} → (op s).2.script
    = s.script.after (calls s.reading (s.script.turn? query?)) (s.script.turn? query?)

/-- A report as an operation leaves the session as it is. -/
theorem steady_report (r : Report α) :
  Steady (report r) r
  := by
  constructor <;> intro s <;> rfl

/-- A compilation leaves the session as it is. -/
theorem steady_compile (statement : Statement) :
  Steady (compile statement) (Dialect.odbc.compile statement)
  := by
  constructor
  · intro s
    rw [compile, Session.dialect]
    cases s.reading <;> rfl
  · intro s
    rfl
  · intro s
    rfl

/-- An operation that leaves the session alone leaves what is to come of it. -/
theorem Steady.horizon_eq {op : Operation α} {r : Report α} (h : Steady op r)
    (query? : Option Query) (s : Session) :
  (op s).2.horizon query? = s.horizon query?
  := by
  rw [Session.horizon, h.reading, h.script, Session.horizon]

/-- What is made of a report afterwards has no part in the turn. -/
theorem InTurn.bind_steady {query? : Option Query} {calls : Reading → Option Turn → List Call}
    {r : α → Report β} (hfirst : InTurn first query? calls) (hnext : ∀ x, Steady (next x) (r x)) :
  InTurn (first >>= next) query? calls
  := by
  constructor
  · intro s s' h h' hhorizon
    rw [bind_report, bind_report, hfirst.report h h' hhorizon]
    apply Report.bind_congr
    intro x _
    rw [(hnext x).report, (hnext x).report]
  · intro s h
    cases hresult : (first s).1.result with
    | error f => rw [bind_session_of_error hresult, hfirst.reading h]
    | ok x => rw [bind_session_of_ok hresult, (hnext x).reading, hfirst.reading h]
  · intro s h
    cases hresult : (first s).1.result with
    | error f => rw [bind_session_of_error hresult, hfirst.script h]
    | ok x => rw [bind_session_of_ok hresult, (hnext x).script, hfirst.script h]

/-- What is made of the result is settled by the same turn. -/
theorem InTurn.map {op : Operation α} {query? : Option Query}
    {calls : Reading → Option Turn → List Call} (f : α → β) (h : InTurn op query? calls) :
  InTurn (do return f (← op)) query? calls
  := by
  apply h.bind_steady
  intro x
  apply steady_report

/-- A query that has to be made first is sent when it could be made. -/
theorem Steady.bind_inTurn {r : Report α} {query : α → Query} (hfirst : Steady first r)
    (hnext : ∀ x, InTurn (next x) (some (query x)) Turn.calls?) :
  InTurn (first >>= next) (r.result.toOption.map query) Turn.calls?
  := by
  -- Whether the query can be made is the same for every session.
  cases hresult : r.result with
  | error f =>
    have herror : ∀ s, (first s).1.result = .error f := by
      intro s
      rw [hfirst.report, hresult]
    constructor
    · intro s s' _ _ _
      rw [bind_report, bind_report, hfirst.report, hfirst.report]
      apply Report.bind_congr
      intro x hx
      rw [hresult] at hx
      cases hx
    · intro s _
      rw [bind_session_of_error (herror s), hfirst.reading]
    · intro s _
      rw [bind_session_of_error (herror s), hfirst.script]
      exact s.script.after_nil.symm
  | ok x =>
    have hok : ∀ s, (first s).1.result = .ok x := by
      intro s
      rw [hfirst.report, hresult]
    have hfaults : ∀ s : Session, s.script.faults = {} → (first s).2.script.faults = {} := by
      intro s h
      rw [hfirst.script, h]
    constructor
    · intro s s' h h' hhorizon
      rw [bind_report, bind_report, hfirst.report, hfirst.report]
      apply Report.bind_congr
      intro y hy
      rw [hresult] at hy
      obtain rfl := Except.ok.inj hy
      apply (hnext x).report (hfaults s h) (hfaults s' h')
      rw [hfirst.horizon_eq, hfirst.horizon_eq]
      apply hhorizon
    · intro s h
      rw [bind_session_of_ok (hok s), (hnext x).reading (hfaults s h), hfirst.reading]
    · intro s h
      rw [bind_session_of_ok (hok s), (hnext x).script (hfaults s h), hfirst.reading, hfirst.script]
      rfl

/-- An exchange that is a turn makes an operation that is one. -/
theorem inTurn_exchange {op : Operation β} {turn : Except Failure α → Report β}
    (e : Reading → Exchange α) (result : Turn → Except Failure α) {q : Query}
    (hop : ∀ s, op s = exchange turn (e s.reading) s)
    (h : ∀ reading s, s.faults = {} → e reading s
      = (result ⟨q, s.next⟩, s.after (Turn.calls reading ⟨q, s.next⟩) (some ⟨q, s.next⟩))) :
  InTurn op (some q) Turn.calls?
  := by
  constructor
  · intro s s' hs hs' hhorizon
    have hturn : s.script.next = s'.script.next := by
      injection hhorizon with _ hrest
      injection hrest with _ hturn
      injection Option.some.inj hturn
    rw [hop, hop, exchange, exchange, h _ _ hs, h _ _ hs', hturn]
  · intro s hs
    rw [hop, exchange]
  · intro s hs
    rw [hop, exchange, h _ _ hs]
    rfl

end Operation

namespace Request

/-- The query that a request sends: none when it needs none, and none when its statement cannot be
compiled. -/
def query? : Request → Option Query
  | execute statement =>
    (Dialect.odbc.compile statement).result.toOption.map fun q => ⟨q.sql, q.parameters, false⟩
  | fetchAll statement _ =>
    (Dialect.odbc.compile statement).result.toOption.map fun q => ⟨q.sql, q.parameters, true⟩
  | nextValue sequence =>
    (Style.openEdge.compile (.select { columns := [.nextValue sequence] })).result.toOption.map
      fun q => ⟨q.sql, [], true⟩
  | hasTable name => some ⟨Catalog.tableQuery name, [], true⟩
  | hasSequence name => some ⟨Catalog.sequenceQuery name, [], true⟩
  | ping => some .ping
  | learnVersion => none
  | connect _ => none

/-- Whether a request runs a statement. -/
def runsStatement : Request → Bool
  | learnVersion => false
  | connect _ => false
  | _ => true

/-- The calls that a request makes, given the turn of its query. -/
def calls (reading : Reading) (turn? : Option Turn) : Request → List Call
  | learnVersion =>
    match reading with
    | .blocking => [.info .version]
    | .streaming => []
  | connect url => [.connect url]
  | _ => Turn.calls? reading turn?

end Request

/-! ## Operations in turns -/

namespace Session

/-- Running a query takes one turn. -/
theorem inTurn_run (q : Query) :
  Operation.InTurn (run q.sql q.parameters q.readsRows) (some q) Turn.calls?
  := by
  apply Operation.inTurn_exchange
    (fun reading => Cursor.run reading q.sql q.parameters q.readsRows) Turn.result
  · intro s
    rfl
  · intro reading s h
    apply Cursor.run_eq reading q h

/-- A ping takes one turn. -/
theorem inTurn_ping :
  Operation.InTurn ping (some .ping) Turn.calls?
  := by
  apply Operation.inTurn_exchange (fun _ => Cursor.ping) fun t => t.result.map fun _ => ()
  · intro s
    rfl
  · intro reading s h
    apply Cursor.ping_eq reading h

/-- The execution of a statement takes one turn, and none when the statement does not compile. -/
theorem inTurn_execute (statement : Statement) :
  Operation.InTurn (execute statement) (Request.execute statement).query? Turn.calls?
  := by
  apply (Operation.steady_compile statement).bind_inTurn
  intro q
  apply (inTurn_run ⟨q.sql, q.parameters, false⟩).bind_steady
  intro answer
  apply Operation.steady_report

/-- Fetching the rows of a statement takes one turn, and none when the statement does not compile.
-/
theorem inTurn_fetchAll (statement : Statement) (types : List ColumnType) :
  Operation.InTurn (fetchAll statement types) (Request.fetchAll statement types).query? Turn.calls?
  := by
  apply (Operation.steady_compile statement).bind_inTurn
  intro q
  apply (inTurn_run ⟨q.sql, q.parameters, true⟩).bind_steady
  intro answer
  apply Operation.steady_report

/-- Asking for the next value of a sequence takes one turn, and none when its query does not
compile. -/
theorem inTurn_nextValue (sequence : Sequence) :
  Operation.InTurn (nextValue sequence) (Request.nextValue sequence).query? Turn.calls?
  := by
  apply (Operation.steady_report _).bind_inTurn
  intro q
  apply (inTurn_run ⟨q.sql, [], true⟩).bind_steady
  intro answer
  apply Operation.steady_report

/-- Looking up rows takes one turn. -/
theorem inTurn_hasRows (sql : String) :
  Operation.InTurn (hasRows sql) (some ⟨sql, [], true⟩) Turn.calls?
  := by
  apply (inTurn_run ⟨sql, [], true⟩).bind_steady
  intro answer
  apply Operation.steady_report

/-- The version is told by the server, or else the driver does not support the question. -/
theorem info_version_eq (s : Script) :
  Script.info .version s
    = (s.version.elim (.error (.ofCause (.stated "getinfo is not supported"))) .ok,
      s.record (.info .version))
  := by
  obtain ⟨outcomes, rows, version, faults, calls, parameters⟩ := s
  cases version <;> rfl

/-- A blocking connection asks the server for its version. -/
theorem serverVersion_of_blocking {s : Session} (h : s.reading = .blocking) :
  serverVersion s = Operation.exchange versionReport (Script.info .version) s
  := by
  rw [serverVersion, h]

/-- A connection that does not block reports the unknown version without a call. -/
theorem serverVersion_of_streaming {s : Session} (h : s.reading = .streaming) :
  serverVersion s = (.ok .unknown, s)
  := by
  rw [serverVersion, h]

/-- Asking for the version takes no turn. -/
theorem inTurn_serverVersion :
  Operation.InTurn serverVersion none fun reading _ => Request.learnVersion.calls reading none
  := by
  constructor
  · intro s s' _ _ hhorizon
    injection hhorizon with hreading hrest
    injection hrest with hversion _
    cases h : s.reading with
    | blocking =>
      rw [serverVersion_of_blocking h, serverVersion_of_blocking (hreading ▸ h),
        Operation.exchange, Operation.exchange, info_version_eq, info_version_eq, hversion]
    | streaming =>
      rw [serverVersion_of_streaming h, serverVersion_of_streaming (hreading ▸ h)]
  · intro s _
    cases h : s.reading with
    | blocking => rw [serverVersion_of_blocking h, Operation.exchange, h]
    | streaming => rw [serverVersion_of_streaming h, h]
  · intro s _
    cases h : s.reading with
    | blocking =>
      rw [serverVersion_of_blocking h, Operation.exchange, info_version_eq]
      rfl
    | streaming =>
      rw [serverVersion_of_streaming h]
      exact s.script.after_nil.symm

/-- To record the version changes nothing that is to come. -/
theorem steady_recordVersion (version : ServerVersion) :
  Operation.Steady (recordVersion version) (.ok ())
  := by
  constructor <;> intro s <;> rfl

/-- Learning the version takes no turn. -/
theorem inTurn_learnVersion :
  Operation.InTurn learnVersion none fun reading _ => Request.learnVersion.calls reading none
  := by
  apply inTurn_serverVersion.bind_steady
  intro version
  apply steady_recordVersion

/-- Where no fault is to come connecting succeeds with one call. -/
theorem connect_eq (url : String) {s : Session} (h : s.script.faults = {}) :
  connect url s = (.ok (), { s with script := s.script.record (.connect url) })
  := by
  have hfaults : (s.script.record (.connect url)).faults.connect = [] := by
    change s.script.faults.connect = []
    rw [h]
  rw [connect, Operation.exchange, Script.connect]
  dsimp only
  rw [hfaults]
  rfl

/-- Connecting takes no turn. -/
theorem inTurn_connect (url : String) :
  Operation.InTurn (connect url) none fun _ _ => [.connect url]
  := by
  constructor
  · intro s s' h h' _
    rw [connect_eq url h, connect_eq url h']
  · intro s h
    rw [connect_eq url h]
  · intro s h
    rw [connect_eq url h]
    rfl

end Session

/-! ## Requests in turns -/

namespace Request

/-- Every request is settled by the turn of its query, if it has one. -/
theorem inTurn_operation (r : Request) :
  Operation.InTurn r.operation r.query? fun reading turn? => r.calls reading turn?
  := by
  cases r with
  | execute statement => apply (Session.inTurn_execute statement).map
  | fetchAll statement types => apply (Session.inTurn_fetchAll statement types).map
  | nextValue sequence => apply (Session.inTurn_nextValue sequence).map
  | hasTable name => apply (Session.inTurn_hasRows (Catalog.tableQuery name)).map
  | hasSequence name => apply (Session.inTurn_hasRows (Catalog.sequenceQuery name)).map
  | ping => apply Session.inTurn_ping.map
  | learnVersion => apply Session.inTurn_learnVersion.map
  | connect url => apply (Session.inTurn_connect url).map

/-- A request that runs no statement makes one call at most. -/
theorem calls_cases (r : Request) (reading : Reading) (turn? : Option Turn) :
  r.calls reading turn? = Turn.calls? reading turn?
    ∨ r.runsStatement = false ∧ r.query? = none ∧ (r.calls reading turn? = []
      ∨ r.calls reading turn? = [.info .version] ∨ ∃ url, r.calls reading turn? = [.connect url])
  := by
  cases r with
  | learnVersion =>
    right
    cases reading with
    | blocking => exact ⟨rfl, rfl, .inr (.inl rfl)⟩
    | streaming => exact ⟨rfl, rfl, .inl rfl⟩
  | connect url =>
    right
    exact ⟨rfl, rfl, .inr (.inr ⟨url, rfl⟩)⟩
  | _ =>
    left
    rfl

/-- The calls of a request are a complete stretch, if there are any. -/
theorem complete_calls (r : Request) (reading : Reading) (turn? : Option Turn) :
  r.calls reading turn? = [] ∨ Call.Complete (r.calls reading turn?)
  := by
  obtain hcalls | ⟨-, -, hcalls | hcalls | ⟨url, hcalls⟩⟩ := r.calls_cases reading turn?
  · rw [hcalls]
    cases turn? with
    | none =>
      left
      rfl
    | some t =>
      right
      apply Call.Complete.cursor
  · left
    apply hcalls
  · right
    rw [hcalls]
    apply Call.Complete.version
  · right
    rw [hcalls]
    apply Call.Complete.connect

/-- Rows are asked for only when a query of which they are read has succeeded. -/
theorem fetch_mem_calls {r : Request} {reading : Reading} {turn? : Option Turn}
    (h : .fetch ∈ r.calls reading turn?) :
  ∃ t, turn? = some t ∧ t.query.readsRows = true ∧ ∃ found, t.outcome.result = .ok found
  := by
  obtain hcalls | ⟨-, -, hcalls | hcalls | ⟨url, hcalls⟩⟩ := r.calls_cases reading turn?
  · rw [hcalls] at h
    cases turn? with
    | none => cases h
    | some t =>
      use t, rfl
      apply Turn.fetch_mem_calls h
  · simp [hcalls] at h
  · simp [hcalls] at h
  · simp [hcalls] at h

/-- A request sends its query once, and nothing else. -/
theorem sql_calls (r : Request) (turn? : Option Turn) (reading : Reading)
    (h : turn?.map Turn.query = r.query?) :
  (r.calls reading turn?).filterMap Call.sql? = turn?.toList.map (·.query.sql)
  := by
  obtain hcalls | ⟨-, hquery, hcalls | hcalls | ⟨url, hcalls⟩⟩ := r.calls_cases reading turn?
  · rw [hcalls]
    cases turn? with
    | none => rfl
    | some t => apply Turn.sql_calls
  all_goals
    rw [hquery, Option.map_eq_none_iff] at h
    rw [hcalls, h]
    rfl

/-- A request that sends a query makes the calls of its turn. -/
theorem calls_of_query_some {r : Request} {t : Turn} (reading : Reading)
    (h : some t.query = r.query?) :
  r.calls reading (some t) = t.calls reading
  := by
  obtain hcalls | ⟨-, hquery, -⟩ := r.calls_cases reading (some t)
  · apply hcalls
  · rw [hquery] at h
    cases h

/-- A statement that does not get as far as a query makes no calls. -/
theorem calls_of_query_none {r : Request} (reading : Reading) (hr : r.runsStatement) :
  r.calls reading none = []
  := by
  obtain hcalls | ⟨hno, -⟩ := r.calls_cases reading none
  · rw [hcalls]
    rfl
  · rw [hno] at hr
    cases hr

end Request

end SqlDialect
