import SqlDialect.Proofs.Session.Requests

/-!
# Footprints of operations

Whatever faults are to come, an operation leaves the way in which rows are read and what the
server tells of its version as they are, and only adds to the record of calls.  Work on
cursors adds calls on cursors; apart from connecting and from learning the version there is
no other work.
-/

namespace SqlDialect

/-- The call is made on a cursor. -/
inductive Call.OnCursor : Call → Prop
  | cursor : OnCursor .cursor
  | execute (sql : String) : OnCursor (.execute sql)
  | fetch : OnCursor .fetch
  | close : OnCursor .close

/-- The call is one to connect. -/
def Call.isConnect : Call → Bool
  | connect _ => true
  | _ => false

/-- The call asks a connection about its server. -/
def Call.isInfo : Call → Bool
  | info _ => true
  | _ => false

/-- A call on a cursor does not connect. -/
theorem Call.OnCursor.isConnect_eq_false {call : Call} (h : call.OnCursor) :
  call.isConnect = false
  := by
  cases h <;> rfl

/-- A call on a cursor asks nothing about the server. -/
theorem Call.OnCursor.isInfo_eq_false {call : Call} (h : call.OnCursor) :
  call.isInfo = false
  := by
  cases h <;> rfl

/-- How many calls to connect are on record. -/
def Script.connects (s : Script) : Nat := s.calls.countP Call.isConnect

/-- How many calls that ask about the server are on record. -/
def Script.infos (s : Script) : Nat := s.calls.countP Call.isInfo

/-- One script after another: calls of some kind were added, the version of the server is the same,
and no failure to connect is to come unless one was. -/
structure Script.Grown (kind : Call → Prop) (s s' : Script) : Prop where
  calls : ∃ calls, s'.calls = s.calls ++ calls ∧ ∀ call ∈ calls, kind call
  version : s'.version = s.version
  connect : s.faults.connect = [] → s'.faults.connect = []

namespace Script.Grown

variable {kind kind' : Call → Prop} {s s' s'' : Script}

/-- A script on which no call was recorded has grown by none. -/
theorem of_calls_eq (hcalls : s'.calls = s.calls) (hversion : s'.version = s.version)
    (hconnect : s'.faults.connect = s.faults.connect) :
  Grown kind s s'
  := by
  constructor
  · use []
    simp [hcalls]
  · apply hversion
  · intro h
    rw [hconnect, h]

/-- A script has grown by no calls after itself. -/
theorem refl (s : Script) :
  Grown kind s s
  := of_calls_eq rfl rfl rfl

/-- Calls that are added one after the other are all of the kind. -/
theorem trans (h : Grown kind s s') (h' : Grown kind s' s'') :
  Grown kind s s''
  := by
  obtain ⟨calls, hcalls, hkind⟩ := h.calls
  obtain ⟨calls', hcalls', hkind'⟩ := h'.calls
  constructor
  · use calls ++ calls'
    constructor
    · rw [hcalls', hcalls, List.append_assoc]
    · apply List.forall_mem_append.mpr ⟨hkind, hkind'⟩
  · rw [h'.version, h.version]
  · intro hconnect
    apply h'.connect (h.connect hconnect)

/-- Calls of some kind are calls of any kind that has it inside. -/
theorem mono (h : Grown kind s s') (hkind : ∀ call, kind call → kind' call) :
  Grown kind' s s'
  := by
  obtain ⟨calls, hcalls, hall⟩ := h.calls
  refine ⟨⟨calls, hcalls, ?_⟩, h.version, h.connect⟩
  intro call hcall
  apply hkind call (hall call hcall)

/-- A call that is recorded is the only one that is added. -/
theorem record {call : Call} (h : kind call) (s : Script) :
  Grown kind s (s.record call)
  := by
  refine ⟨⟨[call], rfl, ?_⟩, rfl, id⟩
  simpa using h

/-- Calls of another kind are as many as before. -/
theorem countP_eq (h : Grown kind s s') {test : Call → Bool}
    (htest : ∀ call, kind call → test call = false) :
  s'.calls.countP test = s.calls.countP test
  := by
  obtain ⟨calls, hcalls, hkind⟩ := h.calls
  have hnone : calls.countP test = 0 := by
    rw [List.countP_eq_zero]
    intro call hcall
    rw [htest call (hkind call hcall)]
    apply Bool.false_ne_true
  rw [hcalls, List.countP_append, hnone, Nat.add_zero]

/-- Work on cursors adds no call to connect. -/
theorem connects_eq (h : Grown Call.OnCursor s s') :
  s'.connects = s.connects
  := h.countP_eq fun _ => Call.OnCursor.isConnect_eq_false

/-- Work on cursors adds no call that asks about the server. -/
theorem infos_eq (h : Grown Call.OnCursor s s') :
  s'.infos = s.infos
  := h.countP_eq fun _ => Call.OnCursor.isInfo_eq_false

end Script.Grown

/-! ## Exchanges -/

namespace Exchange

variable {α β : Type} {kind : Call → Prop}

/-- The exchange adds calls of some kind to a script. -/
def Adds (kind : Call → Prop) (e : Exchange α) : Prop :=
  ∀ s : Script, s.Grown kind (e s).2

/-- An exchange that does nothing adds no calls. -/
theorem adds_pure (x : α) :
  Adds kind (Exchange.pure x)
  := Script.Grown.refl

/-- An exchange adds calls of the kind when its parts do. -/
theorem Adds.bind {first : Exchange α} {next : α → Exchange β} (hfirst : Adds kind first)
    (hnext : ∀ x, Adds kind (next x)) :
  Adds kind (first >>= next)
  := by
  intro s
  have hgrown := hfirst s
  cases h : first s with
  | mk result after =>
    rw [h] at hgrown
    cases result with
    | error f =>
      rw [bind_of_error h]
      apply hgrown
    | ok x =>
      rw [bind_of_ok h]
      apply hgrown.trans (hnext x after)

/-- What is done in any case is done to what the first exchange left. -/
theorem script_andFinally (first : Exchange α) (last : Exchange Unit) (s : Script) :
  (first.andFinally last s).2 = (last (first s).2).2
  := by
  rw [andFinally]
  rcases first s with ⟨_ | x, after⟩
  · rfl
  · dsimp only
    rcases last after with ⟨_ | _, final⟩ <;> rfl

/-- What is done finally adds its calls whether or not the exchange before it failed. -/
theorem Adds.andFinally {first : Exchange α} {last : Exchange Unit} (hfirst : Adds kind first)
    (hlast : Adds kind last) :
  Adds kind (first.andFinally last)
  := by
  intro s
  rw [script_andFinally]
  apply (hfirst s).trans (hlast (first s).2)

end Exchange

/-! ## Cursors -/

namespace Cursor

open Exchange

/-- The creation of a cursor is a call on a cursor. -/
theorem adds_create :
  Adds Call.OnCursor create
  := by
  intro s
  rw [create]
  split
  · exact .of_calls_eq rfl rfl rfl
  · apply Script.Grown.record .cursor

/-- The execution of a query is a call on a cursor. -/
theorem adds_execute (sql : String) (parameters : List Value) :
  Adds Call.OnCursor (execute sql parameters)
  := by
  intro s
  rw [execute_eq]
  refine ⟨⟨[.execute sql], rfl, ?_⟩, rfl, id⟩
  simpa using Call.OnCursor.execute sql

/-- Rows are read by calls on a cursor, in either way of reading. -/
theorem adds_read (reading : Reading) (c : Cursor) :
  Adds Call.OnCursor (c.read reading)
  := by
  intro s
  refine ⟨⟨_, rfl, ?_⟩, rfl, id⟩
  intro call hcall
  rw [List.eq_of_mem_replicate hcall]
  apply Call.OnCursor.fetch

/-- The count of affected rows is read without a call of another kind. -/
theorem adds_affected (c : Cursor) :
  Adds Call.OnCursor c.affected
  := by
  intro s
  rw [affected]
  split
  · exact .of_calls_eq rfl rfl rfl
  · apply Script.Grown.refl

/-- To close a cursor is a call on it. -/
theorem adds_close :
  Adds Call.OnCursor close
  := by
  intro s
  apply (Script.Grown.record .close s).trans
  rw [close]
  dsimp only
  split
  · exact .of_calls_eq rfl rfl rfl
  · apply Script.Grown.refl

/-- A query is run by calls on a cursor. -/
theorem adds_run (reading : Reading) (sql : String) (parameters : List Value) (wantsRows : Bool) :
  Adds Call.OnCursor (run reading sql parameters wantsRows)
  := by
  have hread : ∀ c : Cursor, Adds Call.OnCursor (c.readIf wantsRows reading) := by
    intro c
    rw [readIf]
    split
    · apply adds_read
    · apply adds_pure
  have hanswer : Adds Call.OnCursor (answer reading sql parameters wantsRows) := by
    apply (adds_execute sql parameters).bind
    intro c
    apply (hread c).bind
    intro rows
    apply (adds_affected c).bind
    intro count
    apply adds_pure
  apply adds_create.bind
  intro c
  apply hanswer.andFinally adds_close

/-- A ping is made of calls on a cursor. -/
theorem adds_ping :
  Adds Call.OnCursor ping
  := by
  apply adds_create.bind
  intro c
  apply Exchange.Adds.andFinally _ adds_close
  apply (adds_execute OpenEdge.pingQuery []).bind
  intro c
  apply adds_pure

end Cursor

namespace Script

open Exchange

/-- To connect is one call, with the URL. -/
theorem adds_connect (url : String) :
  Adds (· = .connect url) (connect url)
  := by
  intro s
  have hrecord : s.Grown (· = .connect url) (s.record (.connect url)) := by
    apply Grown.record
    rfl
  apply hrecord.trans
  rw [connect]
  dsimp only
  split
  next hfaults =>
    constructor
    · use []
      simp
    · rfl
    · intro h
      rw [hfaults] at h
      cases h
  · apply Grown.refl

/-- To ask for the version of the server is one call. -/
theorem adds_info_version :
  Adds (· = .info .version) (info .version)
  := by
  intro s
  rw [Session.info_version_eq]
  apply Grown.record
  rfl

end Script

/-! ## Operations -/

/-- One session after another: only the script has grown. -/
structure Session.Grown (kind : Call → Prop) (s s' : Session) : Prop where
  script : s.script.Grown kind s'.script
  reading : s'.reading = s.reading
  version : s'.version = s.version

namespace Session.Grown

variable {kind kind' : Call → Prop} {s s' s'' : Session}

/-- A session has grown by no calls after itself. -/
theorem refl (s : Session) :
  Grown kind s s
  := ⟨Script.Grown.refl s.script, rfl, rfl⟩

/-- What is added to a session one after the other is of the kind. -/
theorem trans (h : Grown kind s s') (h' : Grown kind s' s'') :
  Grown kind s s''
  := by
  use h.script.trans h'.script
  · rw [h'.reading, h.reading]
  · rw [h'.version, h.version]

/-- Calls of some kind are calls of any kind that has it inside. -/
theorem mono (h : Grown kind s s') (hkind : ∀ call, kind call → kind' call) :
  Grown kind' s s'
  := ⟨h.script.mono hkind, h.reading, h.version⟩

end Session.Grown

namespace Operation

variable {α β : Type} {kind : Call → Prop}

/-- The operation adds calls of some kind to the script, and does nothing else to a session. -/
def Adds (kind : Call → Prop) (op : Operation α) : Prop :=
  ∀ s : Session, s.Grown kind (op s).2

/-- An operation that only reports adds no calls. -/
theorem adds_report (r : Report α) :
  Adds kind (report r)
  := by
  intro s
  apply Session.Grown.refl

/-- A compilation adds no calls. -/
theorem adds_compile (statement : Statement) :
  Adds kind (compile statement)
  := by
  intro s
  apply Session.Grown.refl

/-- An operation adds calls of the kind when its parts do. -/
theorem Adds.bind {first : Operation α} {next : α → Operation β} (hfirst : Adds kind first)
    (hnext : ∀ x, Adds kind (next x)) :
  Adds kind (first >>= next)
  := by
  intro s
  have hgrown := hfirst s
  cases hresult : (first s).1.result with
  | error f =>
    rw [bind_session_of_error hresult]
    apply hgrown
  | ok x =>
    rw [bind_session_of_ok hresult]
    apply hgrown.trans (hnext x (first s).2)

/-- What is made of the result adds no calls. -/
theorem Adds.map {op : Operation α} (f : α → β) (h : Adds kind op) :
  Adds kind (do return f (← op))
  := by
  apply h.bind
  intro x
  apply adds_report

section Running

variable {first : Operation α} {next : α → Operation β} {s after : Session}
  {log : List LogRecord}

/-- Behind a part that succeeded the operation goes on with the session that was left. -/
theorem bind_of_ok {x : α} (h : first s = (⟨.ok x, log⟩, after)) :
  (first >>= next) s
    = (⟨(next x after).1.result, log ++ (next x after).1.log⟩, (next x after).2)
  := by
  change bind first next s = _
  rw [bind, h]

/-- Behind a part that failed nothing more is done. -/
theorem bind_of_error {g : Failure} (h : first s = (⟨.error g, log⟩, after)) :
  (first >>= next) s = (⟨.error g, log⟩, after)
  := by
  change bind first next s = _
  rw [bind, h]

end Running

/-- An operation whose answer is replaced by another one. -/
theorem replaced_eq (op : Operation α) (y : β) (s : Session) :
  (do
    let _ ← op
    return y : Operation β) s = (⟨(op s).1.result.map fun _ => y, (op s).1.log⟩, (op s).2)
  := by
  rcases h : op s with ⟨⟨_ | x, log⟩, after⟩
  · apply bind_of_error h
  · apply (bind_of_ok h).trans
    change (Report.mk (.ok y) (log ++ []), after) = _
    rw [List.append_nil]
    rfl

/-- An exchange adds the same calls as an operation. -/
theorem adds_exchange {turn : Except Failure α → Report β} {e : Exchange α} (h : e.Adds kind) :
  Adds kind (exchange turn e)
  := by
  intro s
  use h s.script, rfl
  rfl

end Operation

namespace Session

open Operation

/-- A query is run by calls on a cursor. -/
theorem adds_run (sql : String) (parameters : List Value) (wantsRows : Bool) :
  Adds Call.OnCursor (run sql parameters wantsRows)
  := by
  intro s
  apply adds_exchange (Cursor.adds_run s.reading sql parameters wantsRows) s

/-- Whether a query has rows is found out by calls on a cursor. -/
theorem adds_hasRows (sql : String) :
  Adds Call.OnCursor (hasRows sql)
  := (adds_run sql [] true).map _

/-- A ping is made of calls on a cursor. -/
theorem adds_ping :
  Adds Call.OnCursor ping
  := adds_exchange Cursor.adds_ping

/-- To connect is one call, with the URL. -/
theorem adds_connect (url : String) :
  Adds (· = .connect url) (connect url)
  := adds_exchange (Script.adds_connect url)

/-- A connection is made when no failure to connect is to come. -/
theorem connect_of_faults_nil (url : String) {s : Session} (h : s.script.faults.connect = []) :
  connect url s = (.ok (), { s with script := s.script.record (.connect url) })
  := by
  have hfaults : (s.script.record (.connect url)).faults.connect = [] := h
  rw [connect, Operation.exchange, Script.connect]
  dsimp only
  rw [hfaults]
  rfl

/-- Learning the version without asking the server always succeeds. -/
theorem learnVersion_of_streaming {s : Session} (h : s.reading = .streaming) :
  learnVersion s = (.ok (), { s with version := s.version.or (some .unknown) })
  := by
  apply (Operation.bind_of_ok (serverVersion_of_streaming h)).trans
  rfl

/-- To learn the version is at most one call, which asks for it. -/
theorem adds_serverVersion :
  Adds (· = .info .version) serverVersion
  := by
  intro s
  cases h : s.reading with
  | blocking =>
    rw [serverVersion_of_blocking h]
    apply adds_exchange (Script.adds_info_version) s
  | streaming =>
    rw [serverVersion_of_streaming h]
    apply adds_report (.ok ServerVersion.unknown) s

end Session

namespace Request

/-- Apart from connecting and learning the version, a request works on cursors. -/
inductive WorksOnCursor : Request → Prop
  | execute (statement : Statement) : WorksOnCursor (.execute statement)
  | fetchAll (statement : Statement) (types : List ColumnType) :
    WorksOnCursor (.fetchAll statement types)
  | nextValue (sequence : Sequence) : WorksOnCursor (.nextValue sequence)
  | hasTable (name : String) : WorksOnCursor (.hasTable name)
  | hasSequence (name : String) : WorksOnCursor (.hasSequence name)
  | ping : WorksOnCursor .ping

/-- A request that works on a cursor adds only calls on cursors. -/
theorem WorksOnCursor.adds {r : Request} (h : r.WorksOnCursor) :
  Operation.Adds Call.OnCursor r.operation
  := by
  cases h with
  | execute statement =>
    apply Operation.Adds.map
    apply (Operation.adds_compile statement).bind
    intro query
    apply (Session.adds_run query.sql query.parameters false).map
  | fetchAll statement types =>
    apply Operation.Adds.map
    apply (Operation.adds_compile statement).bind
    intro query
    apply (Session.adds_run query.sql query.parameters true).bind
    intro answer
    apply Operation.adds_report
  | nextValue sequence =>
    apply Operation.Adds.map
    apply (Operation.adds_report _).bind
    intro query
    apply (Session.adds_run query.sql [] true).bind
    intro answer
    apply Operation.adds_report
  | hasTable name => apply (Session.adds_hasRows (Catalog.tableQuery name)).map
  | hasSequence name => apply (Session.adds_hasRows (Catalog.sequenceQuery name)).map
  | ping => apply Session.adds_ping.map

/-- A request that does not connect works on cursors, or learns the version. -/
theorem worksOnCursor_or {r : Request} (h : ∀ url, r ≠ connect url) :
  r.WorksOnCursor ∨ r = learnVersion
  := by
  cases r with
  | execute statement => exact .inl (.execute statement)
  | fetchAll statement types => exact .inl (.fetchAll statement types)
  | nextValue sequence => exact .inl (.nextValue sequence)
  | hasTable name => exact .inl (.hasTable name)
  | hasSequence name => exact .inl (.hasSequence name)
  | ping => exact .inl .ping
  | learnVersion => exact .inr rfl
  | connect url => cases h url rfl

/-- Only a request that learns the version asks a server about itself. -/
theorem adds_of_ne {r : Request} (h : r ≠ learnVersion) :
  Operation.Adds (·.isInfo = false) r.operation
  := by
  intro s
  by_cases hconnect : ∃ url, r = connect url
  · obtain ⟨url, rfl⟩ := hconnect
    apply ((Session.adds_connect url).map _ s).mono
    rintro call rfl
    rfl
  · obtain hworks | hlearns := worksOnCursor_or fun url heq => hconnect ⟨url, heq⟩
    · apply (hworks.adds s).mono
      intro call
      apply Call.OnCursor.isInfo_eq_false
    · cases h hlearns

/-- A connection that does not block learns the version without asking the server. -/
theorem learnVersion_of_streaming {s : Session} (h : s.reading = .streaming) :
  learnVersion.operation s = (.ok .done, { s with version := s.version.or (some .unknown) })
  := by
  apply (Operation.replaced_eq Session.learnVersion Answer.done s).trans
  rw [Session.learnVersion_of_streaming h]
  rfl

end Request

end SqlDialect
