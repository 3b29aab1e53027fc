import SqlDialect.Pool
import SqlDialect.Proofs.Failure.Disconnect

/-!
# Failures of running statements

A failure met while a query is run is handed on under the name of the query, by every
operation of a session that runs one.  So whether it is a disconnect, and a connection is
discarded for it, depends on the failure and on the part of the query that its name shows.
-/

namespace SqlDialect

namespace Operation

variable {α β : Type} {first : Operation α} {next : α → Operation β} {s : Session}

theorem result_bind_ok {x : α} (h : (first s).1.result = .ok x) :
  ((first >>= next) s).1.result = (next x (first s).2).1.result
  := by
  change (bind first next s).1.result = _
  rw [bind]
  split
  next y log s' heq =>
    rw [heq] at h
    obtain rfl := Except.ok.inj h
    rw [heq]
  next f log s' heq =>
    rw [heq] at h
    cases h

theorem result_bind_error {f : Failure} (h : (first s).1.result = .error f) :
  ((first >>= next) s).1.result = .error f
  := by
  change (bind first next s).1.result = _
  rw [bind]
  split
  next y log s' heq =>
    rw [heq] at h
    cases h
  next g log s' heq =>
    rw [heq] at h
    obtain rfl := Except.error.inj h
    rfl

end Operation

namespace Session

/-- The result is a failure that is a disconnect when `f` is or when the part of the query that is
shown has one of the phrases of a lost connection in it. -/
def FailsLike {α : Type} (f : Failure) (sql : String) (result : Except Failure α) : Prop :=
  ∃ g, result = .error g ∧ g.isDisconnect = (f.isDisconnect || mentionsLoss (excerptOf sql))

variable {s : Session} {f : Failure}

/-- Putting a failure under the name of a query. -/
theorem isDisconnect_executing (f : Failure) (sql : String) :
  (f.within (.executing (excerptOf sql))).isDisconnect
    = (f.isDisconnect || mentionsLoss (excerptOf sql))
  := by
  rw [Failure.isDisconnect_within, mentionsLoss_executing]

theorem failsLike_run {sql : String} {parameters : List Value} {wantsRows : Bool}
    (h : (Cursor.run s.reading sql parameters wantsRows s.script).1 = .error f) :
  FailsLike f sql (run sql parameters wantsRows s).1.result
  := by
  use f.within (.executing (excerptOf sql))
  constructor
  · rw [run, Operation.exchange]
    dsimp only
    rw [h]
    rfl
  · apply isDisconnect_executing

/-- What fails first decides how an operation fails. -/
theorem FailsLike.bind {α β : Type} {first : Operation α} {next : α → Operation β} {sql : String}
    (h : FailsLike f sql (first s).1.result) :
  FailsLike f sql ((first >>= next) s).1.result
  := by
  obtain ⟨g, hg, hdisconnect⟩ := h
  use g, Operation.result_bind_error hg

theorem failsLike_execute {statement : Statement} {query : CompiledQuery}
    (hquery : (s.dialect.compile statement).result = .ok query)
    (h : (Cursor.run s.reading query.sql query.parameters false s.script).1 = .error f) :
  FailsLike f query.sql (execute statement s).1.result
  := by
  have hcompile : (Operation.compile statement s).1.result = .ok query := hquery
  rw [execute, Operation.result_bind_ok hcompile]
  apply (failsLike_run h).bind

theorem failsLike_fetchAll {statement : Statement} {query : CompiledQuery}
    (types : List ColumnType) (hquery : (s.dialect.compile statement).result = .ok query)
    (h : (Cursor.run s.reading query.sql query.parameters true s.script).1 = .error f) :
  FailsLike f query.sql (fetchAll statement types s).1.result
  := by
  have hcompile : (Operation.compile statement s).1.result = .ok query := hquery
  rw [fetchAll, Operation.result_bind_ok hcompile]
  apply (failsLike_run h).bind

theorem failsLike_nextValue {sequence : Sequence} {query : CompiledQuery}
    (hquery : (Style.openEdge.compile (.select { columns := [.nextValue sequence] })).result
      = .ok query)
    (h : (Cursor.run s.reading query.sql [] true s.script).1 = .error f) :
  FailsLike f query.sql (nextValue sequence s).1.result
  := by
  have hcompile : (Operation.report (Style.openEdge.compile
      (.select { columns := [.nextValue sequence] })) s).1.result = .ok query := hquery
  rw [nextValue, Operation.result_bind_ok hcompile]
  apply (failsLike_run h).bind

theorem failsLike_hasRows {sql : String}
    (h : (Cursor.run s.reading sql [] true s.script).1 = .error f) :
  FailsLike f sql (hasRows sql s).1.result
  := by
  apply (failsLike_run h).bind

end Session

theorem Pool.result_evict (p : Pool) (id : Nat) (f : Failure) :
  (p.evict id f).1.result = .ok f.isDisconnect
  := by
  rw [evict]
  split
  next h => rw [h]
  next h =>
    rw [Bool.not_eq_true] at h
    rw [h]
    rfl

/-- Whether a failure of running a query is a disconnect depends on the failure and on the part of
the query that is shown: for the failure under the name of the query, for the connection given up
because of it, and for every operation that runs a query, over both kinds of connections.  The query
makes a difference exactly when the part that is shown has one of the phrases in it. -/
theorem isDisconnect_running (p : Pool) (id : Nat) (s : Session) (f : Failure) :
  (∀ sql, (f.within (.executing (excerptOf sql))).isDisconnect
      = (f.isDisconnect || mentionsLoss (excerptOf sql)))
    ∧ (∀ sql, (f.within (.executing (excerptOf sql))).isDisconnect = f.isDisconnect
      ↔ (mentionsLoss (excerptOf sql) → f.isDisconnect))
    ∧ (∀ sql, (p.evict id (f.within (.executing (excerptOf sql)))).1.result
      = .ok (f.isDisconnect || mentionsLoss (excerptOf sql)))
    ∧ (∀ statement query, (s.dialect.compile statement).result = .ok query →
      (Cursor.run s.reading query.sql query.parameters false s.script).1 = .error f →
      Session.FailsLike f query.sql (Session.execute statement s).1.result)
    ∧ (∀ statement types query, (s.dialect.compile statement).result = .ok query →
      (Cursor.run s.reading query.sql query.parameters true s.script).1 = .error f →
      Session.FailsLike f query.sql (Session.fetchAll statement types s).1.result)
    ∧ (∀ sequence query,
      (Style.openEdge.compile (.select { columns := [.nextValue sequence] })).result = .ok query →
      (Cursor.run s.reading query.sql [] true s.script).1 = .error f →
      Session.FailsLike f query.sql (Session.nextValue sequence s).1.result)
    ∧ (∀ name, (Cursor.run s.reading (Catalog.tableQuery name) [] true s.script).1 = .error f →
      Session.FailsLike f (Catalog.tableQuery name) (Session.hasTable name s).1.result)
    ∧ ∀ name, (Cursor.run s.reading (Catalog.sequenceQuery name) [] true s.script).1 = .error f →
      Session.FailsLike f (Catalog.sequenceQuery name) (Session.hasSequence name s).1.result
  := by
  use Session.isDisconnect_executing f
  constructor
  · intro sql
    rw [Session.isDisconnect_executing, Bool.or_eq_left_iff_imp]
  constructor
  · intro sql
    rw [Pool.result_evict, Session.isDisconnect_executing]
  constructor
  · intro statement query
    apply Session.failsLike_execute
  constructor
  · intro statement types query
    apply Session.failsLike_fetchAll
  constructor
  · intro sequence query
    apply Session.failsLike_nextValue
  constructor
  · intro name
    apply Session.failsLike_hasRows
  · intro name
    apply Session.failsLike_hasRows

/-- A failure that is no disconnect becomes one when the query has one of the phrases in a text. -/
theorem isDisconnect_running_phrase :
  (Cursor.run .blocking "SELECT 'Socket closed'\nFROM SYSPROGRESS.SYSCALCTABLE" [] false
      { outcomes := [.failure "Syntax error"] }).1
    = .error (.ofCause (.stated "Syntax error"))
    ∧ (Failure.ofCause (.stated "Syntax error")).isDisconnect = false
    ∧ ∃ g, (Session.execute (.select { columns := [.operand (.text "Socket closed")] })
        { reading := .blocking, script := { outcomes := [.failure "Syntax error"] } }).1.result
          = .error g
      ∧ g.isDisconnect = true
  := by
  constructor
  · rfl
  constructor
  · decide
  · use (Failure.ofCause (.stated "Syntax error")).within
      (.executing "SELECT 'Socket closed'\nFROM SYSPROGRESS.SYSCALCTABLE")
    constructor
    · rfl
    · decide +kernel

end SqlDialect
