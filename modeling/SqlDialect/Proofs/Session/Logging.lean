import SqlDialect.ColumnType.WireName
import SqlDialect.Dialect
import SqlDialect.Proofs.Calendar.Literals
import SqlDialect.Proofs.Render.Moments
import SqlDialect.Proofs.Session.Requests
import SqlDialect.Proofs.Value.Bits

/-!
# Logging

A failure is logged once, with its whole text, and a success logs no error.  A warning is
logged by a ping that finds the connection unusable and by a version of the server that
cannot be read, and by nothing else.  Whatever is made of parts that fail in this way fails
in this way itself, since what hands a failure on logs nothing more.
-/

namespace SqlDialect

/-! ## Reports -/

namespace Report

variable {α β : Type} {r : Report α} {next : α → Report β} {warned : Prop}

/-- The records of errors. -/
def errors (r : Report α) : List LogRecord := r.log.filter (·.level = .error)

/-- The records of warnings. -/
def warnings (r : Report α) : List LogRecord := r.log.filter (·.level = .warning)

/-- A success logs no error and a failure one, with its whole text; a warning is logged, once, just
when the condition holds. -/
structure Faithful (r : Report α) (warned : Prop) : Prop where
  errors : r.errors = match r.result with
    | .ok _ => []
    | .error f => [⟨.error, f.message⟩]
  warning : warned → ∃ text, r.warnings = [⟨.warning, text⟩]
  no_warning : ¬ warned → r.warnings = []

/-- A success that logs nothing, or a failure that is logged. -/
def Plain (r : Report α) : Prop := (∃ x, r = .ok x) ∨ ∃ f, r = .fail f

/-- A success logs nothing. -/
theorem plain_ok (x : α) :
  (ok x).Plain
  := .inl ⟨x, rfl⟩

/-- A failure logs itself. -/
theorem plain_fail (f : Failure) :
  (fail f : Report α).Plain
  := .inr ⟨f, rfl⟩

/-- A failure that is handed on is not logged again. -/
theorem Plain.bind (h : r.Plain) (hnext : ∀ x, (next x).Plain) :
  (r.bind next).Plain
  := by
  obtain ⟨x, rfl⟩ | ⟨f, rfl⟩ := h
  · exact hnext x
  · exact plain_fail f

/-- A report that logs only its own failure is faithful, and there is nothing to warn of. -/
theorem Plain.faithful (h : r.Plain) :
  r.Faithful False
  := by
  obtain ⟨x, rfl⟩ | ⟨f, rfl⟩ := h
  · exact ⟨rfl, False.elim, fun _ => rfl⟩
  · exact ⟨rfl, False.elim, fun _ => rfl⟩

/-- A success that logs a warning. -/
theorem faithful_warning (x : α) (text : String) :
  (⟨.ok x, [⟨.warning, text⟩]⟩ : Report α).Faithful True
  := ⟨rfl, fun _ => ⟨text, rfl⟩, fun h => (h trivial).elim⟩

/-- What is made of a result leaves the log as it is. -/
theorem Faithful.map (f : α → β) (h : r.Faithful warned) :
  (r.bind fun x => .ok (f x)).Faithful warned
  := by
  obtain ⟨_ | x, log⟩ := r
  · exact ⟨h.errors, h.warning, h.no_warning⟩
  · have hlog : (Report.bind ⟨.ok x, log⟩ fun x => .ok (f x)) = ⟨.ok (f x), log⟩ :=
      congrArg (Report.mk (.ok (f x))) (List.append_nil log)
    rw [hlog]
    exact ⟨h.errors, h.warning, h.no_warning⟩

/-- What is to be warned of may be given in another form. -/
theorem Faithful.of_iff {condition : Prop} (h : r.Faithful warned) (hiff : warned ↔ condition) :
  r.Faithful condition
  := hiff.eq ▸ h

end Report

/-! ## Operations -/

namespace Operation

variable {α β : Type}

/-- The operation either succeeds and logs nothing, or fails with a failure that is logged. -/
def Plain (op : Operation α) : Prop := ∀ s, (op s).1.Plain

/-- An operation logs only its own failure when its parts do, since what hands a failure on logs
nothing. -/
theorem Plain.bind {first : Operation α} {next : α → Operation β} (h : first.Plain)
    (hnext : ∀ x, (next x).Plain) :
  (first >>= next).Plain
  := by
  intro s
  rw [bind_report]
  apply (h s).bind
  intro x
  apply hnext

/-- A report logs as an operation what it logs by itself. -/
theorem plain_report {r : Report α} (h : r.Plain) :
  (report r).Plain
  := fun _ => h

/-- An operation that does nothing logs nothing. -/
theorem plain_return (x : α) :
  (pure x : Operation α).Plain
  := plain_report (Report.plain_ok x)

/-- An exchange logs what its result is turned into. -/
theorem plain_exchange {turn : Except Failure α → Report β} (e : Exchange α)
    (h : ∀ result, (turn result).Plain) :
  (exchange turn e).Plain
  := fun _ => h _

end Operation

/-! ## Compilation -/

/-- The compilation of a statement whose moments all have timestamps logs only its own failure. -/
theorem Statement.Dated.compile {s : Statement} (h : s.Dated) (style : Style) :
  (style.compile s).Plain
  := h.attempt.compiled

/-- The compilation for a dialect logs what that of its style logs. -/
theorem Statement.Dated.compile_dialect {s : Statement} (h : s.Dated) (d : Dialect) :
  (d.compile s).Plain
  := (h.compile d.style).bind fun _ => Report.plain_ok _

/-! ## Values -/

namespace Value

/-- The decoding of a bit logs only its own failure. -/
theorem plain_decodeBit (cell : Value) :
  cell.decodeBit.Plain
  := by
  obtain ⟨h, -⟩ | ⟨h, -⟩ := cell.decodeBit_cases
  · exact .inl ⟨_, h⟩
  · exact .inr ⟨_, h⟩

/-- The decoding of a cell logs only its own failure. -/
theorem plain_decode (type : ColumnType) (cell : Value) :
  (cell.decode type).Plain
  := by
  obtain ⟨h, -⟩ | ⟨h, -⟩ := decode_cases type cell
  · exact .inl ⟨_, h⟩
  · exact .inr ⟨_, h⟩

/-- The decoding of a row logs only its own failure. -/
theorem plain_decodeRow (types : List ColumnType) (row : Row) :
  (decodeRow types row).Plain
  := by
  obtain ⟨h, -⟩ | ⟨_, _, -, h⟩ := decodeRow_cases types row
  · exact .inl ⟨_, h⟩
  · exact .inr ⟨_, h⟩

/-- The decoding of rows logs only its own failure. -/
theorem plain_decodeRows (types : List ColumnType) (rows : List Row) :
  (decodeRows types rows).Plain
  := by
  obtain ⟨h, -⟩ | ⟨_, -, h⟩ := decodeRows_cases types rows
  · exact .inl ⟨_, h⟩
  · exact .inr ⟨_, h⟩

/-- No numeral is the word for a null. -/
theorem ne_null_of_isNumeral {text : String} (h : text.toList.all isNumeral) :
  text ≠ "NULL"
  := by
  rintro rfl
  revert h
  decide

/-- Only a null is written as the word for it; every other value has a text of its own. -/
theorem pieces_eq_null_iff (style : Style) (value : Value) :
  value.pieces style = [.plain "NULL"] ↔ value.isNull
  := by
  have hinteger : ∀ n, Text.integer n ≠ "NULL" :=
    fun n => ne_null_of_isNumeral (all_isNumeral_integer n)
  cases value with
  | null => simp [pieces, isNull]
  | boolean content =>
    cases content with
    | none => simp [pieces, isNull]
    | some x => cases style <;> cases x <;> simp [pieces, isNull, Style.boolean]
  | smallint content | integer content | bigint content =>
    cases content with
    | none => simp [pieces, isNull]
    | some n => simpa [pieces, isNull] using hinteger _
  | double content =>
    cases content with
    | none => simp [pieces, isNull]
    | some x =>
      have hrender : sqlLayout.render x ≠ "NULL" := ne_null_of_isNumeral (all_isNumeral_render _ x)
      change x.pieces style = _ ↔ _
      rw [Binary64.pieces]
      split
      · simpa [isNull] using hrender
      · simp [isNull, Binary64.castPieces, Piece.cast]
  | decimal content precision scale =>
    cases content with
    | none => simp [pieces, isNull]
    | some x => simpa [pieces, isNull] using ne_null_of_isNumeral (all_isNumeral_decimal x)
  | varchar content | date content | timestamp content =>
    cases content with
    | none => simp [pieces, isNull]
    | some x => simp [pieces, isNull, Piece.literal]
  | moment content =>
    cases content with
    | none => simp [pieces, isNull]
    | some m =>
      change m.pieces = _ ↔ _
      rw [Moment.pieces]
      split
      · simp [isNull, Piece.literal]
      · simp [isNull]

/-- Something is written of every value: a literal, or what stands for a moment that has none. -/
theorem pieces_ne_nil (style : Style) (value : Value) :
  value.pieces style ≠ []
  := by
  by_cases h : value.HasLiteral
  · exact (value.literalForm style h).ne_nil
  · obtain ⟨moment, hpieces⟩ := value.pieces_of_not_hasLiteral style h
    rw [hpieces]
    apply List.cons_ne_nil

end Value

/-! ## Names and registries -/

/-- The reading of a type name logs only its own failure. -/
theorem ColumnType.plain_ofWireName (name : String) :
  (ofWireName name).Plain
  := by
  rw [ofWireName]
  split
  · apply Report.plain_ok
  · apply Report.plain_fail

namespace Registry

/-- The loading of a dialect logs only its own failure. -/
theorem plain_load (r : Registry) (key : String) :
  (r.load key).Plain
  := by
  rw [load]
  split
  · apply Report.plain_ok
  · apply Report.plain_fail

/-- The finding of a dialect by a URL logs only its own failure. -/
theorem plain_fromUrl (r : Registry) (url : String) :
  (r.fromUrl url).Plain
  := by
  rw [fromUrl]
  split
  · apply Report.plain_fail
  · split
    · apply plain_load
    · apply Report.plain_fail

end Registry

/-! ## Sessions -/

namespace Session

/-- Running a query logs only its own failure. -/
theorem plain_run (sql : String) (parameters : List Value) (wantsRows : Bool) :
  (run sql parameters wantsRows).Plain
  := by
  intro s
  apply Operation.plain_exchange
  intro result
  cases result with
  | ok answer => apply Report.plain_ok
  | error f => apply Report.plain_fail

/-- The execution of a statement logs only its own failure. -/
theorem plain_execute {statement : Statement} (h : statement.Dated) :
  (execute statement).Plain
  := by
  apply Operation.Plain.bind fun s => h.compile_dialect s.dialect
  intro query
  apply (plain_run query.sql query.parameters false).bind
  intro answer
  apply Operation.plain_return

/-- Fetching the rows of a statement logs only its own failure. -/
theorem plain_fetchAll {statement : Statement} (h : statement.Dated) (types : List ColumnType) :
  (fetchAll statement types).Plain
  := by
  apply Operation.Plain.bind fun s => h.compile_dialect s.dialect
  intro query
  apply (plain_run query.sql query.parameters true).bind
  intro answer
  apply Operation.plain_report (Value.plain_decodeRows types answer.1)

/-- Asking for the next value of a sequence logs only its own failure. -/
theorem plain_nextValue (sequence : Sequence) :
  (nextValue sequence).Plain
  := by
  have hdated : (Statement.select { columns := [.nextValue sequence] }).Dated := by
    intro leaf hleaf
    cases hleaf
  apply (Operation.plain_report (hdated.compile .openEdge)).bind
  intro query
  apply (plain_run query.sql [] true).bind
  intro answer
  apply Operation.plain_report
  rw [firstInteger]
  split
  · apply Report.plain_ok
  · apply Report.plain_fail

/-- Looking up rows logs only its own failure. -/
theorem plain_hasRows (sql : String) :
  (hasRows sql).Plain
  := by
  apply (plain_run sql [] true).bind
  intro answer
  apply Operation.plain_return

/-- Connecting logs only its own failure. -/
theorem plain_connect (url : String) :
  (connect url).Plain
  := by
  apply Operation.plain_exchange
  intro result
  cases result with
  | ok answer => apply Report.plain_ok
  | error f => apply Report.plain_fail

/-- A ping warns when it finds the connection unusable. -/
theorem faithful_pingReport (result : Except Failure Unit) :
  (pingReport result).Faithful ((pingReport result).result = .ok false)
  := by
  rw [pingReport.eq_def]
  split
  · exact (Report.plain_ok true).faithful.of_iff (by simp [Report.ok])
  · split
    · exact (Report.faithful_warning false _).of_iff (by simp)
    · exact (Report.plain_fail _).faithful.of_iff (by simp [Report.fail])

/-- A version that cannot be read is warned of once and counts as unknown. -/
theorem faithful_versionReport (result : Except Failure String) :
  (versionReport result).Faithful
    (∃ text, result = .ok text ∧ ServerVersion.parse? text.toList = none)
  := by
  rw [versionReport.eq_def]
  split
  · exact (Report.plain_fail _).faithful.of_iff (by simp)
  · split
    next h => exact (Report.plain_ok _).faithful.of_iff (by simp [h])
    next h => exact (Report.faithful_warning _ _).of_iff (by simp [h])

/-- The server tells a version that cannot be read, and is asked for it. -/
def VersionUnread (s : Session) : Prop :=
  s.reading = .blocking
    ∧ ∃ text, s.script.version = some text ∧ ServerVersion.parse? text.toList = none

/-- The version of the server is warned of just when it cannot be read. -/
theorem faithful_serverVersion (s : Session) :
  (serverVersion s).1.Faithful s.VersionUnread
  := by
  cases h : s.reading with
  | blocking =>
    rw [serverVersion_of_blocking h, Operation.exchange, info_version_eq]
    apply (faithful_versionReport _).of_iff
    cases hversion : s.script.version with
    | none => simp [VersionUnread, hversion]
    | some text => simp [VersionUnread, h, hversion]
  | streaming =>
    rw [serverVersion_of_streaming h]
    exact (Report.plain_ok _).faithful.of_iff (by simp [VersionUnread, h])

end Session

namespace Request

/-- The values in the statement of the request, if it comes with one, have literals. -/
def Dated : Request → Prop
  | execute statement => statement.Dated
  | fetchAll statement _ => statement.Dated
  | _ => True

/-- What there is to warn of: a ping that finds the connection unusable, and a version of the server
that cannot be read. -/
def Warns (s : Session) : Request → Prop
  | ping => (Session.ping s).1.result = .ok false
  | learnVersion => s.VersionUnread
  | _ => False

/-- A request logs its failure once, and a warning just when there is something to warn of. -/
theorem Dated.faithful {r : Request} (h : r.Dated) (s : Session) :
  (r.operation s).1.Faithful (r.Warns s)
  := by
  have hplain : ∀ {α : Type} {op : Operation α} (f : α → Answer), op.Plain →
      ((do return f (← op) : Operation Answer) s).1.Faithful False :=
    fun f hop => (hop.bind (fun x => Operation.plain_return (f x)) s).faithful
  cases r with
  | execute statement => exact hplain .affected (Session.plain_execute h)
  | fetchAll statement types => exact hplain .rows (Session.plain_fetchAll h types)
  | nextValue sequence => exact hplain .integer (Session.plain_nextValue sequence)
  | hasTable name => exact hplain .truth (Session.plain_hasRows _)
  | hasSequence name => exact hplain .truth (Session.plain_hasRows _)
  | connect url => exact hplain (fun _ => .done) (Session.plain_connect url)
  | ping =>
    rw [operation, Operation.bind_report]
    exact (Session.faithful_pingReport _).map Answer.truth
  | learnVersion =>
    rw [operation, Operation.bind_report, Session.learnVersion, Operation.bind_report]
    exact ((Session.faithful_serverVersion s).map fun _ => ()).map fun _ => Answer.done

end Request

/-- Every failure is logged once, with its whole text, and successes log no error: in compiling a
statement, alone or for a dialect, in every request to a session, in reading type names and cells,
and in finding dialects.  The only warnings are those of a ping that finds the connection unusable
and of a version of the server that cannot be read.  There is no value of which nothing is written:
the word for a null is written for the nulls and for nothing else. -/
theorem failures_logged_once (s : Session) :
  (∀ statement : Statement, statement.Dated →
      (∀ style : Style, (style.compile statement).Faithful False)
      ∧ ∀ d : Dialect, (d.compile statement).Faithful False)
    ∧ (∀ r : Request, r.Dated → (r.operation s).1.Faithful (r.Warns s))
    ∧ (∀ name, (ColumnType.ofWireName name).Faithful False)
    ∧ (∀ cell : Value, cell.decodeBit.Faithful False
      ∧ ∀ type, (cell.decode type).Faithful False)
    ∧ (∀ types row, (Value.decodeRow types row).Faithful False)
    ∧ (∀ (registry : Registry) key, (registry.load key).Faithful False)
    ∧ (∀ (registry : Registry) url, (registry.fromUrl url).Faithful False)
    ∧ ∀ (style : Style) (value : Value), value.pieces style ≠ []
      ∧ (value.pieces style = [.plain "NULL"] ↔ value.isNull)
  := by
  constructor
  · intro statement h
    exact ⟨fun style => (h.compile style).faithful, fun d => (h.compile_dialect d).faithful⟩
  constructor
  · intro r h
    exact h.faithful s
  constructor
  · intro name
    exact (ColumnType.plain_ofWireName name).faithful
  constructor
  · intro cell
    exact ⟨cell.plain_decodeBit.faithful, fun type => (Value.plain_decode type cell).faithful⟩
  constructor
  · intro types row
    exact (Value.plain_decodeRow types row).faithful
  constructor
  · intro registry key
    exact (registry.plain_load key).faithful
  constructor
  · intro registry url
    exact (registry.plain_fromUrl url).faithful
  · intro style value
    exact ⟨value.pieces_ne_nil style, value.pieces_eq_null_iff style⟩

/-- The rolls dyed since the given moment. -/
def dyedSince (m : Moment) : Statement :=
  .select
    { columns := [.operand .asterisk]
      source := some { name := "rolls" }
      condition := some (.binary .greaterEqual (.operand (.column { name := "dyed" }))
        (.operand (.inline (.moment (some m))))) }

/-- The rolls dyed since a moment with a timestamp in UTC are asked for with no other moment. -/
theorem dyedSince_dated {m : Moment} (h : m.utc?.isSome) :
  (dyedSince m).Dated
  := by
  have hoperands : (dyedSince m).operands
      = [.asterisk, .column { name := "dyed" }, .inline (.moment (some m))] := rfl
  intro leaf hleaf value hvalue m' hm'
  rw [hoperands] at hleaf
  obtain rfl | rfl := hvalue
  · simp only [List.mem_cons, reduceCtorEq, Operand.inline.injEq, List.not_mem_nil, or_false,
      false_or] at hleaf
    rw [hm'] at hleaf
    obtain rfl := Option.some.inj (Value.moment.inj hleaf)
    exact h
  · simp at hleaf

/-- A server that does not understand the query, over a connection that does not block. -/
theorem failures_logged_once_leapEvening :
  (dyedSince leapEvening).Dated
    ∧ ∃ f, ((Request.execute (dyedSince leapEvening)).operation
        { reading := .streaming, script := { outcomes := [.failure "Syntax error"] } }).1.result
          = .error f
      ∧ f.message = "While executing the query:\nSELECT *\nFROM rolls\n"
        ++ "WHERE dyed >= '2024-02-29 23:30:00.25': Syntax error"
      ∧ ((Request.execute (dyedSince leapEvening)).operation
        { reading := .streaming, script := { outcomes := [.failure "Syntax error"] } }).1.errors
          = [⟨.error, f.message⟩]
  := by
  have hdated : (dyedSince leapEvening).Dated := dyedSince_dated (by decide)
  have hfaithful := (failures_logged_once
    { reading := .streaming, script := { outcomes := [.failure "Syntax error"] } }).2.1
    (.execute (dyedSince leapEvening)) hdated
  have hfailed : ((Request.execute (dyedSince leapEvening)).operation
      { reading := .streaming, script := { outcomes := [.failure "Syntax error"] } }).1.result
      = .error ((Failure.ofCause (.stated "Syntax error")).within
        (.executing "SELECT *\nFROM rolls\nWHERE dyed >= '2024-02-29 23:30:00.25'")) := by
    decide +kernel
  have herrors := hfaithful.errors
  rw [hfailed] at herrors
  exact ⟨hdated, _, hfailed, by decide +kernel, herrors⟩

end SqlDialect
