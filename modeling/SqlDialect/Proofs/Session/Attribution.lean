import SqlDialect.Proofs.Render.Woven
import SqlDialect.Proofs.Session.Requests
import SqlDialect.Proofs.Value.Bits

/-!
# Failures that name their query

A request that runs a query of its own fails in one of two ways.  While the query is run,
from the opening of its cursor to the closing, a failure is handed on under the name of the
query, with all the links of its chain behind that name.  Afterwards the rows are made into
an answer, and a failure met there is handed on without the name: a cell that stands for
nothing, or a next value that is no integer.
-/

namespace SqlDialect

/-- The second failure is the first one under the name of the query: it adds one link in front of
the chain, and is otherwise of the same kind and with the same driver errors in it. -/
structure Failure.NamedBy (sql : String) (f g : Failure) : Prop where
  contexts : g.contexts = .executing (excerptOf sql) :: f.contexts
  links : g.links = .context (.executing (excerptOf sql)) :: f.links
  message : g.message = "While executing the query:\n" ++ excerptOf sql ++ ": " ++ f.message
  kind : g.kind = f.kind
  driverErrors : g.driverErrors = f.driverErrors

theorem Failure.namedBy_iff {sql : String} {f g : Failure} :
  f.NamedBy sql g ↔ g = f.within (.executing (excerptOf sql))
  := by
  constructor
  · intro h
    have hcause : (Link.cause g.cause :: g.cause.sources.map .source)
        = .cause f.cause :: f.cause.sources.map .source := by
      have hlinks := h.links
      rw [Failure.links, h.contexts] at hlinks
      exact List.append_cancel_left (List.cons.inj hlinks).2
    obtain ⟨contexts, cause⟩ := g
    obtain rfl : contexts = _ := h.contexts
    obtain rfl : cause = f.cause := Link.cause.inj (List.cons.inj hcause).1
    rfl
  · rintro rfl
    exact ⟨rfl, rfl, Failure.message_within _ _, rfl, rfl⟩

namespace Request

/-- The first cell of the first row. -/
def firstCell (rows : List Row) : Value := (rows.headD []).headD .null

/-- What a request makes of the rows and of the count of affected rows that its query brings. -/
def conclude (rows : List Row) (count : Option Nat) : Request → Report Answer
  | fetchAll _ types => do return .rows (← Value.decodeRows types rows)
  | nextValue sequence => do return .integer (← Session.firstInteger sequence rows)
  | hasTable _ => .ok (.truth !rows.isEmpty)
  | hasSequence _ => .ok (.truth !rows.isEmpty)
  | _ => .ok (.affected count)

/-- The failure of a request whose rows cannot be made into an answer. -/
inductive Inconclusive (rows : List Row) : Request → Failure → Prop
  | cell {statement : Statement} {types : List ColumnType} {cell : Value}
    (h : Value.OffendsFirstAmong types rows cell) :
    Inconclusive rows (fetchAll statement types) (.ofCause (.typeMismatch "BIT" cell.typeName))
  | integer {sequence : Sequence} (h : (firstCell rows).integer? = none) :
    Inconclusive rows (nextValue sequence)
      ((Failure.ofCause (.typeMismatch "INTEGER" (firstCell rows).typeName)).within
        (.readingNextValue sequence.name))

/-! ## Answers -/

theorem firstInteger_cases (sequence : Sequence) (rows : List Row) :
  (∃ n, Session.firstInteger sequence rows = .ok n ∧ (firstCell rows).integer? = some n)
    ∨ Session.firstInteger sequence rows
        = .fail ((Failure.ofCause (.typeMismatch "INTEGER" (firstCell rows).typeName)).within
          (.readingNextValue sequence.name))
      ∧ (firstCell rows).integer? = none
  := by
  rw [Session.firstInteger]
  split
  next n hn => exact .inl ⟨n, rfl, hn⟩
  next hn => exact .inr ⟨rfl, hn⟩

/-- An answer is made of the rows unless the request is inconclusive. -/
theorem result_conclude_eq_error {rows : List Row} {count : Option Nat} {r : Request}
    {g : Failure} :
  (r.conclude rows count).result = .error g ↔ Inconclusive rows r g
  := by
  cases r with
  | fetchAll statement types =>
    rw [conclude]
    constructor
    · intro h
      obtain ⟨hrows, -⟩ | ⟨cell, hfirst, hrows⟩ := Value.decodeRows_cases types rows
      · rw [hrows] at h
        cases h
      · rw [hrows] at h
        obtain rfl := Except.error.inj h
        apply Inconclusive.cell hfirst
    · rintro ⟨hfirst⟩
      obtain ⟨-, hall⟩ | ⟨cell, hfirst', hrows⟩ := Value.decodeRows_cases types rows
      · cases hfirst.not_decodable hall
      · rw [hrows, hfirst.unique hfirst']
        rfl
  | nextValue sequence =>
    rw [conclude]
    obtain ⟨n, hfirst, hn⟩ | ⟨hfirst, hn⟩ := firstInteger_cases sequence rows
    · rw [hfirst]
      constructor
      · intro h
        cases h
      · rintro (_ | hnone)
        rw [hn] at hnone
        cases hnone
    · rw [hfirst]
      constructor
      · intro h
        obtain rfl := Except.error.inj h
        apply Inconclusive.integer hn
      · rintro (_ | _)
        rfl
  | execute | hasTable | hasSequence | ping | learnVersion | connect =>
    constructor
    · intro h
      cases h
    · intro h
      cases h

/-- What cannot be made into an answer is of the wrong type, and no query is named for it. -/
theorem Inconclusive.unnamed {rows : List Row} {r : Request} {g : Failure}
    (h : Inconclusive rows r g) :
  g.kind = .typeMismatch ∧ ∀ sql, .executing sql ∉ g.contexts
  := by
  cases h with
  | cell => exact ⟨rfl, by simp [Failure.ofCause]⟩
  | integer => exact ⟨rfl, by simp [Failure.ofCause, Failure.within]⟩

/-! ## Queries -/

end Request

namespace Operation

variable {α β : Type} {q : Query} {conclude : List Row → Option Nat → Report α}

/-- The operation runs the query and fails under the name of the query when that fails; otherwise it
makes something of the rows and of the count of affected rows. -/
def Concludes (op : Operation α) (q : Query) (conclude : List Row → Option Nat → Report α) : Prop :=
  ∀ s : Session, (op s).1.result
    = match (Cursor.run s.reading q.sql q.parameters q.readsRows s.script).1 with
      | .ok (rows, count) => (conclude rows count).result
      | .error f => .error (f.within (.executing (excerptOf q.sql)))

theorem concludes_run {next : List Row × Option Nat → Operation α}
    (hnext : ∀ rows count, Steady (next (rows, count)) (conclude rows count)) :
  Concludes (Session.run q.sql q.parameters q.readsRows >>= next) q conclude
  := by
  intro s
  rw [bind_report, Session.run, exchange]
  dsimp only
  cases (Cursor.run s.reading q.sql q.parameters q.readsRows s.script).1 with
  | error f => rfl
  | ok answer =>
    obtain ⟨rows, count⟩ := answer
    exact congrArg Report.result ((hnext rows count).report _)

/-- What is made first without the server has no part in the failures of the query. -/
theorem Steady.bind_concludes {first : Operation β} {next : β → Operation α} {r : Report β} {x : β}
    (hfirst : Steady first r) (hr : r.result = .ok x) (hnext : Concludes (next x) q conclude) :
  Concludes (first >>= next) q conclude
  := by
  intro s
  have hok : (first s).1.result = .ok x := by rw [hfirst.report, hr]
  rw [result_bind_ok hok, hnext, hfirst.reading, hfirst.script]

theorem Concludes.map {op : Operation α} (f : α → β) (h : Concludes op q conclude) :
  Concludes (do return f (← op)) q fun rows count => do return f (← conclude rows count)
  := by
  intro s
  have hresult := h s
  cases hrun : (Cursor.run s.reading q.sql q.parameters q.readsRows s.script).1 with
  | error g =>
    rw [hrun] at hresult
    apply result_bind_error hresult
  | ok answer =>
    rw [hrun] at hresult
    dsimp only at hresult ⊢
    cases hconclude : (conclude answer.1 answer.2).result with
    | error g =>
      rw [hconclude] at hresult
      rw [result_bind_error hresult]
      change _ = ((conclude answer.1 answer.2).bind _).result
      rw [Report.bind, hconclude]
    | ok x =>
      rw [hconclude] at hresult
      rw [result_bind_ok hresult]
      change _ = ((conclude answer.1 answer.2).bind _).result
      rw [Report.bind, hconclude]
      rfl

end Operation

theorem Except.eq_ok_of_toOption {ε α : Type} {r : Except ε α} {x : α}
    (h : r.toOption = some x) :
  r = .ok x
  := by
  cases r with
  | error f => cases h
  | ok y =>
    obtain rfl := Option.some.inj h
    rfl

namespace Session

open Operation

theorem concludes_execute {statement : Statement} {query : CompiledQuery}
    (h : (Dialect.odbc.compile statement).result.toOption = some query) :
  Concludes (execute statement) ⟨query.sql, query.parameters, false⟩ fun _ count => .ok count
  := by
  apply (steady_compile statement).bind_concludes (Except.eq_ok_of_toOption h)
  apply concludes_run (q := ⟨query.sql, query.parameters, false⟩)
  intro rows count
  apply steady_report

theorem concludes_fetchAll {statement : Statement} {query : CompiledQuery} (types : List ColumnType)
    (h : (Dialect.odbc.compile statement).result.toOption = some query) :
  Concludes (fetchAll statement types) ⟨query.sql, query.parameters, true⟩ fun rows _ =>
    Value.decodeRows types rows
  := by
  apply (steady_compile statement).bind_concludes (Except.eq_ok_of_toOption h)
  apply concludes_run (q := ⟨query.sql, query.parameters, true⟩)
  intro rows count
  apply steady_report

theorem concludes_nextValue {sequence : Sequence} {query : CompiledQuery}
    (h : (Style.openEdge.compile (.select { columns := [.nextValue sequence] })).result.toOption
      = some query) :
  Concludes (nextValue sequence) ⟨query.sql, [], true⟩ fun rows _ => firstInteger sequence rows
  := by
  apply (steady_report _).bind_concludes (Except.eq_ok_of_toOption h)
  apply concludes_run (q := ⟨query.sql, [], true⟩)
  intro rows count
  apply steady_report

theorem concludes_hasRows (sql : String) :
  Concludes (hasRows sql) ⟨sql, [], true⟩ fun rows _ => .ok !rows.isEmpty
  := by
  apply concludes_run (q := ⟨sql, [], true⟩)
  intro rows count
  apply steady_report

end Session

namespace Request

open Operation

/-- A request with a query, unless it is a ping, makes its answer of what the query brings. -/
theorem concludes_operation {r : Request} {q : Query} (hr : r ≠ ping) (hq : r.query? = some q) :
  Concludes r.operation q fun rows count => r.conclude rows count
  := by
  cases r with
  | execute statement =>
    obtain ⟨query, hquery, rfl⟩ := Option.map_eq_some_iff.mp hq
    exact (Session.concludes_execute hquery).map _
  | fetchAll statement types =>
    obtain ⟨query, hquery, rfl⟩ := Option.map_eq_some_iff.mp hq
    exact (Session.concludes_fetchAll types hquery).map _
  | nextValue sequence =>
    obtain ⟨query, hquery, rfl⟩ := Option.map_eq_some_iff.mp hq
    exact (Session.concludes_nextValue hquery).map _
  | hasTable name =>
    obtain rfl := Option.some.inj hq
    exact (Session.concludes_hasRows _).map _
  | hasSequence name =>
    obtain rfl := Option.some.inj hq
    exact (Session.concludes_hasRows _).map _
  | ping => cases hr rfl
  | learnVersion => cases hq
  | connect url => cases hq

theorem attempt_nextValue (sequence : Sequence) :
  (Statement.select { columns := [.nextValue sequence] }).attempt .openEdge {}
    = .ok (.plain "SELECT " :: sequence.nextValuePieces .openEdge)
  := by
  have hcolumn :=
    Expr.pieces_nextValue .openEdge (({} : Scope).qualifying.entering .select) sequence
  have hbody : SelectQuery.bodyPieces .openEdge ({} : Scope).qualifying
      { columns := [.nextValue sequence] }
      = .plain "SELECT " :: sequence.nextValuePieces .openEdge := by
    rw [← hcolumn]
    simp [SelectQuery.bodyPieces, Piece.separated, SelectQuery.sourcePieces,
      SelectQuery.withoutSourcePieces, wherePieces, SelectQuery.orderPieces, Expr.isNextValue]
  rw [← hbody]
  exact congrArg Attempt.ok (List.append_nil _)

/-- The next value of a sequence can always be asked for. -/
theorem query?_nextValue (sequence : Sequence) :
  (nextValue sequence).query?
    = some ⟨"SELECT " ++ Piece.textOf (sequence.nextValuePieces .openEdge), [], true⟩
  := by
  have hnone : ∀ {α : Type} {find : Piece → Option α}, (∀ text, find (.plain text) = none) →
      (∀ content, find (.quoted '"' content) = none) →
      (Piece.plain "SELECT " :: sequence.nextValuePieces .openEdge).filterMap find = [] := by
    intro α find htext hname
    rw [List.filterMap_cons, htext,
      (Woven.nextValuePieces .openEdge sequence).filterMap_eq htext hname]
    rfl
  have hcompiled : (Style.openEdge.compile (.select { columns := [.nextValue sequence] })).result
      = .ok ⟨"SELECT " ++ Piece.textOf (sequence.nextValuePieces .openEdge), []⟩ := by
    apply Attempt.result_compiled_eq_ok.mpr
    refine ⟨_, attempt_nextValue sequence, ?_, ?_, ?_⟩
    · rw [Piece.momentOf?, ← List.head?_filterMap, hnone (fun _ => rfl) (fun _ => rfl)]
      rfl
    · rw [Piece.failureOf?, ← List.head?_filterMap, hnone (fun _ => rfl) (fun _ => rfl)]
      rfl
    · rw [Piece.parametersOf, hnone (fun _ => rfl) (fun _ => rfl), Piece.textOf_cons]
      rfl
  rw [query?, hcompiled]
  rfl

/-- A request that runs a query of its own, over either kind of connection and any script, fails
just when running the query fails or, after that succeeded, when its rows cannot be made into an
answer.  In the first case the failure is that of the query under the name of the query, with the
whole chain of the failure and its kind; in the second case it is of the wrong type, and carries the
name of no query.  So a failure carries the name of its query exactly when it was met while the
query was run.  The next value of a sequence can always be asked for, and its query selects nothing
else. -/
theorem failures_named_iff {r : Request} {q : Query} (hr : r ≠ ping) (hq : r.query? = some q)
    (s : Session) :
  (∀ g, (r.operation s).1.result = .error g
      ↔ (∃ f, (Cursor.run s.reading q.sql q.parameters q.readsRows s.script).1 = .error f
          ∧ f.NamedBy q.sql g)
        ∨ ∃ rows count,
          (Cursor.run s.reading q.sql q.parameters q.readsRows s.script).1 = .ok (rows, count)
            ∧ Inconclusive rows r g)
    ∧ (∀ g, (r.operation s).1.result = .error g →
      (.executing (excerptOf q.sql) ∈ g.contexts
        ↔ ∃ f, (Cursor.run s.reading q.sql q.parameters q.readsRows s.script).1 = .error f))
    ∧ (∀ rows g, Inconclusive rows r g →
      g.kind = .typeMismatch ∧ ∀ sql, .executing sql ∉ g.contexts)
    ∧ ∀ sequence, (nextValue sequence).query?
      = some ⟨"SELECT " ++ Piece.textOf (sequence.nextValuePieces .openEdge), [], true⟩
  := by
  have hresult := concludes_operation hr hq s
  have hfailure : ∀ g, (r.operation s).1.result = .error g
      ↔ (∃ f, (Cursor.run s.reading q.sql q.parameters q.readsRows s.script).1 = .error f
          ∧ f.NamedBy q.sql g)
        ∨ ∃ rows count,
          (Cursor.run s.reading q.sql q.parameters q.readsRows s.script).1 = .ok (rows, count)
            ∧ Inconclusive rows r g := by
    intro g
    rw [hresult]
    cases (Cursor.run s.reading q.sql q.parameters q.readsRows s.script).1 with
    | error f => simp [Failure.namedBy_iff, eq_comm]
    | ok answer =>
      obtain ⟨rows, count⟩ := answer
      simp [result_conclude_eq_error]
  use hfailure
  constructor
  · intro g hg
    obtain ⟨f, hf, hnamed⟩ | ⟨rows, count, hrows, hinconclusive⟩ := (hfailure g).mp hg
    · rw [hf, hnamed.contexts]
      simp
    · rw [hrows]
      simpa using hinconclusive.unnamed.2 _
  constructor
  · intro rows g h
    apply h.unnamed
  · apply query?_nextValue

/-- Whether the rolls are dyed. -/
def dyedRolls : Statement :=
  .select { columns := [.operand (.column { name := "dyed" })], source := some { name := "rolls" } }

/-- A link that breaks while the rolls are read names the query, and stays an error of the
driver. -/
theorem failures_named_iff_dyedRolls :
  let q : Query := ⟨"SELECT dyed\nFROM rolls", [], true⟩
  let broken : Failure := .ofCause (.driver ⟨"08S01", "Link broken"⟩)
  let s : Session := { reading := .streaming, script := { outcomes := [.rows [[.null]]]
                                                          faults := { fetch := [⟨0, broken⟩] } } }
  (fetchAll dyedRolls [.boolean]).query? = some q
    ∧ (Cursor.run s.reading q.sql q.parameters q.readsRows s.script).1 = .error broken
    ∧ ∃ g, ((fetchAll dyedRolls [.boolean]).operation s).1.result = .error g
      ∧ .executing (excerptOf q.sql) ∈ g.contexts
      ∧ g.kind = .driver
  := by
  intro q broken s
  have hquery : (Dialect.odbc.compile dyedRolls).result = .ok ⟨q.sql, q.parameters⟩ := by
    decide +kernel
  have hq : (fetchAll dyedRolls [.boolean]).query? = some q := by
    rw [query?, hquery]
    rfl
  have hrun : (Cursor.run s.reading q.sql q.parameters q.readsRows s.script).1 = .error broken :=
    rfl
  obtain ⟨hfailure, hnamed, -⟩ := failures_named_iff (r := fetchAll dyedRolls [.boolean])
    (by simp) hq s
  have hwithin : broken.NamedBy q.sql (broken.within (.executing (excerptOf q.sql))) :=
    Failure.namedBy_iff.mpr rfl
  have hfails := (hfailure _).mpr (.inl ⟨broken, hrun, hwithin⟩)
  exact ⟨hq, hrun, _, hfails, (hnamed _ hfails).mpr ⟨broken, hrun⟩, hwithin.kind⟩

/-- A cell that stands for nothing is met after the query was sent, and the failure does not name
the query. -/
theorem dyedRolls_undecoded_unnamed :
  let s : Session := { reading := .blocking, script := { outcomes := [.rows
    [[.varchar (some "yes")]]] } }
  ((fetchAll dyedRolls [.boolean]).operation s).2.script.calls
      = [.cursor, .execute "SELECT dyed\nFROM rolls", .fetch, .fetch, .close]
    ∧ ((fetchAll dyedRolls [.boolean]).operation s).1.result
      = .error ⟨[], .typeMismatch "BIT" "VARCHAR"⟩
  := by
  decide +kernel

end Request

end SqlDialect
