import Mathlib.Data.List.Forall2
import Mathlib.Data.List.ReduceOption
import SqlDialect.Proofs.Session.Requests

/-!
# Serving requests

On a connection without faults requests that are made one after the other are served by
their turns.  The calls are complete stretches, each query takes the outcome of its number,
and every reply is the one that the request would get alone, with no outcome but its own.
-/

namespace SqlDialect

theorem eq_of_mem_zip {α β γ : Type} {f : α → γ} {g : β → γ} {xs : List α} {ys : List β}
    (h : xs.map f = ys.map g) {x : α} {y : β} (hmem : (x, y) ∈ xs.zip ys) :
  f x = g y
  := by
  have hforall : List.Forall₂ (fun x y => f x = g y) xs ys := by
    rw [← List.forall₂_map_right_iff, ← List.forall₂_map_left_iff, List.forall₂_eq_eq_eq, h]
  apply (List.forall₂_iff_zip.mp hforall).2 hmem

namespace Request

/-- The turns of requests that are made one after the other, of which each query takes the oldest
outcome, or the default one when none is left. -/
def turns (default : Outcome) : List Request → List Outcome → List (Option Turn)
  | [], _ => []
  | r :: rest, outcomes =>
    match r.query? with
    | none => none :: turns default rest outcomes
    | some q => some ⟨q, outcomes.headD default⟩ :: turns default rest outcomes.tail

theorem query_turns (default : Outcome) (requests : List Request) (outcomes : List Outcome) :
  (turns default requests outcomes).map (Option.map Turn.query) = requests.map query?
  := by
  induction requests generalizing outcomes with
  | nil => rfl
  | cons r rest ih =>
    rw [turns]
    cases hquery : r.query? with
    | none => rw [List.map_cons, List.map_cons, ih, hquery, Option.map_none]
    | some q => rw [List.map_cons, List.map_cons, ih, hquery, Option.map_some]

theorem outcome_turns {default : Outcome} {requests : List Request} {outcomes : List Outcome}
    {i : Nat} {t : Turn} (h : (turns default requests outcomes).reduceOption[i]? = some t) :
  t.outcome = outcomes.getD i default
  := by
  induction requests generalizing outcomes i with
  | nil => cases h
  | cons r rest ih =>
    rw [turns] at h
    cases hquery : r.query? with
    | none =>
      rw [hquery] at h
      apply ih h
    | some q =>
      rw [hquery] at h
      dsimp only at h
      rw [List.reduceOption_cons_of_some] at h
      cases i with
      | zero =>
        obtain rfl := Option.some.inj h
        cases outcomes <;> rfl
      | succ i =>
        rw [List.getElem?_cons_succ] at h
        rw [ih h]
        cases outcomes <;> rfl

theorem sql_turns (reading : Reading) (default : Outcome) (requests : List Request)
    (outcomes : List Outcome) :
  (List.zipWith (calls reading) (turns default requests outcomes) requests).flatten.filterMap
      Call.sql?
    = (turns default requests outcomes).reduceOption.map (·.query.sql)
  := by
  induction requests generalizing outcomes with
  | nil => rfl
  | cons r rest ih =>
    rw [turns]
    cases hquery : r.query? with
    | none =>
      have hcalls := r.sql_calls none reading hquery.symm
      dsimp only
      rw [List.zipWith_cons_cons, List.flatten_cons, List.filterMap_append, hcalls, ih,
        List.reduceOption_cons_of_none]
      rfl
    | some q =>
      have hcalls := r.sql_calls (some ⟨q, outcomes.headD default⟩) reading hquery.symm
      dsimp only
      rw [List.zipWith_cons_cons, List.flatten_cons, List.filterMap_append, hcalls, ih,
        List.reduceOption_cons_of_some]
      rfl

end Request

theorem Report.bind_eq_ok {α β : Type} {r : Report α} {next : α → Report β} {y : β}
    (h : (r.bind next).result = .ok y) :
  ∃ x, r.result = .ok x ∧ (next x).result = .ok y
  := by
  rw [bind] at h
  cases hresult : r.result with
  | error f =>
    rw [hresult] at h
    cases h
  | ok x =>
    rw [hresult] at h
    use x, rfl, h

namespace Session

variable {s : Session}

/-- The rows of a query are those of its own outcome. -/
theorem rows_run {q : Query} {rows : List Row} {count : Option Nat} (h : s.script.faults = {})
    (hq : q.readsRows)
    (hresult : (run q.sql q.parameters q.readsRows s).1.result = .ok (rows, count)) :
  ∃ found, s.script.next.result = .ok found ∧ found.1 = rows
  := by
  rw [run, Operation.exchange, Cursor.run_eq s.reading q h, Turn.result, hq] at hresult
  dsimp only at hresult
  cases hnext : s.script.next.result with
  | error f =>
    rw [hnext] at hresult
    cases hresult
  | ok found =>
    rw [hnext] at hresult
    use found, rfl
    injection Except.ok.inj hresult

theorem rows_fetchAll {statement : Statement} {types : List ColumnType} {rows : List Row}
    (h : s.script.faults = {}) (hresult : (fetchAll statement types s).1.result = .ok rows) :
  ∃ q found, (Request.fetchAll statement types).query? = some q
    ∧ s.script.next.result = .ok found ∧ (Value.decodeRows types found.1).result = .ok rows
  := by
  rw [fetchAll, Operation.bind_report] at hresult
  obtain ⟨query, hquery, hrun⟩ := Report.bind_eq_ok hresult
  rw [(Operation.steady_compile statement).report] at hquery
  rw [Operation.bind_report] at hrun
  obtain ⟨⟨raw, count⟩, hraw, hdecoded⟩ := Report.bind_eq_ok hrun
  obtain ⟨found, hfound, rfl⟩ := rows_run (q := ⟨query.sql, query.parameters, true⟩) h rfl hraw
  use ⟨query.sql, query.parameters, true⟩, found
  constructor
  · rw [Request.query?, hquery]
    rfl
  constructor
  · apply hfound
  · apply hdecoded

/-- The rows that a fetching request is answered with are read from the outcome of its turn. -/
theorem rows_ask {statement : Statement} {types : List ColumnType} {rows : List Row}
    (h : s.script.faults = {})
    (hresult : (s.ask (.fetchAll statement types)).1.report.result = .ok (.rows rows)) :
  ∃ q found, (Request.fetchAll statement types).query? = some q
    ∧ s.script.next.result = .ok found ∧ (Value.decodeRows types found.1).result = .ok rows
  := by
  change ((Request.fetchAll statement types).operation s).1.result = _ at hresult
  rw [Request.operation, Operation.bind_report] at hresult
  obtain ⟨answer, hfetch, hrows⟩ := Report.bind_eq_ok hresult
  injection Except.ok.inj hrows with hrows
  rw [hrows] at hfetch
  apply rows_fetchAll h hfetch

theorem reading_ask (r : Request) (h : s.script.faults = {}) :
  (s.ask r).2.reading = s.reading
  := r.inTurn_operation.reading h

theorem script_ask (r : Request) (h : s.script.faults = {}) :
  (s.ask r).2.script
    = s.script.after (r.calls s.reading (s.script.turn? r.query?)) (s.script.turn? r.query?)
  := r.inTurn_operation.script h

theorem faults_ask (r : Request) (h : s.script.faults = {}) :
  (s.ask r).2.script.faults = {}
  := by
  rw [script_ask r h, Script.faults_after, h]

/-- What requests that are made one after the other do to the script. -/
theorem script_askAll (requests : List Request) (h : s.script.faults = {}) :
  (s.askAll requests).2.script =
    let turns := Request.turns (.rows s.script.defaultRows) requests s.script.outcomes
    { s.script with
      outcomes := s.script.outcomes.drop turns.reduceOption.length
      calls := s.script.calls ++ (List.zipWith (Request.calls s.reading) turns requests).flatten
      parameters := s.script.parameters ++ turns.reduceOption.map (·.query.parameters) }
  := by
  induction requests generalizing s with
  | nil => simp [askAll, Request.turns]
  | cons r rest ih =>
    change ((s.ask r).2.askAll rest).2.script = _
    -- The first request takes one outcome or none, and the turns of the rest start from there.
    rw [ih (faults_ask r h), reading_ask r h, script_ask r h, Request.turns, Script.turn?]
    cases r.query? with
    | none => simp [Script.after]
    | some q => simp [Script.after, Script.next]

/-- A session that can learn nothing but the version of the server and the outcome of a turn, if
there is one. -/
def alone (turn? : Option Turn) (s : Session) : Session where
  reading := s.reading
  script := { outcomes := turn?.toList.map Turn.outcome, version := s.script.version }

theorem horizon_alone (query? : Option Query) :
  (s.alone (s.script.turn? query?)).horizon query? = s.horizon query?
  := by
  cases query? <;> rfl

/-- The reply to a request is the one that it would have alone. -/
theorem reply_ask (r : Request) (h : s.script.faults = {}) :
  (s.ask r).1 = ((s.alone (s.script.turn? r.query?)).ask r).1
  := by
  have hreport := r.inTurn_operation.report h rfl (horizon_alone r.query?).symm
  change Reply.mk (r.operation s).1 _ = Reply.mk (r.operation (s.alone _)).1 _
  rw [hreport]
  rfl

theorem reply_askAll (requests : List Request) (h : s.script.faults = {}) :
  (s.askAll requests).1 = List.zipWith (fun turn? r => ((s.alone turn?).ask r).1)
    (Request.turns (.rows s.script.defaultRows) requests s.script.outcomes) requests
  := by
  induction requests generalizing s with
  | nil => rfl
  | cons r rest ih =>
    -- A request leaves all as it is that a later one alone would learn, but for its outcome.
    have halone : ∀ turn?, (s.ask r).2.alone turn? = s.alone turn? := by
      intro turn?
      rw [alone, reading_ask r h, script_ask r h, Script.version_after, alone]
    change (s.ask r).1 :: ((s.ask r).2.askAll rest).1 = _
    rw [ih (faults_ask r h), reply_ask r h, script_ask r h, Request.turns, Script.turn?]
    simp only [halone]
    cases r.query? with
    | none => rfl
    | some q => rfl

/-- The rows that requests are answered with are read each from the outcome of its own turn. -/
theorem rows_askAll {requests : List Request} (h : s.script.faults = {}) {i : Nat}
    {statement : Statement} {types : List ColumnType} {reply : Reply} {rows : List Row}
    (hrequest : requests[i]? = some (.fetchAll statement types))
    (hreply : (s.askAll requests).1[i]? = some reply)
    (hrows : reply.report.result = .ok (.rows rows)) :
  ∃ t found, (Request.turns (.rows s.script.defaultRows) requests s.script.outcomes)[i]?
      = some (some t)
    ∧ t.outcome.result = .ok found ∧ (Value.decodeRows types found.1).result = .ok rows
  := by
  induction requests generalizing s i with
  | nil => cases hrequest
  | cons r rest ih =>
    change ((s.ask r).1 :: ((s.ask r).2.askAll rest).1)[i]? = _ at hreply
    cases i with
    | zero =>
      obtain rfl := Option.some.inj hrequest
      obtain rfl := Option.some.inj hreply
      obtain ⟨q, found, hquery, hfound, hdecoded⟩ := rows_ask h hrows
      use ⟨q, s.script.next⟩, found
      rw [Request.turns, hquery]
      use rfl, hfound, hdecoded
    | succ i =>
      obtain ⟨t, found, hturn, hfound⟩ := ih (faults_ask r h) hrequest hreply
      use t, found
      rw [script_ask r h, Script.turn?] at hturn
      rw [Request.turns]
      cases hquery : r.query? with
      | none =>
        rw [hquery] at hturn
        exact ⟨hturn, hfound⟩
      | some q =>
        rw [hquery] at hturn
        exact ⟨hturn, hfound⟩

/-- The requests are served in these turns, of which a request has one when it sends a query. -/
structure Serves (s : Session) (requests : List Request) (turns : List (Option Turn)) : Prop where
  /-- The queries of the turns are those of the requests. -/
  queries : turns.map (Option.map Turn.query) = requests.map Request.query?
  /-- A turn takes the outcome of its number, or the default rows when there is none. -/
  outcomes : ∀ i t, turns.reduceOption[i]? = some t →
    t.outcome = s.script.outcomes.getD i (.rows s.script.defaultRows)
  /-- The calls are those of the requests one after the other, each turn leaves its parameters, and
  nothing else changes but that the outcomes of the turns are gone. -/
  script : (s.askAll requests).2.script = { s.script with
    outcomes := s.script.outcomes.drop turns.reduceOption.length
    calls := s.script.calls ++ (List.zipWith (Request.calls s.reading) turns requests).flatten
    parameters := s.script.parameters ++ turns.reduceOption.map (·.query.parameters) }
  /-- The queries are run in their order, each once. -/
  executed : (List.zipWith (Request.calls s.reading) turns requests).flatten.filterMap Call.sql?
    = turns.reduceOption.map (·.query.sql)
  /-- The calls of a request are a complete stretch, if there are any. -/
  complete : ∀ turn? r, (turn?, r) ∈ turns.zip requests →
    r.calls s.reading turn? = [] ∨ Call.Complete (r.calls s.reading turn?)
  /-- A request that sends a query makes the calls of its turn. -/
  sending : ∀ t r, (some t, r) ∈ turns.zip requests →
    r.calls s.reading (some t) = t.calls s.reading
  /-- A statement that cannot be compiled makes no calls. -/
  silent : ∀ turn? r, (turn?, r) ∈ turns.zip requests → r.runsStatement → r.query? = none →
    r.calls s.reading turn? = []
  /-- Rows are asked for only when a query of which they are read has succeeded. -/
  fetching : ∀ turn? r, (turn?, r) ∈ turns.zip requests → .fetch ∈ r.calls s.reading turn? →
    ∃ t, turn? = some t ∧ t.query.readsRows = true ∧ ∃ found, t.outcome.result = .ok found
  /-- Every reply is the one to the request alone, with no outcome but that of its turn. -/
  replies : (s.askAll requests).1
    = List.zipWith (fun turn? r => ((s.alone turn?).ask r).1) turns requests
  /-- The rows of a reply are read from the outcome of its turn. -/
  rows : ∀ (i : Nat) (statement : Statement) (types : List ColumnType) (reply : Reply)
    (rows : List Row), requests[i]? = some (.fetchAll statement types) →
    (s.askAll requests).1[i]? = some reply → reply.report.result = .ok (.rows rows) →
    ∃ t found, turns[i]? = some (some t) ∧ t.outcome.result = .ok found
      ∧ (Value.decodeRows types found.1).result = .ok rows

/-- A connection without faults serves all requests in turns, in either way of reading rows: no
cursor stays open, and every query has an outcome of its own. -/
theorem askAll_in_turns (requests : List Request) (h : s.script.faults = {}) :
  ∃ turns, s.Serves requests turns
  := by
  use Request.turns (.rows s.script.defaultRows) requests s.script.outcomes
  have hqueries := Request.query_turns (.rows s.script.defaultRows) requests s.script.outcomes
  constructor
  case queries => apply hqueries
  case outcomes =>
    intro i t ht
    apply Request.outcome_turns ht
  case script => apply script_askAll requests h
  case executed => apply Request.sql_turns
  case complete =>
    intro turn? r _
    apply r.complete_calls
  case sending =>
    intro t r hmem
    apply Request.calls_of_query_some
    apply eq_of_mem_zip hqueries hmem
  case silent =>
    intro turn? r hmem hr hquery
    have hturn := eq_of_mem_zip hqueries hmem
    rw [hquery, Option.map_eq_none_iff] at hturn
    rw [hturn]
    apply Request.calls_of_query_none s.reading hr
  case fetching =>
    intro turn? r _ hfetch
    apply Request.fetch_mem_calls hfetch
  case replies => apply reply_askAll requests h
  case rows =>
    intro i statement types reply rows hrequest hreply hrows
    apply rows_askAll h hrequest hreply hrows

/-- A ping, a statement that cannot be compiled, the asking for the version, and two lookups, for
which one outcome is left. -/
theorem askAll_in_turns_lookups :
  let s : Session := { reading := .blocking, script := { outcomes := [.affected 0, .rows []] } }
  let broken : Request := .execute (.createTable { table := { name := "orders" }, columns := [] })
  s.script.faults = {}
    ∧ broken.query? = none
    ∧ ∃ turns, s.Serves
      [.ping, broken, .learnVersion, .hasTable "orders", .hasSequence "numbers"] turns
  := by
  intro s broken
  use rfl
  constructor
  · decide +kernel
  · apply askAll_in_turns _ rfl

end Session

end SqlDialect
