import SqlDialect.Proofs.Render.Faults
import SqlDialect.Proofs.Render.Writing

/-!
# Drafting

What writing does to a draft.  An expression adds the same pieces to any two drafts that agree
on the few things that expressions depend on.  A part of a statement adds the pieces of the
attempt at it, also when the writing stops on the way: they stand behind what was there, the
first failure recorded among them is recorded unless one was before, and the part of the
statement and the way of writing values are as they were.  The same holds of steps of writing
that are nested in other parts of a statement in any way, whether or not they stop and whether
or not a failure is caught.
-/

namespace SqlDialect

/-- The scopes agree on what expressions depend on: whether columns are qualified, whether values
are written as literals, and whether renamings are left out. -/
structure Scope.Agrees (a b : Scope) : Prop where
  qualified : a.qualified = b.qualified
  inline : a.inline = b.inline
  ordering : a.clause = .selectOrderBy ↔ b.clause = .selectOrderBy

namespace Scope

variable {a b : Scope}

/-- Scopes that agree still do in another part of the statement. -/
theorem Agrees.entering (h : a.Agrees b) (clause : Clause) :
  (a.entering clause).Agrees (b.entering clause)
  where
  qualified := h.qualified
  inline := h.inline
  ordering := Iff.rfl

/-- The scope in another part of the statement, where values may have to be written as literals. -/
def switched (clause : Clause) (inlining : Bool) (scope : Scope) : Scope :=
  if inlining then (scope.entering clause).inlining else scope.entering clause

/-- The way back from two parts of a statement that were entered one after the other is the way
back from the second. -/
theorem backFrom_trans {c : Scope} (hb : a.backFrom b = b) (hc : b.backFrom c = c) :
  a.backFrom c = c
  := by
  rw [← hc, ← hb]
  rfl

end Scope

/-! ## Expressions -/

/-- A leaf is written alike in scopes that agree. -/
theorem Operand.pieces_congr (style : Style) {a b : Scope} (h : a.Agrees b) (leaf : Operand) :
  leaf.pieces style a = leaf.pieces style b
  := by
  cases leaf with
  | column c =>
    rw [pieces_column, pieces_column, Column.pieces, Column.pieces, h.qualified]
  | bound value => rw [pieces_bound, pieces_bound, h.inline]
  | _ => rfl

/-- Scopes that agree are the same to an expression. -/
theorem Expr.pieces_congr (style : Style) {a b : Scope} (h : a.Agrees b) (e : Expr) :
  e.pieces style a = e.pieces style b
  := by
  induction e using induction generalizing a b with
  | operand leaf => apply leaf.pieces_congr style h
  | unary op argument ih => rw [pieces_unary, pieces_unary, ih h]
  | binary op left right ihl ihr => rw [pieces_binary, pieces_binary, ihl h, ihr h]
  | cast argument target iha iht =>
    rw [pieces_cast, pieces_cast, iha (h.entering .casting), iht (h.entering .casting)]
  | labelled argument label iha ihl =>
    simp only [pieces_labelled, h.ordering, iha h, ihl h]
  | currentTimestamp => rfl
  | currentDate => rfl
  | call name arguments ih =>
    have harguments : arguments.map (pieces style a) = arguments.map (pieces style b) := by
      apply List.map_congr_left
      intro e he
      apply ih e he h
    rw [pieces_call, pieces_call, harguments]
  | nextValue sequence => rw [pieces_nextValue, pieces_nextValue]

/-! ## What is added -/

namespace Writing

/-- The writing adds the attempt to the draft: it ends as the attempt ends, and what the attempt
wrote stands behind the text and the parameters that were there.  The first failure recorded in
it is recorded unless one was before, and so for moments that are lost.  The part of the
statement and the way of writing values are as they were. -/
structure Adds (w : Writing Unit) (d : Draft) (a : Attempt) : Prop where
  outcome : (w.on d).1 = a.outcome
  text : (w.on d).2.text = d.text ++ Piece.textOf a.written
  parameters : (w.on d).2.state.parameters = d.state.parameters ++ Piece.parametersOf a.written
  recorded : (w.on d).2.state.recorded? = d.state.recorded?.or (Piece.failureOf? a.written)
  lost : (w.on d).2.state.lost? = d.state.lost?.or (Piece.momentOf? a.written)
  clause : (w.on d).2.state.scope.clause = d.state.scope.clause
  inline : (w.on d).2.state.scope.inline = d.state.scope.inline

variable {w : Writing Unit} {a : Attempt}

/-- At most the qualifying of columns is another in the scope that is left. -/
theorem Adds.of_on_eq {d : Draft} {after : Scope}
    (h : w.on d = (a.outcome, (d.add a.written).inScope after))
    (hafter : d.state.scope.backFrom after = after) :
  w.Adds d a
  where
  outcome := by rw [h]
  text := by rw [h]; rfl
  parameters := by rw [h]; rfl
  recorded := by rw [h]; rfl
  lost := by rw [h]; rfl
  clause := by rw [h, ← hafter]; rfl
  inline := by rw [h, ← hafter]; rfl

/-- An attempt that is made on every draft in a scope is added to each of them. -/
theorem Makes.adds {d : Draft} (h : w.Makes d.state.scope a) :
  w.Adds d a
  := Adds.of_on_eq (h d rfl) rfl

end Writing

open Writing

/-! ## Parts -/

namespace Part

variable (style : Style) (scope : Scope)

/-- The attempt at a part. -/
def attempt : Part → Attempt
  | text verbatim => .ok [.plain verbatim]
  | value v => .ok (v.pieces style)
  | notFinite x => .ok (x.castPieces style)
  | table t => .ok (t.pieces style scope)
  | column c => .ok (c.pieces style scope)
  | type t => style.typeAttempt t
  | sequence s => .ok (s.namePieces style)
  | expr e => .ok (e.pieces style scope)
  | orderKey key => .ok (key.pieces style scope)
  | count clause e => e.countAttempt style scope clause
  | limit q => q.limitAttempt style scope
  | fetch needsOffset q => q.fetchAttempt style scope needsOffset
  | withoutSource q => .ok (q.withoutSourcePieces style)
  | columnDef c => c.attempt style scope
  | constraint c => c.attempt style scope
  | statement s => s.attempt style scope

/-- The scope behind a part. -/
def scopeAfter : Part → Scope
  | statement s => s.scopeAfter scope
  | _ => scope

/-- Rows are counted in the part. -/
def isCount : Part → Bool
  | count .. | limit .. | fetch .. => true
  | _ => false

/-- The faults of a part, in the order in which they are met.  The faults of a limit are those of a
query without a fetch clause, and the other way round. -/
def faults : Part → List MetFault
  | type t => checkFaults (style.typeFault? t)
  | expr e => leafFaults style (e.leaves scope)
  | orderKey key => leafFaults style (key.expr.leaves scope)
  | count clause e => e.countFaults style scope clause
  | limit q => { q with fetch := none }.paginationFaults style scope
  | fetch _ q => { q with limit := none }.paginationFaults style scope
  | columnDef c => c.faults style scope
  | constraint c => c.faults
  | statement s => s.faults style scope
  | _ => []

/-- Writing a part makes the attempt at it. -/
theorem on_write (p : Part) (d : Draft) :
  (p.write style).on d
    = ((p.attempt style d.state.scope).outcome,
      (d.add (p.attempt style d.state.scope).written).inScope (p.scopeAfter d.state.scope))
  := by
  cases p with
  | text verbatim => exact Makes.plain verbatim d rfl
  | value v => exact v.write_makes style _ d rfl
  | notFinite x => exact x.writeCast_makes style _ d rfl
  | table t => exact t.write_makes style _ d rfl
  | column c => exact c.write_makes style _ d rfl
  | type t => exact style.writeType_makes _ t d rfl
  | sequence s => exact s.write_makes style _ d rfl
  | expr e => exact e.write_makes style _ d rfl
  | orderKey key => exact key.write_makes style _ d rfl
  | count clause e => exact e.writeCount_makes style _ clause d rfl
  | limit q => exact q.writeLimit_makes style _ d rfl
  | fetch needsOffset q => exact q.writeFetch_makes style _ needsOffset d rfl
  | withoutSource q => exact q.writeWithoutSource_makes style _ d rfl
  | columnDef c => exact c.write_makes style _ d rfl
  | constraint c => exact c.write_makes style _ d rfl
  | statement s => exact s.on_write style d

/-- A part leaves at most the qualifying of columns changed. -/
theorem backFrom_scopeAfter (p : Part) :
  scope.backFrom (p.scopeAfter scope) = p.scopeAfter scope
  := by
  cases p with
  | statement s =>
    cases s with
    | select q =>
      change scope.backFrom (if q.columns.isEmpty then scope else scope.qualifying) = _
      split <;>
      · rename_i h
        simp only [scopeAfter, Statement.scopeAfter, h]
        rfl
    | _ => rfl
  | _ => rfl

/-- The writing of a part comes upon its faults in their order.  Rows are never counted in the
ORDER BY clause. -/
theorem attempt_meets (p : Part) (h : p.isCount → scope.clause ≠ .selectOrderBy) :
  (p.attempt style scope).Meets (p.faults style scope)
  := by
  cases p with
  | text verbatim => apply Attempt.Meets.nothing rfl
  | value v =>
    rw [attempt, ← Operand.pieces_inline style scope]
    apply (Woven.leaf scope (.inline v)).meets
  | notFinite x => cases style <;> apply Attempt.Meets.nothing rfl
  | table t => apply (Woven.tablePieces style scope t).meets
  | column c => apply (Woven.columnPieces style scope c).meets
  | type t => apply Style.typeAttempt_meets
  | sequence s =>
    apply Attempt.Meets.nothing
    rw [Sequence.namePieces.eq_def, Style.filterMap_failure?_qualifiedBy,
      Style.filterMap_failure?_identifier, List.filterMap_nil]
  | expr e => apply (e.woven style scope).meets
  | orderKey key =>
    apply Attempt.Meets.before _ (key.expr.woven style scope).meets
    cases key.direction <;> rfl
  | count clause e => apply e.countAttempt_meets (h rfl)
  | limit q => apply q.limitAttempt_meets (h rfl)
  | fetch needsOffset q => apply SelectQuery.fetchAttempt_meets (h rfl)
  | withoutSource q =>
    apply Attempt.Meets.nothing
    rw [SelectQuery.withoutSourcePieces.eq_def]
    split
    · rfl
    · split <;> rfl
  | columnDef c => apply c.attempt_meets
  | constraint c => apply c.attempt_meets
  | statement s => apply s.attempt_meets

end Part

/-! ## Steps -/

/-- A step of writing: a part, a failure to record, steps in another part of the statement where
values may have to be written as literals, or steps whose failure is caught. -/
inductive Step
  | part (p : Part)
  | record (failure : Failure)
  | within (clause : Clause) (inlining : Bool) (steps : List Step)
  | tried (steps : List Step)

namespace Step

variable (style : Style)

mutual

/-- What is written in a step. -/
def write : Step → Writing Unit
  | part p => p.write style
  | record failure => Writing.record failure
  | within clause inlining steps =>
    if inlining then literally clause (writeAll steps) else switching clause (writeAll steps)
  | tried steps => try writeAll steps catch _ => pure ()

/-- What is written in steps one after the other, until one of them stops. -/
def writeAll : List Step → Writing Unit
  | [] => pure ()
  | step :: rest => do
    write step
    writeAll rest

end

mutual

/-- The attempt that a step makes, and the scope behind it. -/
def attempt (scope : Scope) : Step → Attempt × Scope
  | part p => (p.attempt style scope, p.scopeAfter scope)
  | record failure => (.ok [.fault failure], scope)
  | within clause inlining steps =>
    let (a, inner) := attemptAll (scope.switched clause inlining) steps
    (a, scope.backFrom inner)
  | tried steps =>
    let (a, after) := attemptAll scope steps
    (.ok a.written, after)

/-- The attempt that steps make one after the other, and the scope behind the last one that is
come to. -/
def attemptAll (scope : Scope) : List Step → Attempt × Scope
  | [] => (.ok [], scope)
  | step :: rest =>
    match attempt scope step with
    | (⟨written, none⟩, after) =>
      let (a, last) := attemptAll after rest
      (.ok written ++ a, last)
    | (⟨written, some failure⟩, after) => (⟨written, some failure⟩, after)

end

/-- The part of the statement that was left is entered again behind the steps, however they end. -/
theorem on_within (clause : Clause) (inlining : Bool) (steps : List Step) (d : Draft) :
  (write style (within clause inlining steps)).on d
    = let (outcome, after) :=
        (writeAll style steps).on (d.inScope (d.state.scope.switched clause inlining))
      (outcome, after.inScope (d.state.scope.backFrom after.state.scope))
  := by
  rw [write]
  cases inlining with
  | false => apply on_switching
  | true =>
    rw [if_pos rfl, literally, on_switching, on_bind, inlineValues, on_note]
    rfl

mutual

/-- A step makes its attempt on any draft. -/
theorem on_write (d : Draft) : (step : Step) →
  (write style step).on d
    = ((attempt style d.state.scope step).1.outcome,
      (d.add (attempt style d.state.scope step).1.written).inScope
        (attempt style d.state.scope step).2)
  | part p => p.on_write style d
  | record failure => Makes.record failure d rfl
  | within clause inlining steps => by
    rw [on_within, on_writeAll]
    rfl
  | tried steps => by
    rw [write, attempt, on_tryCatch, on_writeAll, Attempt.outcome]
    cases (attemptAll style d.state.scope steps).1.failure <;> rfl

/-- Steps make their attempt on any draft. -/
theorem on_writeAll (d : Draft) : (steps : List Step) →
  (writeAll style steps).on d
    = ((attemptAll style d.state.scope steps).1.outcome,
      (d.add (attemptAll style d.state.scope steps).1.written).inScope
        (attemptAll style d.state.scope steps).2)
  | [] => Makes.nothing d rfl
  | step :: rest => by
    rw [writeAll, attemptAll, on_bind, on_write d step]
    obtain ⟨⟨written, _ | failure⟩, after⟩ := attempt style d.state.scope step
    · have hrest := on_writeAll ((d.add written).inScope after) rest
      change (writeAll style rest).on ((d.add written).inScope after)
        = (_, (d.add (written ++ _)).inScope _)
      rw [hrest, d.add_append]
      rfl
    · rfl

end

mutual

/-- A step leaves at most the qualifying of columns changed. -/
theorem backFrom_attempt (scope : Scope) : (step : Step) →
  scope.backFrom (attempt style scope step).2 = (attempt style scope step).2
  | part p => p.backFrom_scopeAfter scope
  | record _ => rfl
  | within .. => rfl
  | tried steps => backFrom_attemptAll scope steps

/-- Steps leave at most the qualifying of columns changed. -/
theorem backFrom_attemptAll (scope : Scope) : (steps : List Step) →
  scope.backFrom (attemptAll style scope steps).2 = (attemptAll style scope steps).2
  | [] => rfl
  | step :: rest => by
    have hstep := backFrom_attempt scope step
    rw [attemptAll]
    generalize attempt style scope step = made at hstep
    obtain ⟨⟨written, _ | failure⟩, after⟩ := made
    · apply Scope.backFrom_trans hstep (backFrom_attemptAll after rest)
    · apply hstep

end

end Step

/-! ## Drafts -/

namespace Draft

/-- What comes of a blank draft that an attempt was made on is what comes of the attempt. -/
theorem compiled_add (a : Attempt) (scope : Scope) :
  compiled (a.outcome, (blank.add a.written).inScope scope) = a.compiled
  := by
  obtain ⟨written, failure⟩ := a
  have hblank : (blank.add written).inScope scope = ⟨Piece.textOf written,
      ⟨scope, Piece.parametersOf written, Piece.failureOf? written, Piece.momentOf? written⟩⟩ := by
    simp [inScope, add, blank]
  dsimp only
  rw [hblank, Attempt.compiled, compiled.eq_def]
  dsimp only
  generalize Piece.momentOf? written = lost?
  generalize Piece.failureOf? written = recorded?
  cases lost? <;> cases failure <;> cases recorded? <;> rfl

/-- A compilation is what comes of writing the statement on a blank draft. -/
theorem compile_eq_compiled (style : Style) (s : Statement) :
  style.compile s = compiled ((s.write style).on .blank)
  := by
  rw [s.on_write, compiled_add]
  rfl

/-- Drafting is compositional and leaves the scope clean.  An expression adds the same pieces to any
two drafts whose scopes agree on what expressions depend on, and meets the types without a name
among its leaves in their order.  A part adds the pieces of the attempt at it and meets its faults
in their order, a statement that fails among them.  So do steps, however they are nested in
other parts of the statement.  A compilation is what comes of a statement written on a blank
draft. -/
theorem drafting_compositional (style : Style) :
  (∀ (e : Expr) (d d' : Draft), d.state.scope.Agrees d'.state.scope →
    (Attempt.ok (e.pieces style d.state.scope)).Meets (leafFaults style (e.leaves d.state.scope))
      ∧ (e.write style).Adds d (.ok (e.pieces style d.state.scope))
      ∧ (e.write style).Adds d' (.ok (e.pieces style d.state.scope)))
  ∧ (∀ (p : Part) (d : Draft),
    (p.write style).Adds d (p.attempt style d.state.scope)
      ∧ ((p.isCount → d.state.scope.clause ≠ .selectOrderBy) →
        (p.attempt style d.state.scope).Meets (p.faults style d.state.scope)))
  ∧ (∀ (steps : List Step) (d : Draft),
    (Step.writeAll style steps).Adds d (Step.attemptAll style d.state.scope steps).1)
  ∧ ∀ s : Statement, style.compile s = compiled ((s.write style).on .blank)
  := by
  refine ⟨?_, ?_, ?_, compile_eq_compiled style⟩
  · intro e d d' h
    use (e.woven style d.state.scope).meets, Makes.adds (e.write_makes style d.state.scope)
    rw [e.pieces_congr style h]
    apply Makes.adds (e.write_makes style d'.state.scope)
  · intro p d
    use Adds.of_on_eq (p.on_write style d) (p.backFrom_scopeAfter d.state.scope)
    apply p.attempt_meets
  · intro steps d
    apply Adds.of_on_eq (Step.on_writeAll style d steps)
    apply Step.backFrom_attemptAll

/-- A value converted to a text of any length, under an alias. -/
def convertedNote : Expr :=
  .labelled (.cast (.operand (.bound (.varchar (some "note")))) (.operand (.type (.varchar none))))
    (.operand (.raw "n"))

/-- An update as far as its first assignment. -/
def begunUpdate : Draft :=
  ⟨"UPDATE rolls SET note = ", { scope := { clause := .updateSet } }⟩

/-- An insertion as far as its second value. -/
def begunInsertion : Draft :=
  ⟨"INSERT INTO rolls (n, note) VALUES\n(?, ",
    { scope := { clause := .insertValues }, parameters := [.null] }⟩

/-- A type without a name is recorded wherever the conversion to it stands, and a negative count is
met in a part by itself. -/
theorem drafting_compositional_convertedNote :
  begunUpdate.state.scope.Agrees begunInsertion.state.scope
    ∧ ((convertedNote.write .openEdge).on begunUpdate).2.text
      = "UPDATE rolls SET note = (CAST(? AS )) AS n"
    ∧ ((convertedNote.write .openEdge).on begunInsertion).2.text
      = "INSERT INTO rolls (n, note) VALUES\n(?, (CAST(? AS )) AS n"
    ∧ ((convertedNote.write .openEdge).on begunInsertion).2.state.recorded?
      = some (.ofFault .varcharWithoutLength)
    ∧ ((Part.count "LIMIT" (.operand (.int (-1)))).attempt .openEdge {}).Meets
      [⟨.negativeCount "LIMIT", true⟩]
  := by
  have hagrees : begunUpdate.state.scope.Agrees begunInsertion.state.scope := ⟨rfl, rfl, by decide⟩
  obtain ⟨hexpr, hpart, -, -⟩ := drafting_compositional .openEdge
  obtain ⟨-, hupdate, hinsertion⟩ := hexpr convertedNote begunUpdate begunInsertion hagrees
  obtain ⟨-, hcount⟩ := hpart (.count "LIMIT" (.operand (.int (-1)))) blank
  refine ⟨hagrees, ?_, ?_, ?_, hcount fun _ => by decide⟩
  · rw [hupdate.text]
    decide +kernel
  · rw [hinsertion.text]
    decide +kernel
  · rw [hinsertion.recorded]
    decide +kernel

end Draft

end SqlDialect
