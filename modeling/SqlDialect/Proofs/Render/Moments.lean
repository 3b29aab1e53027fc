import SqlDialect.Proofs.Render.Acceptance
import SqlDialect.Proofs.Render.Exchange

/-!
# Moments in renderings

A moment without a timestamp in UTC leaves a place in a rendering where nothing was written.
There is no such place in what is written of a statement whose values all have literals,
whether or not the writing stopped on the way, and so the statement either compiles or fails
with a failure that is logged.
-/

namespace SqlDialect

/-- The value of the leaf, if there is one, has a literal. -/
def Operand.Dated (leaf : Operand) : Prop :=
  ∀ value, leaf = .inline value ∨ leaf = .bound value → value.HasLiteral

/-- The values in the expression have literals. -/
def Expr.Dated (e : Expr) : Prop := ∀ leaf ∈ e.operands, leaf.Dated

/-- The values in the statement have literals. -/
def Statement.Dated (s : Statement) : Prop := ∀ leaf ∈ s.operands, leaf.Dated

/-- Every moment in the rendering was written. -/
def Piece.Dated (ps : List Piece) : Prop := ∀ p ∈ ps, p.moment? = none

/-- Every moment was written, as far as the attempt went. -/
def Attempt.Dated (a : Attempt) : Prop := Piece.Dated a.written

/-! ## Renderings -/

/-- In what is composed of expressions no moment is lost when none is in these. -/
theorem Composed.dated {style : Style} {places : List (Scope × Expr)} {ps : List Piece}
    (h : Composed style places ps) (hplaces : ∀ place ∈ places, place.2.Dated) :
  Piece.Dated ps
  := by
  rw [Piece.Dated, (Woven.of_exprs h).find_eq_none_iff (fun _ => rfl) (fun _ => rfl)]
  intro leaf hleaf
  obtain ⟨place, hplace, hmem⟩ := List.mem_flatMap.mp hleaf
  apply Operand.moment?_pieces style leaf.1
  apply hplaces place hplace leaf.2 (Expr.mem_operands_of_mem_leaves hmem)

/-- In a clause no moment is lost when none is in its expressions. -/
theorem ComposedClause.dated {style : Style} {places : List (Scope × Expr)} {ps : List Piece}
    (h : ComposedClause style places ps) (hplaces : ∀ place ∈ places, place.2.Dated) :
  Piece.Dated ps
  := (Composed.names_append_clause Composed.nil h).dated hplaces

/-- Of an expression whose moments have timestamps no moment is lost. -/
theorem Expr.Dated.pieces {e : Expr} (h : e.Dated) (style : Style) (scope : Scope) :
  Piece.Dated (e.pieces style scope)
  := (Composed.expr scope e).dated (List.forall_mem_singleton.mpr h)

namespace Attempt.Dated

variable {a b : Attempt} {ps : List Piece}

/-- What is written as a whole loses the moments that its pieces lose. -/
theorem ok (h : Piece.Dated ps) :
  Attempt.Dated (.ok ps)
  := h

/-- An attempt that fails at once loses nothing. -/
theorem fail (fault : CompileFault) :
  Attempt.Dated (.fail fault)
  := by simp [Attempt.Dated, Piece.Dated, Attempt.fail]

/-- A text by itself loses nothing. -/
theorem plain (text : String) :
  Attempt.Dated (.ok [.plain text])
  := by simp [Attempt.Dated, Piece.Dated, Attempt.ok, Piece.moment?]

/-- To write nothing loses nothing. -/
theorem nothing :
  Attempt.Dated (.ok [])
  := by simp [Attempt.Dated, Piece.Dated, Attempt.ok]

/-- Attempts one after the other lose nothing when neither does. -/
theorem append (h : a.Dated) (h' : b.Dated) :
  (a ++ b).Dated
  := by
  obtain ⟨written, failure⟩ := a
  cases failure with
  | none => exact List.forall_mem_append.mpr ⟨h, h'⟩
  | some f => exact h

/-- A check loses nothing. -/
theorem checked {fault : Option CompileFault} (h : a.Dated) :
  (Attempt.checked fault a).Dated
  := by
  cases fault with
  | none => exact h
  | some fault => exact fail fault

/-- Attempts in a row lose nothing when none of them does. -/
theorem separated {α : Type} {separator : String} {f : α → Attempt} (items : List α)
    (h : ∀ x ∈ items, (f x).Dated) :
  (Attempt.separated separator (items.map f)).Dated
  := by
  induction items with
  | nil => apply nothing
  | cons x rest ih =>
    obtain ⟨hx, hrest⟩ := List.forall_mem_cons.mp h
    cases rest with
    | nil => exact hx
    | cons y rest =>
      apply append _ (ih hrest)
      apply append hx
      split
      · apply nothing
      · apply plain

/-- What is written as a whole or not at all only has to be looked at as a whole. -/
theorem of_whole {fault : Option CompileFault} (h : Attempt.checked fault (.ok ps) = .ok ps →
    Piece.Dated ps) :
  (Attempt.checked fault (.ok ps)).Dated
  := by
  cases fault with
  | none => exact h rfl
  | some fault => exact fail fault

/-- An attempt that writes every moment ends in a query or in a failure that is logged. -/
theorem compiled (h : a.Dated) :
  (∃ query, a.compiled = .ok query) ∨ ∃ f, a.compiled = .fail f
  := by
  rw [Attempt.compiled, Piece.momentOf?, List.findSome?_eq_none_iff.mpr h]
  cases a.failure.or (Piece.failureOf? a.written) with
  | none => exact .inl ⟨_, rfl⟩
  | some f => exact .inr ⟨f, rfl⟩

end Attempt.Dated

/-! ## Limits -/

section Limits

variable {style : Style} {scope : Scope}

/-- A row count loses nothing when its expression does not, whether or not the writing stops. -/
theorem Expr.Dated.countAttempt {e : Expr} (h : e.Dated) (clause : String) :
  (e.countAttempt style scope clause).Dated
  := by
  apply Attempt.Dated.checked
  apply Attempt.Dated.append (.ok (h.pieces style scope))
  apply Attempt.Dated.checked
  apply Attempt.Dated.nothing

/-- A clause with a row count loses nothing when its count does not. -/
theorem Expr.dated_clauseAttempt {count : Option Expr} (h : ∀ e ∈ count, e.Dated)
    (start clause finish : String) :
  (clauseAttempt style scope start clause finish count).Dated
  := by
  cases count with
  | none => apply Attempt.Dated.nothing
  | some e =>
    apply Attempt.Dated.append _ (.plain finish)
    apply Attempt.Dated.append (.plain start)
    apply (h e rfl).countAttempt

/-- The OFFSET clause loses nothing when its count does not. -/
theorem dated_offsetAttempt {offset : Option Expr} (h : ∀ e ∈ offset, e.Dated) (start : String)
    (needed : Bool) :
  (offsetAttempt style scope start needed offset).Dated
  := by
  cases offset with
  | none =>
    rw [offsetAttempt]
    split
    · apply Attempt.Dated.plain
    · apply Attempt.Dated.nothing
  | some e => apply Expr.dated_clauseAttempt h

/-- The limits on the rows of a query lose nothing when their counts do not. -/
theorem SelectQuery.dated_paginationAttempt {q : SelectQuery} (hlimit : ∀ e ∈ q.limit, e.Dated)
    (hoffset : ∀ e ∈ q.offset, e.Dated) (hfetch : ∀ e ∈ q.fetch.map (·.count), e.Dated) :
  (q.paginationAttempt style scope).Dated
  := by
  rw [paginationAttempt]
  split
  · apply Attempt.Dated.fail
  · cases style with
    | standard needed =>
      apply Attempt.Dated.append (dated_offsetAttempt hoffset _ _)
      apply Expr.dated_clauseAttempt hfetch
    | openEdge =>
      apply Attempt.Dated.checked
      apply Attempt.Dated.append (dated_offsetAttempt hoffset _ _)
      apply Expr.dated_clauseAttempt hfetch
  · apply Attempt.Dated.nothing
  · cases style with
    | standard needed =>
      apply Attempt.Dated.append (Expr.dated_clauseAttempt hlimit _ _ _)
      apply Expr.dated_clauseAttempt hoffset
    | openEdge =>
      apply Attempt.Dated.append (dated_offsetAttempt hoffset _ _)
      apply Expr.dated_clauseAttempt hlimit

end Limits

/-! ## Statements -/

section Statements

variable {style : Style} {scope : Scope}

/-- Expressions keep their moments wherever they are placed. -/
theorem Expr.dated_placed {es : List Expr} (h : ∀ e ∈ es, e.Dated) :
  ∀ place ∈ placed scope es, place.2.Dated
  := List.forall_mem_map.mpr h

/-- A query loses nothing when its expressions do not. -/
theorem SelectQuery.dated_attempt {q : SelectQuery} (h : ∀ e ∈ q.exprs, e.Dated) :
  (q.attempt style scope).Dated
  := by
  obtain ⟨hcolumns, hcondition, horder, hlimit, hoffset, hfetch⟩ := forall_mem_exprs.mp h
  apply Attempt.Dated.checked
  apply Attempt.Dated.append _ (dated_paginationAttempt hlimit hoffset hfetch)
  apply Attempt.Dated.ok
  apply (q.bodyPieces_composed style scope.qualifying).dated
  rw [List.forall_mem_append, List.forall_mem_append]
  exact ⟨⟨Expr.dated_placed hcolumns, Expr.dated_placed (by simpa using hcondition)⟩,
    Expr.dated_placed (List.forall_mem_map.mpr horder)⟩

/-- The name of a type loses nothing. -/
theorem Style.dated_typeAttempt (style : Style) (type : ColumnType) :
  (style.typeAttempt type).Dated
  := by
  rw [typeAttempt]
  split
  · apply Attempt.Dated.plain
  · apply Attempt.Dated.fail

/-- A column of a table definition loses nothing when its default does not. -/
theorem ColumnDef.dated_attempt {c : ColumnDef} (h : ∀ e ∈ c.default, e.Dated) :
  (c.attempt style scope).Dated
  := by
  have hname : Attempt.Dated (.ok [style.identifier c.name, .plain " "]) :=
    .ok ((Composed.append_phrase (by decide) (Composed.identifier style c.name)).dated (by simp))
  apply Attempt.Dated.append (hname.append (style.dated_typeAttempt c.type))
  apply Attempt.Dated.ok
  apply (c.behindType_composed style scope).dated
  exact Expr.dated_placed (by simpa using h)

/-- No moment is written in a constraint. -/
theorem Constraint.dated_attempt (c : Constraint) :
  (c.attempt style scope).Dated
  := by
  apply Attempt.Dated.checked
  apply Attempt.Dated.append
  · split
    next name _ =>
      apply Attempt.Dated.ok
      apply (Composed.phrase_cons (by decide) (Composed.append_phrase (by decide)
        (Composed.identifier style name))).dated
      simp
    · apply Attempt.Dated.nothing
  · obtain ⟨ps, h⟩ | h := c.kind.attempt_cases style scope c.table c.columns
    · rw [h]
      exact Attempt.Dated.ok ((ConstraintKind.attempt_composed h).dated (by simp))
    · simp [Attempt.Dated, Piece.Dated, h]

/-- The constraints of a table definition lose nothing. -/
theorem TableDef.dated_constraintsAttempt (constraints : List Constraint) :
  (constraintsAttempt style scope constraints).Dated
  := by
  induction constraints with
  | nil => apply Attempt.Dated.nothing
  | cons c rest ih =>
    apply Attempt.Dated.append _ ih
    apply Attempt.Dated.append (.plain ",\n") c.dated_attempt

/-- A table definition loses nothing when the defaults of its columns do not. -/
theorem TableDef.dated_attempt {d : TableDef} (h : ∀ c ∈ d.columns, ∀ e ∈ c.default, e.Dated) :
  (d.attempt style scope).Dated
  := by
  have htable : Attempt.Dated (.ok (.plain "CREATE TABLE "
      :: d.table.pieces style (scope.entering .createTable) ++ [.plain " (\n"])) :=
    .ok ((Composed.append_phrase (by decide) (Composed.phrase_cons (by decide)
      (Composed.tablePieces style _ d.table))).dated (by simp))
  apply Attempt.Dated.checked
  apply Attempt.Dated.append _ (.plain "\n)")
  apply Attempt.Dated.append _ (dated_constraintsAttempt d.constraints)
  apply htable.append
  apply Attempt.Dated.separated
  intro c hc
  apply ColumnDef.dated_attempt (h c hc)

/-- The addition of a constraint loses nothing. -/
theorem Constraint.dated_additionAttempt (c : Constraint) :
  (c.additionAttempt style scope).Dated
  := by
  apply Attempt.Dated.append _ c.dated_attempt
  apply Attempt.Dated.ok
  apply (Composed.append_phrase (by decide) (Composed.phrase_cons (by decide)
    (Composed.tablePieces style _ c.table))).dated
  simp

end Statements

namespace Statement

variable {style : Style} {scope : Scope} {s : Statement}

/-- The expressions of a statement whose moments have timestamps have no other moments. -/
theorem Dated.exprs (h : s.Dated) :
  ∀ e ∈ s.exprs, e.Dated
  := fun _ he leaf hleaf => h leaf (List.mem_flatMap.mpr ⟨_, he, hleaf⟩)

/-- Every moment is written when the values in a statement have literals. -/
theorem Dated.attempt (h : s.Dated) :
  (s.attempt style scope).Dated
  := by
  have hexprs := h.exprs
  rw [← exprs_prepared style] at hexprs
  rw [Statement.attempt]
  cases hs : s.prepared style with
  | select q =>
    rw [hs] at hexprs
    apply SelectQuery.dated_attempt hexprs
  | insert q =>
    rw [hs] at hexprs
    apply Attempt.Dated.of_whole
    intro hps
    apply (InsertQuery.attempt_composed hps).dated
    intro place hplace
    obtain ⟨row, hrow, hplace⟩ := List.mem_flatMap.mp hplace
    apply Expr.dated_placed _ place hplace
    intro e he
    apply hexprs e (List.mem_flatten_of_mem hrow he)
  | update q =>
    rw [hs] at hexprs
    obtain ⟨hvalues, hcondition⟩ := List.forall_mem_append.mp hexprs
    apply Attempt.Dated.of_whole
    intro hps
    apply (UpdateQuery.attempt_composed hps).dated
    exact List.forall_mem_append.mpr ⟨Expr.dated_placed hvalues, Expr.dated_placed hcondition⟩
  | delete q =>
    rw [hs] at hexprs
    have hwhole : ∀ ps, q.attempt style scope = .ok ps → Piece.Dated ps :=
      fun _ hps => (DeleteQuery.attempt_composed hps).dated (Expr.dated_placed hexprs)
    exact Attempt.Dated.ok (hwhole _ rfl)
  | createTable d =>
    rw [hs] at hexprs
    apply TableDef.dated_attempt
    intro c hc e he
    apply hexprs e (List.mem_filterMap.mpr ⟨c, hc, he⟩)
  | dropTable t =>
    apply Attempt.Dated.ok
    apply (Composed.phrase_cons (by decide) (Composed.tablePieces style _ t)).dated
    simp
  | addConstraint c => apply c.dated_additionAttempt

end Statement

end SqlDialect
