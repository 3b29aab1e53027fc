import SqlDialect.Proofs.Render.Exchange

/-!
# Replacing expressions in statements

When every expression of a statement is replaced by one whose rendering is the same up to an
exchange of parts, which is refused as a row count for the same reason, and which is
the next value of a sequence if the first is one, then the attempts at both statements write
the same up to the exchange and stop at the same failure.
-/

namespace SqlDialect

variable {style : Style} {part : List Piece → List Piece → Prop} {f : Expr → Expr}

/-- The expressions are the same up to the exchange, in every scope and in the eyes of the
statements around them. -/
structure Expr.Replaced (style : Style) (part : List Piece → List Piece → Prop) (e e' : Expr) :
    Prop where
  pieces : ∀ scope, Exchanged part (e.pieces style scope) (e'.pieces style scope)
  countFault : ∀ clause, e'.countFault? clause = e.countFault? clause
  isNextValue : e'.isNextValue = e.isNextValue

/-! ## Expressions -/

/-- Replacing the leaves of an expression replaces the expression. -/
theorem Expr.pieces_mapOperands (hpart : Exchangeable part) {f : Operand → Operand}
    (hf : ∀ leaf, (operand (f leaf)).precedence = (operand leaf).precedence) (e : Expr)
    (h : ∀ leaf ∈ e.operands, ∀ scope,
      Exchanged part (leaf.pieces style scope) ((f leaf).pieces style scope)) (scope : Scope) :
  Exchanged part (e.pieces style scope) ((e.mapOperands f).pieces style scope)
  := by
  have hprecedence : ∀ e : Expr, (e.mapOperands f).precedence = e.precedence := by
    intro e
    cases e with
    | operand leaf => apply hf
    | _ => rfl
  induction e using Expr.induction generalizing scope with
  | operand leaf => apply h leaf (List.mem_singleton_self _)
  | unary op argument ih =>
    rw [mapOperands, pieces_unary, pieces_unary, hprecedence]
    apply Exchanged.cons rfl (ih h scope).enclosed
  | binary op left right ihl ihr =>
    obtain ⟨hl, hr⟩ := List.forall_mem_append.mp h
    rw [mapOperands, pieces_binary, pieces_binary, hprecedence, hprecedence]
    apply Exchanged.append (ihl hl scope).enclosed
    apply Exchanged.cons rfl (ihr hr scope).enclosed
  | cast argument target iha iht =>
    obtain ⟨ha, ht⟩ := List.forall_mem_append.mp h
    rw [mapOperands, pieces_cast, pieces_cast, Piece.cast, Piece.cast]
    apply Exchanged.append_plain
    apply Exchanged.append (Exchanged.cons rfl (iha ha _))
    apply Exchanged.cons rfl (iht ht _)
  | labelled argument label iha ihl =>
    obtain ⟨ha, hl⟩ := List.forall_mem_append.mp h
    rw [mapOperands, pieces_labelled, pieces_labelled, hprecedence, hprecedence]
    split
    · apply iha ha
    · apply Exchanged.append (iha ha scope).enclosed
      apply Exchanged.cons rfl (ihl hl scope).enclosed
  | currentTimestamp => apply Exchanged.same rfl
  | currentDate => apply Exchanged.same rfl
  | call name arguments ih =>
    obtain ⟨-, harguments⟩ := List.forall_mem_cons.mp h
    rw [operandsOf_eq, List.forall_mem_flatMap] at harguments
    rw [mapOperands, mapOperandsOf_eq, pieces_call, pieces_call, List.map_map]
    apply Exchanged.append_plain
    apply Exchanged.cons rfl
    apply Exchanged.cons rfl
    apply Exchanged.separated hpart
    intro e he
    apply ih e he (harguments e he)
  | nextValue sequence =>
    rw [mapOperands, pieces_nextValue]
    apply Exchanged.refl (Woven.nextValuePieces style sequence).parameter?_eq_none

/-! ## Queries -/

namespace Expr.Replaced

/-- A row count in place of another is checked alike and written with the exchange. -/
theorem countAttempt (hpart : Exchangeable part) {e e' : Expr} (h : Replaced style part e e')
    (scope : Scope) (clause : String) :
  (e.countAttempt style scope clause).Exchanged part (e'.countAttempt style scope clause)
  := by
  have hblank : (Text.trim (Piece.textOf (e.pieces style scope)).toList).isEmpty
      = (Text.trim (Piece.textOf (e'.pieces style scope)).toList).isEmpty := by
    rw [Bool.eq_iff_iff, List.isEmpty_iff, List.isEmpty_iff, Text.trim_eq_nil_iff,
      Text.trim_eq_nil_iff, (h.pieces scope).blank_iff hpart]
  rw [Expr.countAttempt, Expr.countAttempt, h.countFault, hblank]
  apply Attempt.Exchanged.checked
  apply Attempt.Exchanged.append (.ok (h.pieces scope))
  apply Attempt.Exchanged.checked
  apply Attempt.Exchanged.ok .nil

/-- A clause with a row count is written with the exchange in its count. -/
theorem clauseAttempt (hpart : Exchangeable part) {count : Option Expr}
    (h : ∀ e ∈ count, Replaced style part e (f e)) (scope : Scope) (start clause finish : String) :
  (Expr.clauseAttempt style scope start clause finish count).Exchanged part
    (Expr.clauseAttempt style scope start clause finish (count.map f))
  := by
  cases count with
  | none => apply Attempt.Exchanged.ok .nil
  | some e =>
    apply Attempt.Exchanged.append _ (.ok (.same rfl))
    apply Attempt.Exchanged.append (.ok (.same rfl))
    apply countAttempt hpart (h e rfl)

/-- The OFFSET clause is written with the exchange in its count. -/
theorem offsetAttempt (hpart : Exchangeable part) {offset : Option Expr}
    (h : ∀ e ∈ offset, Replaced style part e (f e)) (scope : Scope) (start : String)
    (needed : Bool) :
  (SqlDialect.offsetAttempt style scope start needed offset).Exchanged part
    (SqlDialect.offsetAttempt style scope start needed (offset.map f))
  := by
  cases offset with
  | none =>
    apply Attempt.Exchanged.ok
    cases needed with
    | false => apply Exchanged.nil
    | true => apply Exchanged.same rfl
  | some e => apply clauseAttempt hpart h

/-- The WHERE clause is written with the exchange in its condition. -/
theorem wherePieces {condition : Option Expr} (h : ∀ e ∈ condition, Replaced style part e (f e))
    (scope : Scope) :
  Exchanged part (wherePieces style scope condition) (wherePieces style scope (condition.map f))
  := by
  cases condition with
  | none => apply Exchanged.nil
  | some e => apply Exchanged.cons rfl ((h e rfl).pieces scope)

/-- The clauses for a limit and an offset are written with the exchange in both counts. -/
theorem limitAttempt (hpart : Exchangeable part) {q : SelectQuery}
    (hlimit : ∀ e ∈ q.limit, Replaced style part e (f e))
    (hoffset : ∀ e ∈ q.offset, Replaced style part e (f e)) (scope : Scope) :
  (q.limitAttempt style scope).Exchanged part ((q.mapExprs f).limitAttempt style scope)
  := by
  cases style with
  | standard needed =>
    apply Attempt.Exchanged.append
    · apply clauseAttempt hpart hlimit
    · apply clauseAttempt hpart hoffset
  | openEdge =>
    apply Attempt.Exchanged.append
    · apply offsetAttempt hpart hoffset
    · apply clauseAttempt hpart hlimit

/-- The clauses for a fetch clause and an offset are written with the exchange in both counts. -/
theorem fetchAttempt (hpart : Exchangeable part) {q : SelectQuery}
    (hoffset : ∀ e ∈ q.offset, Replaced style part e (f e))
    (hfetch : ∀ e ∈ q.fetch.map (·.count), Replaced style part e (f e)) (scope : Scope)
    (needed : Bool) :
  (q.fetchAttempt style scope needed).Exchanged part
      ((q.mapExprs f).fetchAttempt style scope needed)
  := by
  have hcount : (q.mapExprs f).fetch.map (·.count) = (q.fetch.map (·.count)).map f := by
    simp [SelectQuery.mapExprs, Function.comp_def]
  have hend : (q.mapExprs f).fetch.map SelectQuery.fetchEnd = q.fetch.map SelectQuery.fetchEnd := by
    rw [SelectQuery.mapExprs]
    cases q.fetch <;> rfl
  have hfault : SelectQuery.fetchFault? (q.mapExprs f).fetch
      = SelectQuery.fetchFault? q.fetch := by
    rw [SelectQuery.mapExprs]
    cases q.fetch <;> rfl
  cases style with
  | standard needed =>
    simp only [SelectQuery.fetchAttempt, hcount, hend]
    apply Attempt.Exchanged.append
    · apply offsetAttempt hpart hoffset
    · apply clauseAttempt hpart hfetch
  | openEdge =>
    simp only [SelectQuery.fetchAttempt, hcount, hfault]
    apply Attempt.Exchanged.checked
    apply Attempt.Exchanged.append
    · apply offsetAttempt hpart hoffset
    · apply clauseAttempt hpart hfetch

/-- The limits on the rows of a query are written with the exchange in their counts. -/
theorem paginationAttempt (hpart : Exchangeable part) {q : SelectQuery}
    (hlimit : ∀ e ∈ q.limit, Replaced style part e (f e))
    (hoffset : ∀ e ∈ q.offset, Replaced style part e (f e))
    (hfetch : ∀ e ∈ q.fetch.map (·.count), Replaced style part e (f e)) (scope : Scope) :
  (q.paginationAttempt style scope).Exchanged part ((q.mapExprs f).paginationAttempt style scope)
  := by
  have hlimits := limitAttempt hpart hlimit hoffset scope
  have hfetches := fetchAttempt hpart hoffset hfetch scope style.fetchNeedsOffset
  obtain ⟨columns, source, condition, orderBy, limit, offset, fetch⟩ := q
  cases fetch with
  | some fetch =>
    cases limit with
    | some limit => apply Attempt.Exchanged.fail
    | none => apply hfetches
  | none =>
    cases limit with
    | some limit => apply hlimits
    | none =>
      cases offset with
      | some offset => apply hlimits
      | none => apply Attempt.Exchanged.ok .nil

/-- The ORDER BY clause is written with the exchange in its keys. -/
theorem orderPieces (hpart : Exchangeable part) {q : SelectQuery}
    (h : ∀ key ∈ q.orderBy, Replaced style part key.expr (f key.expr)) (scope : Scope) :
  Exchanged part (q.orderPieces style scope) ((q.mapExprs f).orderPieces style scope)
  := by
  have hkeys : (q.mapExprs f).orderBy
      = q.orderBy.map fun key => { key with expr := f key.expr } := rfl
  rw [SelectQuery.orderPieces, SelectQuery.orderPieces, hkeys]
  cases horder : q.orderBy with
  | nil => apply Exchanged.nil
  | cons key rest =>
    rw [horder] at h
    apply Exchanged.cons rfl
    rw [List.map_map]
    apply Exchanged.separated hpart
    intro key hkey
    apply Exchanged.append ((h key hkey).pieces _)
    cases key.direction with
    | ascending => apply Exchanged.same rfl
    | descending => apply Exchanged.same rfl

/-- The source of a query stays: whether a next value brings it is told from the outside of a
column. -/
theorem sourcePieces {q : SelectQuery} (h : ∀ e ∈ q.columns, Replaced style part e (f e))
    (scope : Scope) :
  (q.mapExprs f).sourcePieces style scope = q.sourcePieces style scope
  := by
  have hsource : (q.mapExprs f).source = q.source := rfl
  have hcolumns : (q.mapExprs f).columns = q.columns.map f := rfl
  have hmap : (q.columns.map f).map Expr.isNextValue = q.columns.map Expr.isNextValue := by
    rw [List.map_map]
    apply List.map_congr_left
    intro e he
    apply (h e he).isNextValue
  have hnext : (q.columns.map f).any Expr.isNextValue = q.columns.any Expr.isNextValue := by
    simpa using congrArg (List.any · id) hmap
  rw [SelectQuery.sourcePieces, SelectQuery.sourcePieces, hsource]
  split
  · rfl
  · cases style with
    | standard needed => rfl
    | openEdge => simp only [SelectQuery.withoutSourcePieces, hcolumns, hnext]

/-- A query is written with the exchange in each of its expressions. -/
theorem select (hpart : Exchangeable part) {q : SelectQuery}
    (h : ∀ e ∈ q.exprs, Replaced style part e (f e)) (scope : Scope) :
  (q.attempt style scope).Exchanged part ((q.mapExprs f).attempt style scope)
  := by
  obtain ⟨hcolumns, hcondition, horder, hlimit, hoffset, hfetch⟩ :=
    SelectQuery.forall_mem_exprs.mp h
  have hempty : (q.mapExprs f).columns.isEmpty = q.columns.isEmpty := List.isEmpty_map
  rw [SelectQuery.attempt, SelectQuery.attempt, hempty]
  apply Attempt.Exchanged.checked
  apply Attempt.Exchanged.append _ (paginationAttempt hpart hlimit hoffset hfetch _)
  apply Attempt.Exchanged.ok
  rw [SelectQuery.bodyPieces, SelectQuery.bodyPieces, sourcePieces hcolumns]
  apply Exchanged.append _ (orderPieces hpart horder _)
  apply Exchanged.append _ (wherePieces hcondition _)
  apply Exchanged.append
  · apply Exchanged.cons rfl
    rw [SelectQuery.mapExprs, List.map_map]
    apply Exchanged.separated hpart
    intro e he
    apply (hcolumns e he).pieces
  · apply Exchanged.refl (q.sourcePieces_woven style _).parameter?_eq_none

/-! ## Changes of rows -/

/-- An insertion is written with the exchange in its rows. -/
theorem insert (hpart : Exchangeable part) {q : InsertQuery}
    (h : ∀ e ∈ q.rows.flatten, Replaced style part e (f e)) (scope : Scope) :
  (q.attempt style scope).Exchanged part ((q.mapExprs f).attempt style scope)
  := by
  have hfault : (q.mapExprs f).rowFault? = q.rowFault? := by
    simp [InsertQuery.rowFault?, InsertQuery.mapExprs, List.find?_map, Function.comp_def]
  have hnames : Woven style [] (.plain "INSERT INTO "
      :: q.table.pieces style (scope.entering .insertInto) ++ .plain " " :: .plain "("
        :: Piece.separated ", " (q.columns.map fun column => [style.identifier column])) := by
    apply Woven.names_join (by decide)
    · apply Woven.glue_cons (by decide)
      apply Woven.tablePieces
    · apply Woven.glue_cons (by decide)
      apply Woven.identifiers
  rw [InsertQuery.attempt, InsertQuery.attempt, hfault]
  apply Attempt.Exchanged.checked
  apply Attempt.Exchanged.ok
  apply Exchanged.append (Exchanged.refl hnames.parameter?_eq_none)
  apply Exchanged.cons rfl
  rw [InsertQuery.mapExprs, List.map_map]
  apply Exchanged.separated hpart
  intro row hrow
  apply Exchanged.append_plain
  apply Exchanged.cons rfl
  rw [List.map_map]
  apply Exchanged.separated hpart
  intro e he
  apply (h e (List.mem_flatten_of_mem hrow he)).pieces

/-- An update is written with the exchange in its assignments and its condition. -/
theorem update (hpart : Exchangeable part) {q : UpdateQuery}
    (hvalues : ∀ assignment ∈ q.assignments, Replaced style part assignment.2 (f assignment.2))
    (hcondition : ∀ e ∈ q.condition, Replaced style part e (f e)) (scope : Scope) :
  (q.attempt style scope).Exchanged part ((q.mapExprs f).attempt style scope)
  := by
  have hempty : (q.mapExprs f).assignments.isEmpty = q.assignments.isEmpty := List.isEmpty_map
  rw [UpdateQuery.attempt, UpdateQuery.attempt, hempty]
  apply Attempt.Exchanged.checked
  apply Attempt.Exchanged.ok
  apply Exchanged.append _ (wherePieces hcondition _)
  apply Exchanged.append
  · apply Exchanged.cons rfl
    apply Exchanged.refl (Woven.tablePieces style _ q.table).parameter?_eq_none
  · apply Exchanged.cons rfl
    rw [UpdateQuery.mapExprs, List.map_map]
    apply Exchanged.separated hpart
    intro assignment hassignment
    apply Exchanged.cons (style.parameter?_identifier assignment.1)
    apply Exchanged.cons rfl ((hvalues assignment hassignment).pieces _)

/-- A deletion is written with the exchange in its condition. -/
theorem delete {q : DeleteQuery} (h : ∀ e ∈ q.condition, Replaced style part e (f e))
    (scope : Scope) :
  (q.attempt style scope).Exchanged part ((q.mapExprs f).attempt style scope)
  := by
  apply Attempt.Exchanged.ok
  apply Exchanged.append _ (wherePieces h _)
  apply Exchanged.cons rfl
  apply Exchanged.refl (Woven.tablePieces style _ q.table).parameter?_eq_none

/-! ## Definitions -/

/-- A column of a table definition is written with the exchange in its default. -/
theorem columnDef {c : ColumnDef} (h : ∀ e ∈ c.default, Replaced style part e (f e))
    (scope : Scope) :
  (c.attempt style scope).Exchanged part ((c.mapExprs f).attempt style scope)
  := by
  apply Attempt.Exchanged.append
  · apply Attempt.Exchanged.append
    · apply Attempt.Exchanged.ok
      apply Exchanged.cons (style.parameter?_identifier c.name) (.same rfl)
    · change (style.typeAttempt c.type).Exchanged part (style.typeAttempt c.type)
      rw [Style.typeAttempt]
      split
      · apply Attempt.Exchanged.ok (.same rfl)
      · apply Attempt.Exchanged.fail
  · apply Attempt.Exchanged.ok
    apply Exchanged.append
    · change Exchanged part (if c.nullable then _ else _) (if c.nullable then _ else _)
      split
      · apply Exchanged.nil
      · apply Exchanged.same rfl
    · rw [ColumnDef.mapExprs]
      cases hdefault : c.default with
      | none => apply Exchanged.nil
      | some e => apply Exchanged.cons rfl ((h e hdefault).pieces _)

/-- Constraints have no expressions, so nothing is exchanged in them. -/
theorem constraints (scope : Scope) (cs : List Constraint) :
  (TableDef.constraintsAttempt style scope cs).Exchanged part
    (TableDef.constraintsAttempt style scope cs)
  := by
  induction cs with
  | nil => apply Attempt.Exchanged.ok .nil
  | cons c rest ih =>
    apply Attempt.Exchanged.append _ ih
    apply Attempt.Exchanged.append (.ok (.same rfl))
    apply Attempt.Exchanged.refl (c.parameter?_attempt style scope)

/-- A table definition is written with the exchange in the defaults of its columns. -/
theorem createTable (hpart : Exchangeable part) {d : TableDef}
    (h : ∀ c ∈ d.columns, ∀ e ∈ c.default, Replaced style part e (f e)) (scope : Scope) :
  (d.attempt style scope).Exchanged part ((d.mapExprs f).attempt style scope)
  := by
  have hempty : (d.mapExprs f).columns.isEmpty = d.columns.isEmpty := List.isEmpty_map
  have htable := (Woven.tablePieces style (scope.entering .createTable) d.table).parameter?_eq_none
  rw [TableDef.attempt, TableDef.attempt, hempty]
  apply Attempt.Exchanged.checked
  apply Attempt.Exchanged.append _ (.ok (.same rfl))
  apply Attempt.Exchanged.append _ (constraints _ _)
  apply Attempt.Exchanged.append
  · apply Attempt.Exchanged.ok
    apply Exchanged.append_plain
    apply Exchanged.cons rfl (Exchanged.refl htable)
  · rw [TableDef.mapExprs, List.map_map]
    apply Attempt.Exchanged.separated hpart
    intro c hc
    apply columnDef (h c hc)

end Expr.Replaced

/-! ## Statements -/

namespace Statement

/-- The names of constraints do not depend on the expressions in a statement. -/
theorem prepared_mapExprs (style : Style) (f : Expr → Expr) (s : Statement) :
  (s.mapExprs f).prepared style = (s.prepared style).mapExprs f
  := by
  cases s with
  | createTable d =>
    have hempty : (d.mapExprs f).columns.isEmpty = d.columns.isEmpty := List.isEmpty_map
    rw [prepared, mapExprs, prepared, hempty]
    split <;> rfl
  | _ => rfl

/-- Replacing the expressions of a statement replaces the attempt at it. -/
theorem attempt_mapExprs (hpart : Exchangeable part) {s : Statement}
    (h : ∀ e ∈ s.exprs, Expr.Replaced style part e (f e)) (scope : Scope) :
  (s.attempt style scope).Exchanged part ((s.mapExprs f).attempt style scope)
  := by
  rw [attempt, attempt, prepared_mapExprs]
  rw [← exprs_prepared style] at h
  cases hs : s.prepared style with
  | select q =>
    rw [hs] at h
    apply Expr.Replaced.select hpart h
  | insert q =>
    rw [hs] at h
    apply Expr.Replaced.insert hpart h
  | update q =>
    rw [hs] at h
    obtain ⟨hvalues, hcondition⟩ := List.forall_mem_append.mp h
    rw [List.forall_mem_map] at hvalues
    apply Expr.Replaced.update hpart hvalues
    simpa using hcondition
  | delete q =>
    rw [hs] at h
    apply Expr.Replaced.delete
    simpa [exprs] using h
  | createTable d =>
    rw [hs] at h
    apply Expr.Replaced.createTable hpart
    intro c hc e he
    apply h e (List.mem_filterMap.mpr ⟨c, hc, he⟩)
  | dropTable t =>
    apply Attempt.Exchanged.ok
    apply Exchanged.cons rfl
    apply Exchanged.refl (Woven.tablePieces style _ t).parameter?_eq_none
  | addConstraint c =>
    apply Attempt.Exchanged.append
    · apply Attempt.Exchanged.ok
      apply Exchanged.append_plain
      apply Exchanged.cons rfl
      apply Exchanged.refl (Woven.tablePieces style _ c.table).parameter?_eq_none
    · apply Attempt.Exchanged.refl (c.parameter?_attempt style _)

end Statement

end SqlDialect
