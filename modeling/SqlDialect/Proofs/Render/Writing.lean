import SqlDialect.Proofs.Render.Making
import SqlDialect.Proofs.Render.Pieces
import SqlDialect.Proofs.Text.Digits
import SqlDialect.Render.Writing

/-!
# What is written of statements

Each part of a statement makes the attempt that its pieces are, on any draft.  It is shown of
a part by going through its writer and of expressions by induction.  Expressions never stop
the writing.  A query is the only statement that changes the scope: it leaves columns
qualified unless it is refused before anything is written.
-/

namespace SqlDialect

open Writing

/-! ## Names and values -/

variable (style : Style) (scope : Scope)

namespace Style

/-- An identifier is written bare or quoted, as its piece is. -/
theorem writeIdentifier_makes (name : String) :
  (style.writeIdentifier name).Makes scope (.ok [style.identifier name])
  := by
  rw [writeIdentifier, identifier]
  split
  · apply Makes.quoted
  · apply Makes.plain

/-- What stands behind an owned name may be put there before its owner is. -/
theorem qualifiedBy_append (owner : String) (ps qs : List Piece) :
  style.qualifiedBy owner (ps ++ qs) = style.qualifiedBy owner ps ++ qs
  := by
  rw [qualifiedBy, qualifiedBy]
  split <;> rfl

/-- An owner stands in front of whatever it owns. -/
theorem qualifiedBy_eq_append (owner : String) (ps : List Piece) :
  style.qualifiedBy owner ps = style.qualifiedBy owner [] ++ ps
  := style.qualifiedBy_append owner [] ps

/-- An owner is written with its point, and an empty one is left out. -/
theorem writeOwner_makes (owner : String) :
  (style.writeOwner owner).Makes scope (.ok (style.qualifiedBy owner []))
  := by
  rw [writeOwner, Writing.given, qualifiedBy]
  by_cases h : owner = ""
  · rw [if_neg (not_not.mpr h), if_pos h]
    apply Makes.nothing
  · rw [if_pos h, if_neg h]
    apply (style.writeIdentifier_makes scope owner).seq (Makes.plain ".")

/-- The writing of a type stops when the type has no name. -/
theorem writeType_makes (type : ColumnType) :
  (style.writeType type).Makes scope (style.typeAttempt type)
  := by
  rw [writeType, typeAttempt]
  cases style.typeName type with
  | ok name => apply Makes.plain
  | error fault => apply Makes.refuse

/-- A type without a name is recorded, and the writing goes on. -/
theorem recordType_makes (type : ColumnType) :
  (style.recordType type).Makes scope (.ok (style.typePieces type))
  := by
  intro d hd
  rw [recordType, on_tryCatch, style.writeType_makes scope type d hd, typeAttempt, typePieces]
  cases style.typeName type with
  | ok name => rfl
  | error fault =>
    change (Writing.record (.ofFault fault)).on (d.add []) = _
    rw [d.add_nil]
    apply Makes.record _ d hd

/-- Names are written in parentheses, one after the other. -/
theorem writeNames_makes (names : List String) :
  (style.writeNames names).Makes scope (.ok (style.nameList names))
  := by
  have hrow := Makes.separated_ok ", " fun name (_ : name ∈ names) =>
    style.writeIdentifier_makes scope name
  apply (Makes.plain "(").seq (hrow.seq (Makes.plain ")"))

end Style

/-- A table declares its alias in a FROM clause and goes by it elsewhere, as its pieces do. -/
theorem Table.write_makes (t : Table) :
  (t.write style).Makes scope (.ok (t.pieces style scope))
  := by
  have hname := (style.writeOwner_makes scope t.schema).seq
    (style.writeIdentifier_makes scope t.name)
  have hlabel := style.writeIdentifier_makes scope t.label
  have hpieces : t.pieces style scope
      = (if scope.clause = .selectFrom ∨ t.label = "" then
          style.qualifiedBy t.schema [] ++ [style.identifier t.name] else [])
        ++ if t.label ≠ "" then
          (if scope.clause = .selectFrom then [.plain " "] else []) ++ [style.identifier t.label]
          else [] := by
    rw [pieces, style.qualifiedBy_eq_append t.schema [_]]
    by_cases hlabel : t.label = "" <;> by_cases hclause : scope.clause = .selectFrom <;>
      simp [hlabel, hclause]
  rw [hpieces]
  apply Makes.scope_bind
  exact hname.given.seq ((Makes.plain " ").given.seq hlabel).given

/-- A column is written after its table where columns are qualified. -/
theorem Column.write_makes (c : Column) :
  (c.write style).Makes scope (.ok (c.pieces style scope))
  := by
  have howner := (style.writeOwner_makes scope c.schema).seq (style.writeOwner_makes scope c.table)
  have hpieces : c.pieces style scope
      = (if scope.qualified ∧ c.table ≠ "" then
          style.qualifiedBy c.schema [] ++ style.qualifiedBy c.table [] else [])
        ++ [style.identifier c.name] := by
    rw [pieces]
    split
    · rw [List.append_assoc, ← style.qualifiedBy_eq_append c.table,
        ← style.qualifiedBy_eq_append c.schema]
    · rfl
  rw [hpieces]
  apply Makes.scope_bind
  apply howner.given.seq (style.writeIdentifier_makes scope c.name)

namespace Sequence

/-- A sequence is written after its schema. -/
theorem write_makes (s : Sequence) :
  (s.write style).Makes scope (.ok (s.namePieces style))
  := by
  rw [namePieces.eq_def, style.qualifiedBy_eq_append]
  exact (style.writeOwner_makes scope _).seq (style.writeIdentifier_makes scope s.name)

/-- The next value of a sequence is written with its name. -/
theorem writeNextValue_makes (s : Sequence) :
  (s.writeNextValue style).Makes scope (.ok (s.nextValuePieces style))
  := by
  cases style with
  | standard needed => exact (Makes.plain "NEXT VALUE FOR ").seq (s.write_makes _ scope)
  | openEdge => exact (s.write_makes _ scope).seq (Makes.plain _)

end Sequence

/-- The parts of a conversion are written inside of it, wherever it stands. -/
theorem writeCast_makes {scope : Scope} {argument target : Writing Unit} {ps qs : List Piece}
    (hargument : argument.Makes (scope.entering .casting) (.ok ps))
    (htarget : target.Makes (scope.entering .casting) (.ok qs)) :
  (writeCast argument target).Makes scope (.ok (Piece.cast ps qs))
  := by
  have hbehind := hargument.seq ((Makes.plain " AS ").seq (htarget.seq (Makes.plain ")")))
  have hwhole := (Makes.plain "CAST(").seq hbehind
  have hpieces : Piece.cast ps qs
      = [.plain "CAST("] ++ (ps ++ ([.plain " AS "] ++ (qs ++ [.plain ")"]))) := by
    simp [Piece.cast]
  rw [hpieces]
  apply Makes.switching hwhole

/-- A text between apostrophes is a literal. -/
theorem writeLiteral_makes (content : String) :
  (writeLiteral content).Makes scope (.ok [.literal content])
  := Makes.quoted _ _

namespace Binary64

/-- A floating point number without a literal is written as the conversion of its name. -/
theorem writeCast_makes (x : Binary64) :
  (x.writeCast style).Makes scope (.ok (x.castPieces style))
  := SqlDialect.writeCast_makes (writeLiteral_makes _ _) (style.recordType_makes _ _)

/-- A floating point number is written as its shortest decimal, or else as a conversion. -/
theorem write_makes (x : Binary64) :
  (x.write style).Makes scope (.ok (x.pieces style))
  := by
  rw [write, pieces]
  split
  · apply Makes.plain
  · apply x.writeCast_makes

end Binary64

/-- A moment without a timestamp in UTC is lost. -/
theorem Moment.write_makes (m : Moment) :
  m.write.Makes scope (.ok m.pieces)
  := by
  rw [write, pieces]
  cases m.utc? with
  | some t => apply writeLiteral_makes
  | none => apply Makes.lose

namespace Value

/-- A value is written as its literal, in an arm of its own for each type. -/
theorem write_makes (v : Value) :
  (v.write style).Makes scope (.ok (v.pieces style))
  := by
  cases v with
  | null => exact Makes.plain _
  | boolean x | smallint x | integer x | bigint x | decimal x _ _ =>
    cases x <;> exact Makes.plain _
  | varchar x | date x | timestamp x =>
    cases x with
    | none => exact Makes.plain _
    | some x => exact writeLiteral_makes _ _
  | double x =>
    cases x with
    | none => exact Makes.plain _
    | some x => exact x.write_makes style scope
  | moment x =>
    cases x with
    | none => exact Makes.plain _
    | some x => exact x.write_makes scope

/-- A value is bound to a marker unless values are written as literals. -/
theorem bind_makes (v : Value) :
  (v.bind style).Makes scope (.ok (if scope.inline then v.pieces style else [.marker v]))
  := by
  apply Makes.scope_bind
  split
  · apply v.write_makes
  · apply Makes.mark

end Value

/-! ## Expressions -/

/-- The sign of an integer and its digits are the text of the integer. -/
theorem Token.textOf_ofInt (n : Int) :
  Piece.textOf (piecesOf (ofInt n)) = Text.integer n
  := by
  rw [ofInt]
  split
  next hneg =>
    apply String.toList_injective
    rw [Text.integer_natCast, Text.integer, if_pos hneg, String.toList_ofList,
      Piece.toList_textOf]
    change ['-'] ++ ((String.ofList (Text.digits n.natAbs)).toList ++ []) = _
    rw [String.toList_ofList, List.append_nil]
  next => simp [Token.pieces, Piece.textOf_cons, Piece.text]

/-- An integer is written with the sign and the digits that its tokens are. -/
theorem integer_makes (n : Int) :
  (append (Text.integer n)).Makes scope (.ok (Token.piecesOf (Token.ofInt n)))
  := by
  rw [← Token.textOf_ofInt, Token.ofInt]
  split <;> exact Makes.text rfl rfl rfl rfl

/-- A leaf is written as its tokens are. -/
theorem Operand.write_makes (leaf : Operand) :
  (leaf.write style).Makes scope (.ok (leaf.pieces style scope))
  := by
  cases leaf with
  | float x =>
    rw [pieces_float]
    apply x.write_makes
  | int n => apply integer_makes
  | text content => apply writeLiteral_makes
  | column c =>
    rw [pieces_column]
    apply c.write_makes
  | type t =>
    rw [pieces_type]
    apply style.recordType_makes
  | inline v =>
    rw [pieces_inline]
    apply v.write_makes
  | bound v =>
    rw [pieces_bound]
    apply v.bind_makes
  | _ => apply Makes.plain

namespace Expr

/-- The writings of expressions are those of each of them. -/
theorem writeEach_eq (es : List Expr) :
  writeEach style es = es.map (write style)
  := by
  induction es with
  | nil => rfl
  | cons e rest ih => rw [writeEach, ih, List.map_cons]

/-- Two operands are written with the operator between them, each in parentheses where needed. -/
theorem writeJoined_makes {scope : Scope} (precedence : Nat) (infixed : String)
    {left right : Nat × Writing Unit} {ps qs : List Piece} (hleft : left.2.Makes scope (.ok ps))
    (hright : right.2.Makes scope (.ok qs)) :
  (writeJoined precedence infixed left right).Makes scope
    (.ok (Piece.enclosed (left.1 < precedence) ps
      ++ .plain infixed :: Piece.enclosed (right.1 ≤ precedence) qs))
  := by
  apply Makes.scope_bind
  apply Makes.switching
  exact hleft.enclosed.seq ((Makes.plain infixed).seq hright.enclosed)

/-- An expression writes its pieces wherever it stands, and never stops the writing. -/
theorem write_makes (e : Expr) :
  (e.write style).Makes scope (.ok (e.pieces style scope))
  := by
  induction e using induction generalizing scope with
  | operand leaf => apply leaf.write_makes
  | unary op argument ih =>
    rw [write, pieces_unary]
    exact (Makes.plain op.text).seq (ih scope).enclosed
  | binary op left right ihl ihr =>
    rw [write, pieces_binary]
    apply writeJoined_makes op.precedence op.text (ihl scope) (ihr scope)
  | cast argument target iha iht =>
    rw [write, pieces_cast]
    apply writeCast_makes (iha _) (iht _)
  | labelled argument label iha ihl =>
    rw [write, pieces_labelled]
    apply Makes.scope_bind
    split
    · apply iha scope
    · apply writeJoined_makes labelPrecedence " AS " (iha scope) (ihl scope)
  | currentTimestamp => exact Makes.plain style.currentTimestamp
  | currentDate => exact Makes.plain "CURRENT_DATE"
  | call name arguments ih =>
    rw [write, pieces_call, writeEach_eq]
    have harguments := Makes.separated_ok ", " fun e he => ih e he scope
    exact (Makes.plain name).seq ((Makes.plain "(").seq (harguments.seq (Makes.plain ")")))
  | nextValue sequence =>
    rw [write, pieces_nextValue]
    apply sequence.writeNextValue_makes

end Expr

/-- The direction is written behind the expression to order by. -/
theorem OrderKey.write_makes (key : OrderKey) :
  (key.write style).Makes scope (.ok (key.pieces style scope))
  := by
  obtain ⟨e, direction⟩ := key
  cases direction <;> exact (e.write_makes style scope).seq (Makes.plain _)

/-! ## Queries -/

namespace Expr

/-- A row count is checked before it is written, and what was written of it afterwards. -/
theorem writeCount_makes (clause : String) (e : Expr) :
  (e.writeCount style clause).Makes scope (e.countAttempt style scope clause)
  := by
  apply Makes.checked
  apply (e.write_makes style scope).textWritten_bind
  apply Makes.check

/-- A clause is written around its row count, and is left out without one. -/
theorem writeClause_makes (start clause finish : String) (count : Option Expr) :
  (count.forM (writeClause style start clause finish)).Makes scope
    (clauseAttempt style scope start clause finish count)
  := by
  cases count with
  | none => apply Makes.nothing
  | some count =>
    rw [clauseAttempt, Attempt.append_assoc]
    exact (Makes.plain start).seq ((count.writeCount_makes style scope clause).seq
      (Makes.plain finish))

end Expr

/-- The OFFSET clause skips no rows where one is wanted but none is given. -/
theorem writeOffset_makes (start : String) (needed : Bool) (offset : Option Expr) :
  (writeOffset style start needed offset).Makes scope
    (offsetAttempt style scope start needed offset)
  := by
  cases offset with
  | none => exact (Makes.plain _).given
  | some offset => exact Expr.writeClause_makes style scope start "OFFSET" " ROWS" (some offset)

namespace SelectQuery

variable (q : SelectQuery)

/-- The clauses for a limit and an offset, which OpenEdge writes with values as literals. -/
theorem writeLimit_makes :
  (q.writeLimit style).Makes scope (q.limitAttempt style scope)
  := by
  cases style with
  | standard needed =>
    exact (Expr.writeClause_makes _ scope _ _ _ q.limit).seq
      (Expr.writeClause_makes _ scope _ _ _ q.offset)
  | openEdge =>
    apply Makes.scope_bind
    apply Makes.literally
    exact (writeOffset_makes _ scope.inlining _ _ q.offset).seq
      (Expr.writeClause_makes _ scope.inlining _ _ _ q.limit)

/-- The clauses for a fetch clause and an offset, which OpenEdge checks first. -/
theorem writeFetch_makes (needsOffset : Bool) :
  (q.writeFetch style needsOffset).Makes scope (q.fetchAttempt style scope needsOffset)
  := by
  obtain ⟨columns, source, condition, orderBy, limit, offset, fetch⟩ := q
  have hclause : ∀ (scope : Scope) (start : String) (finish : FetchClause → String),
      (fetch.forM fun f => f.count.writeClause style start "FETCH FIRST" (finish f)).Makes scope
        (Expr.clauseAttempt style scope start "FETCH FIRST" ((fetch.map finish).getD "")
          (fetch.map (·.count))) := by
    intro scope start finish
    cases fetch with
    | none => apply Makes.nothing
    | some f => exact Expr.writeClause_makes style scope start _ _ (some f.count)
  cases style with
  | standard needed => exact (writeOffset_makes _ scope _ _ offset).seq (hclause scope _ fetchEnd)
  | openEdge =>
    apply Makes.checked
    apply Makes.scope_bind
    apply Makes.literally
    have hoffset := writeOffset_makes .openEdge scope.inlining "\n OFFSET " needsOffset offset
    cases fetch with
    | none => exact hoffset.seq Makes.nothing
    | some f => exact hoffset.seq (hclause scope.inlining _ fun _ => " ROWS ONLY")

/-- A limit and a fetch clause exclude each other. -/
theorem writePagination_makes :
  (q.writePagination style).Makes scope (q.paginationAttempt style scope)
  := by
  obtain ⟨columns, source, condition, orderBy, limit, offset, fetch⟩ := q
  cases fetch with
  | some f =>
    cases limit with
    | some count => exact Makes.refuse _
    | none => exact writeFetch_makes style scope _ _
  | none =>
    cases limit with
    | some count => exact writeLimit_makes style scope _
    | none =>
      cases offset with
      | some count => exact writeLimit_makes style scope _
      | none => exact Makes.nothing

/-- OpenEdge selects from the table with one row, unless a next value brings that table. -/
theorem writeWithoutSource_makes :
  (q.writeWithoutSource style).Makes scope (.ok (q.withoutSourcePieces style))
  := by
  cases style with
  | standard needed => apply Makes.nothing
  | openEdge =>
    have hpieces : q.withoutSourcePieces .openEdge
        = if ¬ q.columns.any Expr.isNextValue then [.plain ("\nFROM " ++ OpenEdge.calcTable)]
          else [] := by
      rw [ite_not]
      rfl
    rw [hpieces]
    exact (Makes.plain _).given

/-- The source is written in the FROM clause. -/
theorem writeSource_makes :
  (q.writeSource style).Makes scope (.ok (q.sourcePieces style scope))
  := by
  rw [writeSource, sourcePieces]
  cases q.source with
  | none => apply q.writeWithoutSource_makes
  | some table =>
    exact (Makes.plain "\nFROM ").seq (Makes.switching (table.write_makes style _))

end SelectQuery

/-- The condition is written in its own part of the statement. -/
theorem writeWhere_makes (clause : Clause) (condition : Option Expr) :
  (writeWhere style clause condition).Makes scope
    (.ok (wherePieces style (scope.entering clause) condition))
  := by
  cases condition with
  | none => apply Makes.nothing
  | some condition =>
    exact (Makes.plain "\nWHERE ").seq (Makes.switching (condition.write_makes style _))

namespace SelectQuery

variable (q : SelectQuery)

/-- The keys are written in the ORDER BY clause, if there are any. -/
theorem writeOrder_makes :
  (q.writeOrder style).Makes scope (.ok (q.orderPieces style scope))
  := by
  rw [writeOrder, orderPieces, Writing.given]
  cases q.orderBy with
  | nil => exact Makes.nothing
  | cons key rest =>
    have hkeys := Makes.separated_ok ", " fun key' (_ : key' ∈ key :: rest) =>
      key'.write_makes style (scope.entering .selectOrderBy)
    rw [if_pos (List.cons_ne_nil key rest)]
    exact (Makes.plain "\nORDER BY ").seq (Makes.switching hkeys)

/-- A query up to the limits on its rows never stops the writing. -/
theorem writeBody_makes :
  (q.writeBody style).Makes (scope.entering .select) (.ok (q.bodyPieces style scope))
  := by
  have hcolumns := Makes.separated_ok ", " fun e (_ : e ∈ q.columns) =>
    e.write_makes style (scope.entering .select)
  have hbehind := (q.writeSource_makes style (scope.entering .select)).seq
    ((writeWhere_makes style (scope.entering .select) .selectWhere q.condition).seq
      (q.writeOrder_makes style (scope.entering .select)))
  have hpieces : q.bodyPieces style scope
      = [.plain "SELECT "]
        ++ (Piece.separated ", " (q.columns.map (Expr.pieces style (scope.entering .select)))
        ++ (q.sourcePieces style scope
        ++ (wherePieces style (scope.entering .selectWhere) q.condition
        ++ q.orderPieces style scope))) := by
    simp [bodyPieces]
  rw [hpieces]
  exact (Makes.plain "SELECT ").seq (hcolumns.seq hbehind)

/-- A query that has columns leaves columns qualified. -/
theorem on_write (d : Draft) :
  (q.write style).on d
    = ((q.attempt style d.state.scope).outcome,
      (d.add (q.attempt style d.state.scope).written).inScope
        (if q.columns.isEmpty then d.state.scope else d.state.scope.qualifying))
  := by
  rw [write, attempt]
  cases q.columns.isEmpty with
  | true =>
    change (_, d) = (_, (d.add []).inScope d.state.scope)
    rw [d.add_nil]
    rfl
  | false =>
    have hbehind := (q.writeBody_makes style d.state.scope.qualifying).seq
      (Makes.switching (q.writePagination_makes style
        (d.state.scope.qualifying.entering .selectPagination)))
    rw [on_bind]
    change (switching .select _).on d = _
    rw [on_switching, on_bind, qualify, on_note]
    dsimp only
    rw [hbehind _ rfl]
    rfl

end SelectQuery

/-! ## Changes of rows -/

/-- The writing of an insertion stops only at its check, before anything is written. -/
theorem InsertQuery.write_makes (q : InsertQuery) :
  (q.write style).Makes scope (q.attempt style scope)
  := by
  have hcolumns := Makes.separated_ok ", " fun column (_ : column ∈ q.columns) =>
    style.writeIdentifier_makes (scope.entering .insertInto) column
  have hrow : ∀ row ∈ q.rows, (writeRow style row).Makes (scope.entering .insertValues)
      (.ok (rowPieces style (scope.entering .insertValues) row)) := by
    intro row _
    have hvalues := Makes.separated_ok ", " fun e (_ : e ∈ row) =>
      e.write_makes style (scope.entering .insertValues)
    exact (Makes.plain "(").seq (hvalues.seq (Makes.plain ")"))
  apply Makes.checked
  apply Makes.switching
  apply Makes.congr
  · exact (Makes.plain "INSERT INTO ").goOn ((q.table.write_makes style _).goOn
      ((Makes.plain " ").goOn ((Makes.plain "(").goOn (hcolumns.goOn
        ((Makes.plain ") VALUES\n").goOn (Makes.switching (Makes.separated_ok ",\n" hrow)))))))
  · simp

/-- The writing of an update stops only at its check, before anything is written. -/
theorem UpdateQuery.write_makes (q : UpdateQuery) :
  (q.write style).Makes scope (q.attempt style scope)
  := by
  have hassignment : ∀ assignment ∈ q.assignments,
      (writeAssignment style assignment).Makes (scope.entering .updateSet)
        (.ok (assignmentPieces style (scope.entering .updateSet) assignment)) := by
    intro assignment _
    exact (style.writeIdentifier_makes _ assignment.1).goOn ((Makes.plain " = ").goOn
      (assignment.2.write_makes style _))
  have hset :
      (switching .updateSet (separated ", " (q.assignments.map (writeAssignment style)))).Makes
        (scope.entering .update) (.ok (Piece.separated ", "
          (q.assignments.map (assignmentPieces style (scope.entering .updateSet))))) :=
    Makes.switching (Makes.separated_ok ", " hassignment)
  apply Makes.checked
  apply Makes.switching
  apply Makes.congr
  · exact (Makes.plain "UPDATE ").goOn ((q.table.write_makes style _).goOn
      ((Makes.plain " SET ").goOn (hset.goOn (writeWhere_makes style _ .updateWhere q.condition))))
  · simp
    rfl

/-- The writing of a deletion never stops. -/
theorem DeleteQuery.write_makes (q : DeleteQuery) :
  (q.write style).Makes scope (q.attempt style scope)
  := by
  apply Makes.switching
  exact (Makes.plain "DELETE FROM ").goOn ((q.table.write_makes style _).goOn
    (writeWhere_makes style _ .deleteWhere q.condition))

/-! ## Definitions -/

/-- The default of a column is written with values as literals, behind its type. -/
theorem ColumnDef.write_makes (c : ColumnDef) :
  (c.write style).Makes scope (c.attempt style scope)
  := by
  have hnullable : (given (c.nullable = false) (append " NOT NULL")).Makes scope
      (.ok (if c.nullable then [] else [.plain " NOT NULL"])) := by
    cases c.nullable with
    | false => exact Makes.plain _
    | true => exact Makes.nothing
  rw [attempt, Attempt.append_assoc]
  refine (style.writeIdentifier_makes scope c.name).seq ((Makes.plain " ").seq
    ((style.writeType_makes scope c.type).seq (hnullable.goOn ?_)))
  cases c.default with
  | none => exact Makes.nothing
  | some value =>
    exact (Makes.plain " DEFAULT ").goOn
      (Makes.scope_bind (Makes.literally (value.write_makes style _)))

/-- The columns of a foreign key are counted before they are written. -/
theorem ConstraintKind.write_makes (table : Table) (columns : List String) (kind : ConstraintKind) :
  (kind.write style table columns).Makes scope (kind.attempt style scope table columns)
  := by
  cases kind with
  | primaryKey => exact (Makes.plain _).goOn (style.writeNames_makes scope columns)
  | unique => exact (Makes.plain _).goOn (style.writeNames_makes scope columns)
  | foreignKey references referenced onDelete =>
    have haction : (onDelete.forM fun action => do
          append " ON DELETE "
          append action.text).Makes scope (.ok (onDelete.elim []
        fun action => [.plain " ON DELETE ", .plain action.text])) := by
      cases onDelete with
      | none => exact Makes.nothing
      | some action => exact (Makes.plain _).goOn (Makes.plain _)
    apply Makes.checked
    apply Makes.congr
    · exact (Makes.plain "FOREIGN KEY ").goOn ((style.writeNames_makes scope columns).goOn
        ((Makes.plain " REFERENCES ").goOn ((references.write_makes style scope).goOn
          ((Makes.plain " ").goOn ((style.writeNames_makes scope referenced).goOn haction)))))
    · cases onDelete <;> simp

/-- A constraint is written behind its name, if it has one. -/
theorem Constraint.write_makes (c : Constraint) :
  (c.write style).Makes scope (c.attempt style scope)
  := by
  apply Makes.checked
  apply Makes.seq
  · cases c.writtenName? with
    | none => exact Makes.nothing
    | some name =>
      exact (Makes.plain "CONSTRAINT ").goOn ((style.writeIdentifier_makes scope name).goOn
        (Makes.plain " "))
  · apply c.kind.write_makes

/-- The constraints of a table definition are written behind its columns, until one of them stops.
-/
theorem TableDef.write_makes (d : TableDef) :
  (d.write style).Makes scope (d.attempt style scope)
  := by
  have hcolumns := Makes.separated ",\n" fun c (_ : c ∈ d.columns) =>
    c.write_makes style (scope.entering .createTable)
  have hconstraints : ∀ (scope : Scope) (constraints : List Constraint),
      (constraints.forM fun c => do
        append ",\n"
        c.write style).Makes scope (constraintsAttempt style scope constraints) := by
    intro scope constraints
    induction constraints with
    | nil => exact Makes.nothing
    | cons c rest ih =>
      rw [constraintsAttempt]
      exact ((Makes.plain ",\n").seq (c.write_makes style scope)).seq ih
  have hattempt : d.attempt style scope
      = .checked (if d.columns.isEmpty then some (.tableWithoutColumns d.table.fullName) else none)
        (.ok [.plain "CREATE TABLE "] ++ (.ok (d.table.pieces style (scope.entering .createTable))
          ++ (.ok [.plain " (\n"] ++ (.separated ",\n"
            (d.columns.map (ColumnDef.attempt style (scope.entering .createTable)))
          ++ (constraintsAttempt style (scope.entering .createTableConstraint) d.constraints
          ++ .ok [.plain "\n)"]))))) := by
    simp only [← Attempt.append_assoc]
    rfl
  rw [hattempt]
  apply Makes.checked
  apply Makes.switching
  exact (Makes.plain "CREATE TABLE ").seq ((d.table.write_makes style _).seq
    ((Makes.plain " (\n").seq (hcolumns.seq
      (Makes.switching ((hconstraints _ d.constraints).seq (Makes.plain "\n)"))))))

/-- A constraint is added behind the name of its table. -/
theorem Constraint.writeAddition_makes (c : Constraint) :
  (c.writeAddition style).Makes scope (c.additionAttempt style scope)
  := by
  have hattempt : c.additionAttempt style scope
      = .ok [.plain "ALTER TABLE "] ++ (.ok (c.table.pieces style (scope.entering .alterTable))
        ++ (.ok [.plain " ADD "] ++ c.attempt style (scope.entering .alterTable))) := by
    simp only [← Attempt.append_assoc]
    rfl
  rw [hattempt]
  apply Makes.switching
  exact (Makes.plain "ALTER TABLE ").seq ((c.table.write_makes style _).seq
    ((Makes.plain " ADD ").seq (c.write_makes style _)))

/-- The removal of a table never stops the writing. -/
theorem Table.writeRemoval_makes (t : Table) :
  (t.writeRemoval style).Makes scope (t.removalAttempt style scope)
  := by
  apply Makes.switching
  exact (Makes.plain "DROP TABLE ").goOn (t.write_makes style _)

/-! ## Statements -/

namespace Statement

/-- The scope behind a statement: a query that has columns leaves columns qualified. -/
def scopeAfter (scope : Scope) : Statement → Scope
  | select q => if q.columns.isEmpty then scope else scope.qualifying
  | _ => scope

/-- Each kind of statement makes its own attempt; only queries change the scope. -/
theorem on_writeRaw (s : Statement) (d : Draft) :
  (s.writeRaw style).on d
    = ((s.rawAttempt style d.state.scope).outcome,
      (d.add (s.rawAttempt style d.state.scope).written).inScope (scopeAfter d.state.scope s))
  := by
  cases s with
  | select q => apply q.on_write
  | insert q => exact q.write_makes style _ d rfl
  | update q => exact q.write_makes style _ d rfl
  | delete q => exact q.write_makes style _ d rfl
  | createTable t => exact t.write_makes style _ d rfl
  | dropTable t => exact t.writeRemoval_makes style _ d rfl
  | addConstraint c => exact c.writeAddition_makes style _ d rfl

/-- The names of constraints do not change what a statement leaves of the scope. -/
theorem scopeAfter_prepared (s : Statement) :
  scopeAfter scope (s.prepared style) = scopeAfter scope s
  := by
  cases s with
  | createTable d =>
    rw [prepared]
    split <;> rfl
  | _ => rfl

/-- Writing a statement makes the attempt at it, and changes the scope only in that a query leaves
columns qualified. -/
theorem on_write (s : Statement) (d : Draft) :
  (s.write style).on d
    = ((s.attempt style d.state.scope).outcome,
      (d.add (s.attempt style d.state.scope).written).inScope (scopeAfter d.state.scope s))
  := by
  rw [write, on_writeRaw, scopeAfter_prepared]
  rfl

end Statement

end SqlDialect
