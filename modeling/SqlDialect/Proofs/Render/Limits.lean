import SqlDialect.Proofs.Render.Inlining

/-!
# Limits as a tail

In OpenEdge the limits on the rows of a query are a tail of its SQL: the SQL of the query
without them, then the offset, then the greatest number of rows, both with their values
written as literals.  A limit and a fetch clause with the same count are the same.
-/

namespace SqlDialect

/-- Inlining a scope writes the values of an expression as literals. -/
theorem Expr.pieces_inlining (style : Style) (scope : Scope) (e : Expr) :
  e.pieces style scope.inlining = (e.mapOperands Operand.inlined).pieces style scope
  := by
  have hprecedence : ∀ e : Expr, (e.mapOperands Operand.inlined).precedence = e.precedence := by
    intro e
    cases e with
    | operand leaf => apply leaf.precedence_inlined
    | _ => rfl
  induction e using Expr.induction generalizing scope with
  | operand leaf => cases leaf <;> rfl
  | unary op argument ih => rw [mapOperands, pieces_unary, pieces_unary, ih, hprecedence]
  | binary op left right ihl ihr =>
    rw [mapOperands, pieces_binary, pieces_binary, ihl, ihr, hprecedence, hprecedence]
  | cast argument target iha iht =>
    rw [mapOperands, pieces_cast, pieces_cast, ← iha, ← iht]
    rfl
  | labelled argument label iha ihl =>
    rw [mapOperands, pieces_labelled, pieces_labelled, iha, ihl, hprecedence, hprecedence]
    rfl
  | currentTimestamp => rfl
  | currentDate => rfl
  | call name arguments ih =>
    have harguments : arguments.map (pieces style scope.inlining)
        = (arguments.map (mapOperands Operand.inlined)).map (pieces style scope) := by
      rw [List.map_map]
      apply List.map_congr_left
      intro e he
      apply ih e he
    rw [mapOperands, mapOperandsOf_eq, pieces_call, pieces_call, harguments]
  | nextValue sequence => rfl

/-- The text of an expression with its values written as literals, where the limits on the rows of a
query are written. -/
def Expr.literalText (style : Style) (e : Expr) : String :=
  Piece.textOf ((e.mapOperands Operand.inlined).pieces style .pagination)

/-- The text of a clause, from its start to its finish, if there is one. -/
def Expr.clauseText (start finish : String) : Option Expr → String
  | some e => start ++ e.literalText .openEdge ++ finish
  | none => ""

namespace SelectQuery

/-- What OpenEdge writes for the offset of a query. -/
def offsetTail (q : SelectQuery) : String :=
  Expr.clauseText "\n OFFSET " " ROWS" q.offset

/-- What OpenEdge writes for the greatest number of rows of a query, be it a limit or the count of a
fetch clause. -/
def countTail (q : SelectQuery) : String :=
  Expr.clauseText "\n FETCH FIRST " " ROWS ONLY" (q.limit.or (q.fetch.map (·.count)))

end SelectQuery

theorem Expr.textOf_clauseAttempt {start clause finish : String} {count : Option Expr}
    {ps : List Piece}
    (h : clauseAttempt .openEdge Scope.pagination.inlining start clause finish count = .ok ps) :
  Piece.textOf ps = clauseText start finish count
  := by
  cases count with
  | none =>
    obtain rfl := Attempt.ok_inj.mp h
    rfl
  | some e =>
    obtain ⟨xs, ys, hxs, hys, rfl⟩ := Attempt.append_eq_ok.mp h
    obtain ⟨zs, hzs, rfl⟩ := Attempt.ok_append_eq_ok.mp hxs
    obtain rfl := countAttempt_eq_ok hzs
    obtain rfl := Attempt.ok_inj.mp hys
    rw [Piece.textOf_append, Piece.textOf_append, pieces_inlining]
    simp [Piece.textOf_cons, Piece.text, clauseText, literalText]

theorem textOf_offsetAttempt {start : String} {offset : Option Expr} {ps : List Piece}
    (h : offsetAttempt .openEdge Scope.pagination.inlining start false offset = .ok ps) :
  Piece.textOf ps = Expr.clauseText start " ROWS" offset
  := by
  cases offset with
  | none =>
    obtain rfl := Attempt.ok_inj.mp h
    rfl
  | some e =>
    change Expr.clauseAttempt _ _ _ "OFFSET" _ (some e) = .ok ps at h
    apply Expr.textOf_clauseAttempt h

namespace SelectQuery

/-- In OpenEdge the limits on rows are the offset and then the greatest number of rows. -/
theorem textOf_paginationAttempt {q : SelectQuery} {ps : List Piece}
    (h : q.paginationAttempt .openEdge .pagination = .ok ps) :
  Piece.textOf ps = q.offsetTail ++ q.countTail
  := by
  rw [paginationAttempt] at h
  split at h
  · cases Attempt.fail_ne_ok _ _ h
  next fetch offset hfetch hlimit =>
    simp only [fetchAttempt, hfetch] at h
    obtain ⟨-, hwritten⟩ := Attempt.checked_eq_ok.mp h
    obtain ⟨xs, ys, hxs, hys, rfl⟩ := Attempt.append_eq_ok.mp hwritten
    rw [Piece.textOf_append, textOf_offsetAttempt hxs, Expr.textOf_clauseAttempt hys, countTail,
      hlimit, hfetch]
    rfl
  next hfetch hlimit hoffset =>
    obtain rfl := Attempt.ok_inj.mp h
    rw [offsetTail, countTail, hfetch, hlimit, hoffset]
    rfl
  next hfetch _ =>
    obtain ⟨xs, ys, hxs, hys, rfl⟩ := Attempt.append_eq_ok.mp h
    rw [Piece.textOf_append, textOf_offsetAttempt hxs, Expr.textOf_clauseAttempt hys, countTail,
      hfetch, Option.map_none, Option.or_none]
    rfl

/-- In OpenEdge a limit and a fetch clause with the same count are attempted alike, whether or not
they can be written. -/
theorem paginationAttempt_limit_eq_fetch {q : SelectQuery} (hlimit : q.limit = none)
    (hfetch : q.fetch = none) (scope : Scope) (count : Expr) :
  { q with limit := some count }.paginationAttempt .openEdge scope
    = { q with fetch := some { count } }.paginationAttempt .openEdge scope
  := by
  simp only [paginationAttempt, hlimit, hfetch, limitAttempt, fetchAttempt]
  rfl

theorem compile_select (style : Style) (q : SelectQuery) :
  style.compile (.select q)
    = (Attempt.checked (if q.columns.isEmpty then some .selectWithoutColumns else none)
        (.ok (q.bodyPieces style (Scope.qualifying {}))
          ++ q.paginationAttempt style .pagination)).compiled
  := rfl

theorem compile_limit_eq_fetch {q : SelectQuery} (hlimit : q.limit = none) (hfetch : q.fetch = none)
    (count : Expr) :
  Style.openEdge.compile (.select { q with limit := some count })
    = Style.openEdge.compile (.select { q with fetch := some { count } })
  := by
  rw [compile_select, compile_select, paginationAttempt_limit_eq_fetch hlimit hfetch]
  rfl

end SelectQuery

/-- In OpenEdge the limits on the rows of a query that compiles are a tail behind the SQL of the
query without them, the offset first, and a limit is the same as a fetch clause with its count. -/
theorem limits_are_tail :
  (∀ (q : SelectQuery) (query : CompiledQuery),
      (Style.openEdge.compile (.select q)).result = .ok query →
      ∃ sql, (Style.openEdge.compile (.select q.unlimited)).result = .ok ⟨sql, query.parameters⟩
        ∧ query.sql = sql ++ q.offsetTail ++ q.countTail)
    ∧ ∀ (q : SelectQuery) (count : Expr), q.limit = none → q.fetch = none →
      Style.openEdge.compile (.select { q with limit := some count })
        = Style.openEdge.compile (.select { q with fetch := some { count } })
  := by
  constructor
  · intro q query h
    obtain ⟨sql, limits, hcompiled, hlimits, hsql⟩ := SelectQuery.compile_unlimited h
    use sql, hcompiled
    rw [hsql, SelectQuery.textOf_paginationAttempt hlimits, String.append_assoc]
  · intro q count hlimit hfetch
    apply SelectQuery.compile_limit_eq_fetch hlimit hfetch

/-- Heavy rolls behind a bound number of them, as many as a bound sum says. -/
def heavyRolls : SelectQuery where
  columns := [.operand (.column { name := "id" })]
  source := some { name := "rolls" }
  condition := some (.binary .greater (.operand (.column { name := "weight" }))
    (.operand (.bound (.integer (some 120)))))
  offset := some (.operand (.bound (.integer (some 40))))
  limit := some (.binary .add (.operand (.bound (.smallint (some 15)))) (.operand (.int 5)))

theorem limits_are_tail_heavyRolls :
  (∃ sql, (Style.openEdge.compile (.select heavyRolls.unlimited)).result
        = .ok ⟨sql, [.integer (some 120)]⟩
      ∧ "SELECT id\nFROM rolls\nWHERE weight > ?\n OFFSET 40 ROWS\n FETCH FIRST 15 + 5 ROWS ONLY"
        = sql ++ "\n OFFSET 40 ROWS" ++ "\n FETCH FIRST 15 + 5 ROWS ONLY")
    ∧ (Style.openEdge.compile (.select
        { heavyRolls.unlimited with fetch := some { count := .operand (.raw " ") } })).result
      = .error (.ofFault (.blankCount "FETCH FIRST"))
  := by
  obtain ⟨htail, hsame⟩ := limits_are_tail
  constructor
  · have hcompiled : (Style.openEdge.compile (.select heavyRolls)).result
        = .ok ⟨"SELECT id\nFROM rolls\nWHERE weight > ?\n OFFSET 40 ROWS"
          ++ "\n FETCH FIRST 15 + 5 ROWS ONLY", [.integer (some 120)]⟩ := by decide +kernel
    obtain ⟨sql, hunlimited, hsql⟩ := htail heavyRolls _ hcompiled
    have hoffset : heavyRolls.offsetTail = "\n OFFSET 40 ROWS" := by decide +kernel
    have hcount : heavyRolls.countTail = "\n FETCH FIRST 15 + 5 ROWS ONLY" := by decide +kernel
    rw [hoffset, hcount] at hsql
    use sql, hunlimited, hsql
  · rw [← hsame heavyRolls.unlimited (.operand (.raw " ")) rfl rfl]
    decide +kernel

end SqlDialect
