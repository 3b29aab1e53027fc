import SqlDialect.Proofs.Render.Binding

/-!
# Inlining scopes

Where values are inlined nothing is bound: neither a statement that defines tables nor the
limits on the rows of an OpenEdge query have parameters or markers, whatever values stand in
them and however deep.
-/

namespace SqlDialect

open Text

/-- The leaves of an expression are inlined just when the expression is. -/
theorem Expr.inline_of_mem_leaves {scope : Scope} {e : Expr} {leaf : Scope × Operand}
    (h : leaf ∈ e.leaves scope) :
  leaf.1.inline = scope.inline
  := by
  induction e using Expr.induction generalizing scope with
  | operand o =>
    obtain rfl := List.mem_singleton.mp h
    rfl
  | unary op argument ih => apply ih h
  | binary op left right ihl ihr =>
    obtain h | h := List.mem_append.mp h
    · apply ihl h
    · apply ihr h
  | cast argument target iha iht =>
    -- a conversion enters a clause of its own, which leaves the inlining as it is
    obtain h | h := List.mem_append.mp h
    · apply iha h
    · apply iht h
  | labelled argument label iha ihl =>
    rw [leaves] at h
    split at h
    · apply iha h
    · obtain h | h := List.mem_append.mp h
      · apply iha h
      · apply ihl h
  | currentTimestamp => cases h
  | currentDate => cases h
  | call name arguments ih =>
    rw [leaves, leavesOf_eq] at h
    obtain rfl | h := List.mem_cons.mp h
    · rfl
    · obtain ⟨e, he, h⟩ := List.mem_flatMap.mp h
      apply ih e he h
  | nextValue sequence => cases h

theorem Expr.inline_of_mem_optionLeaves {scope : Scope} {e : Option Expr}
    {leaf : Scope × Operand} (h : leaf ∈ optionLeaves scope e) :
  leaf.1.inline = scope.inline
  := by
  obtain ⟨e, -, h⟩ := List.mem_flatMap.mp h
  apply inline_of_mem_leaves h

/-- The leaves of the limits on the rows of an OpenEdge query are inlined. -/
theorem SelectQuery.inline_of_mem_paginationLeaves {scope : Scope} {q : SelectQuery}
    {leaf : Scope × Operand} (h : leaf ∈ q.paginationLeaves .openEdge scope) :
  leaf.1.inline
  := by
  have hinline : scope.inlining.inline = true := rfl
  cases hfetch : q.fetch with
  | none =>
    simp only [paginationLeaves, hfetch] at h
    obtain h | h := List.mem_append.mp h
    · rw [Expr.inline_of_mem_optionLeaves h, hinline]
    · rw [Expr.inline_of_mem_optionLeaves h, hinline]
  | some fetch =>
    simp only [paginationLeaves, hfetch] at h
    obtain h | h := List.mem_append.mp h
    · rw [Expr.inline_of_mem_optionLeaves h, hinline]
    · rw [Expr.inline_of_mem_leaves h, hinline]

/-- The statement defines, changes or removes a table. -/
inductive Statement.Defines : Statement → Prop
  | createTable (definition : TableDef) : Defines (.createTable definition)
  | addConstraint (constraint : Constraint) : Defines (.addConstraint constraint)
  | dropTable (table : Table) : Defines (.dropTable table)

/-- The leaves of a statement that defines tables are inlined. -/
theorem Statement.Defines.inline_of_mem_leaves {style : Style} {scope : Scope} {s : Statement}
    (hs : s.Defines) {leaf : Scope × Operand} (h : leaf ∈ s.leaves style scope) :
  leaf.1.inline
  := by
  cases hs with
  | createTable d =>
    obtain ⟨c, -, h⟩ := List.mem_flatMap.mp h
    rw [Expr.inline_of_mem_optionLeaves h]
    rfl
  | addConstraint c => cases h
  | dropTable t => cases h

/-! ## No parameters -/

/-- Where values are inlined no leaf is written as a marker. -/
theorem Operand.parameter?_pieces_of_inline (style : Style) {scope : Scope} (h : scope.inline)
    (leaf : Operand) :
  ∀ p ∈ leaf.pieces style scope, p.parameter? = none
  := by
  by_cases hbound : ∃ value, leaf = .bound value
  · obtain ⟨value, rfl⟩ := hbound
    have hvalue : ∀ p ∈ (inline value).pieces style scope, p.parameter? = none := by
      apply parameter?_pieces
      simp
    rw [pieces_inline] at hvalue
    rw [pieces_bound, if_pos h]
    apply hvalue
  · apply parameter?_pieces
    intro value hvalue
    apply hbound ⟨value, hvalue⟩

namespace Woven

variable {style : Style} {ls : List (Scope × Operand)} {ps : List Piece}

/-- What is woven from inlined leaves has no parameters. -/
theorem parametersOf_eq_nil (h : Woven style ls ps) (hinline : ∀ leaf ∈ ls, leaf.1.inline) :
  Piece.parametersOf ps = []
  := by
  rw [Piece.parametersOf, h.filterMap_eq (fun _ => rfl) (fun _ => rfl), List.flatMap_eq_nil_iff]
  intro leaf hleaf
  rw [List.filterMap_eq_nil_iff]
  apply Operand.parameter?_pieces_of_inline style (hinline leaf hleaf)

end Woven

theorem WovenClause.parametersOf_eq_nil {style : Style} {ls : List (Scope × Operand)}
    {ps : List Piece} (h : WovenClause style ls ps) (hinline : ∀ leaf ∈ ls, leaf.1.inline) :
  Piece.parametersOf ps = []
  := (Woven.nil.append_clause h).parametersOf_eq_nil hinline

/-- A definition of tables has no parameters, and no question marks outside of quoted tokens. -/
theorem Statement.Defines.binds_nothing {style : Style} {s : Statement} (hs : s.Defines)
    {query : CompiledQuery} (h : (style.compile s).result = .ok query) :
  query.parameters = []
    ∧ ((∀ text, .raw text ∈ s.operands → ∀ c ∈ text.toList, c ≠ '?' ∧ isMark c = false) →
      ∃ lexemes, scan query.sql.toList = some lexemes ∧ .bare '?' ∉ lexemes)
  := by
  obtain ⟨ps, hps, -, -, rfl⟩ := Attempt.result_compiled_eq_ok.mp h
  have hparameters : Piece.parametersOf ps = [] :=
    (Statement.woven hps).parametersOf_eq_nil fun _ => hs.inline_of_mem_leaves
  use hparameters
  intro hraw
  have hparted : Parted (Piece.Usual (.raw · ∈ s.operands) fun _ => True) ps := by
    apply Statement.parted hps
    intro leaf hleaf text htext
    rw [← htext]
    apply Statement.mem_operands_of_mem_leaves hleaf
  have hscan := hparted.scan_textOf fun text htext c hc => (hraw text htext c hc).2
  have hasks := hparted.not_asks fun text htext hmem => (hraw text htext '?' hmem).1 rfl
  use Piece.lexemesOf ps, hscan
  rw [← List.count_eq_zero, Piece.count_lexemesOf hasks, hparameters, List.length_nil]

/-- The query without limits on its rows. -/
def SelectQuery.unlimited (q : SelectQuery) : SelectQuery :=
  { q with limit := none, offset := none, fetch := none }

theorem SelectQuery.attempt_unlimited {style : Style} {scope : Scope} {q : SelectQuery}
    (h : q.columns ≠ []) :
  q.unlimited.attempt style scope = .ok (q.bodyPieces style scope.qualifying)
  := by
  have hcolumns : q.unlimited.columns.isEmpty = false := by simpa [unlimited] using h
  have hbody : q.unlimited.bodyPieces style scope.qualifying
      = q.bodyPieces style scope.qualifying := rfl
  rw [attempt, hcolumns, hbody]
  apply Attempt.ok_append_eq_ok.mpr
  use [], rfl
  rw [List.append_nil]

/-- Without its limits an OpenEdge query has the same parameters, and its SQL ends where the limits
begin. -/
theorem SelectQuery.compile_unlimited {q : SelectQuery} {query : CompiledQuery}
    (h : (Style.openEdge.compile (.select q)).result = .ok query) :
  ∃ sql limits,
    (Style.openEdge.compile (.select q.unlimited)).result = .ok ⟨sql, query.parameters⟩
      ∧ q.paginationAttempt .openEdge .pagination = .ok limits
      ∧ query.sql = sql ++ Piece.textOf limits
  := by
  obtain ⟨ps, hps, hmoment, hfailure, rfl⟩ := Attempt.result_compiled_eq_ok.mp h
  obtain ⟨hcolumns, hwritten⟩ := Attempt.checked_eq_ok.mp hps
  obtain ⟨limits, hlimits, rfl⟩ := Attempt.ok_append_eq_ok.mp hwritten
  have hparameters : Piece.parametersOf limits = [] :=
    (paginationAttempt_woven hlimits).parametersOf_eq_nil fun _ => inline_of_mem_paginationLeaves
  have hne : q.columns ≠ [] := by simpa using hcolumns
  rw [Piece.momentOf?, List.findSome?_append, Option.or_eq_none_iff] at hmoment
  rw [Piece.failureOf?, List.findSome?_append, Option.or_eq_none_iff] at hfailure
  refine ⟨Piece.textOf (q.bodyPieces .openEdge (Scope.qualifying {})), limits, ?_, hlimits, ?_⟩
  · apply Attempt.result_compiled_eq_ok.mpr
    refine ⟨_, attempt_unlimited hne, hmoment.1, hfailure.1, ?_⟩
    rw [Piece.parametersOf, List.filterMap_append, ← Piece.parametersOf, ← Piece.parametersOf,
      hparameters, List.append_nil]
  · apply Piece.textOf_append

theorem SelectQuery.limits_bind_nothing {q : SelectQuery} {query : CompiledQuery}
    (h : (Style.openEdge.compile (.select q)).result = .ok query) :
  ∃ sql limits,
    (Style.openEdge.compile (.select q.unlimited)).result = .ok ⟨sql, query.parameters⟩
      ∧ query.sql = sql ++ limits
  := by
  obtain ⟨sql, limits, hcompiled, -, hsql⟩ := compile_unlimited h
  use sql, Piece.textOf limits

/-- Definitions of tables bind nothing in any style, and the limits on the rows of a query bind
nothing in OpenEdge. -/
theorem definitions_and_limits_bind_nothing :
  (∀ (style : Style) (s : Statement) (query : CompiledQuery), s.Defines →
      (style.compile s).result = .ok query →
      query.parameters = []
        ∧ ((∀ text, .raw text ∈ s.operands → ∀ c ∈ text.toList, c ≠ '?' ∧ isMark c = false) →
          ∃ lexemes, scan query.sql.toList = some lexemes ∧ .bare '?' ∉ lexemes))
    ∧ ∀ (q : SelectQuery) (query : CompiledQuery),
      (Style.openEdge.compile (.select q)).result = .ok query →
      ∃ sql limits,
        (Style.openEdge.compile (.select q.unlimited)).result = .ok ⟨sql, query.parameters⟩
          ∧ query.sql = sql ++ limits
  := by
  constructor
  · intro style s query hs h
    apply hs.binds_nothing h
  · intro q query h
    apply q.limits_bind_nothing h

/-- Bales whose grade is a conversion of a bound value inside a call when none is given. -/
def bales : Statement :=
  .createTable
    { table := { name := "bales" }
      columns :=
        [{ name := "grade", type := .varchar (some 8)
           default := some (.call "UPPER"
            [.cast (.operand (.bound (.varchar (some "a?"))))
              (.operand (.type (.varchar (some 8))))]) },
          { name := "kilos", type := .integer
            default := some (.binary .add (.operand (.bound (.integer (some 200))))
              (.operand (.bound (.integer (some 15))))) }] }

/-- The bales of a grade, as many as a bound sum says. -/
def balesGraded : SelectQuery where
  columns := [.operand .asterisk]
  source := some { name := "bales" }
  condition := some (.binary .equal (.operand (.column { name := "grade" }))
    (.operand (.bound (.varchar (some "A")))))
  fetch := some
    { count := .binary .add (.operand (.bound (.integer (some 5))))
        (.operand (.bound (.integer (some 1)))) }

theorem definitions_and_limits_bind_nothing_bales :
  (∃ query lexemes, (Style.generic.compile bales).result = .ok query ∧ query.parameters = []
      ∧ scan query.sql.toList = some lexemes ∧ .bare '?' ∉ lexemes)
    ∧ ∃ sql, (Style.openEdge.compile (.select balesGraded.unlimited)).result
      = .ok ⟨sql, [.varchar (some "A")]⟩
  := by
  obtain ⟨hdefinitions, hlimits⟩ := definitions_and_limits_bind_nothing
  constructor
  · have hcompiled : (Style.generic.compile bales).result
        = .ok ⟨"CREATE TABLE bales (\ngrade VARCHAR(8) DEFAULT UPPER(CAST('a?' AS VARCHAR(8))),"
          ++ "\nkilos INTEGER DEFAULT 200 + 15\n)", []⟩ := by decide +kernel
    obtain ⟨hparameters, hscan⟩ := hdefinitions .generic bales _ (.createTable _) hcompiled
    obtain ⟨lexemes, hlexemes, hmarkers⟩ := hscan (by
      intro text htext
      obtain rfl : text = "UPPER" := by
        simpa [bales, Statement.operands, Statement.exprs, Expr.operands,
          Expr.operandsOf] using htext
      simp [isMark])
    exact ⟨_, lexemes, hcompiled, hparameters, hlexemes, hmarkers⟩
  · have hcompiled : (Style.openEdge.compile (.select balesGraded)).result
        = .ok ⟨"SELECT *\nFROM bales\nWHERE grade = ?\n FETCH FIRST 5 + 1 ROWS ONLY",
          [.varchar (some "A")]⟩ := by decide +kernel
    obtain ⟨sql, -, hsql, -⟩ := hlimits balesGraded _ hcompiled
    use sql, hsql

end SqlDialect
