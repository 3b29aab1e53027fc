import SqlDialect.Proofs.Render.Attempt
import SqlDialect.Proofs.Render.SqlText
import SqlDialect.Proofs.Render.Written

/-!
# Composed renderings

A rendering is composed of expressions when it consists of what these expressions write, in
order, and of phrases and names, such that any two parts with a text are parted by a phrase.
Every statement that is written as a whole is composed of its expressions.
-/

namespace SqlDialect

/-- A text that parts what stands on its two sides. -/
def isPhrase (text : String) : Bool :=
  text ≠ "" && isWording text

/-- The pieces write the expressions in order, parted by phrases. -/
inductive Composed (style : Style) : List (Scope × Expr) → List Piece → Prop
  | nil : Composed style [] []
  | text {text : String} (h : isWording text) : Composed style [] [.plain text]
  | name (content : String) : Composed style [] [.quoted '"' content]
  | expr (scope : Scope) (e : Expr) : Composed style [(scope, e)] (e.pieces style scope)
  | join {text : String} {ls ms : List (Scope × Expr)} {ps qs : List Piece}
    (h : isPhrase text) (hps : Composed style ls ps) (hqs : Composed style ms qs) :
    Composed style (ls ++ ms) (ps ++ .plain text :: qs)
  | beside {ls ms : List (Scope × Expr)} {ps qs : List Piece}
    (h : Piece.textOf ps = "" ∨ Piece.textOf qs = "")
    (hps : Composed style ls ps) (hqs : Composed style ms qs) :
    Composed style (ls ++ ms) (ps ++ qs)

/-- Either nothing, or a phrase in front of something composed. -/
inductive ComposedClause (style : Style) : List (Scope × Expr) → List Piece → Prop
  | nothing : ComposedClause style [] []
  | keyword {text : String} {ls : List (Scope × Expr)} {ps : List Piece}
    (h : isPhrase text) (hps : Composed style ls ps) : ComposedClause style ls (.plain text :: ps)

namespace Composed

variable {style : Style} {ls ms : List (Scope × Expr)} {ps qs : List Piece} {text : String}

/-- A phrase may stand in front. -/
theorem phrase_cons (h : isPhrase text) (hps : Composed style ls ps) :
  Composed style ls (.plain text :: ps)
  := join h nil hps

/-- Something composed of no expressions may stand in front. -/
theorem names_join (h : isPhrase text) (hps : Composed style [] ps) (hqs : Composed style ms qs) :
  Composed style ms (ps ++ .plain text :: qs)
  := join h hps hqs

/-- A phrase may stand behind. -/
theorem append_phrase (h : isPhrase text) (hps : Composed style ls ps) :
  Composed style ls (ps ++ [.plain text])
  := by
  rw [← List.append_nil ls]
  apply join h hps nil

/-- Wording may stand behind. -/
theorem append_text (h : isWording text) (hps : Composed style ls ps) :
  Composed style ls (ps ++ [.plain text])
  := by
  by_cases hempty : text = ""
  · subst hempty
    rw [← List.append_nil ls]
    apply beside (.inr rfl) hps (Composed.text h)
  · apply append_phrase _ hps
    simp [isPhrase, hempty, h]

/-- A clause may stand behind, with its expressions behind the others. -/
theorem append_clause (hps : Composed style ls ps) (hqs : ComposedClause style ms qs) :
  Composed style (ls ++ ms) (ps ++ qs)
  := by
  cases hqs with
  | nothing =>
    rw [List.append_nil, List.append_nil]
    apply hps
  | keyword h hqs => apply join h hps hqs

/-- A clause may stand behind what has no expressions. -/
theorem names_append_clause (hps : Composed style [] ps) (hqs : ComposedClause style ms qs) :
  Composed style ms (ps ++ qs)
  := append_clause hps hqs

/-- Renderings in a row are composed when each of them is. -/
theorem separated {α : Type} {separator : String} (h : isPhrase separator)
    {places : α → List (Scope × Expr)} {pieces : α → List Piece} (items : List α)
    (hitems : ∀ x ∈ items, Composed style (places x) (pieces x)) :
  Composed style (items.flatMap places) (Piece.separated separator (items.map pieces))
  := Piece.separated_induction nil (join h) (fun hempty => beside (.inl hempty)) items hitems

/-- Expressions in a row are composed. -/
theorem exprs {separator : String} (h : isPhrase separator) (scope : Scope) (es : List Expr) :
  Composed style (Expr.placed scope es)
    (Piece.separated separator (es.map (Expr.pieces style scope)))
  := by
  rw [Expr.placed, List.map_eq_flatMap]
  apply separated h
  intro e _
  apply expr

/-! ## Names -/

/-- An identifier is a name or a quoted token, and no expression. -/
theorem identifier (style : Style) (name : String) :
  Composed style [] [style.identifier name]
  := by
  rw [Style.identifier]
  split
  · apply Composed.name
  next h =>
    have hbare : style.needsQuotes name = false := by simpa using h
    apply Composed.text (isWording_of_needsQuotes hbare)

/-- The identifier of an owner adds no expression. -/
theorem qualifiedBy (owner : String) (hps : Composed style [] ps) :
  Composed style [] (style.qualifiedBy owner ps)
  := by
  rw [Style.qualifiedBy]
  split
  · apply hps
  · apply join (by decide) (identifier style owner) hps

/-- A table is composed of names alone. -/
theorem tablePieces (style : Style) (scope : Scope) (t : Table) :
  Composed style [] (t.pieces style scope)
  := by
  have hname : Composed style [] (style.qualifiedBy t.schema [style.identifier t.name]) :=
    qualifiedBy t.schema (identifier style t.name)
  rw [Table.pieces]
  split
  · apply hname
  · split
    · apply join (by decide) hname (identifier style t.label)
    · apply identifier

/-- A column is composed of names alone. -/
theorem columnPieces (style : Style) (scope : Scope) (c : Column) :
  Composed style [] (c.pieces style scope)
  := by
  have hname := identifier style c.name
  rw [Column.pieces]
  split
  · apply qualifiedBy
    apply qualifiedBy _ hname
  · apply hname

/-- The next value of a sequence is composed of names and phrases. -/
theorem nextValuePieces (style : Style) (sequence : Sequence) :
  Composed style [] (sequence.nextValuePieces style)
  := by
  have hname : Composed style [] (sequence.namePieces style) :=
    qualifiedBy _ (identifier style sequence.name)
  cases style with
  | standard needed => apply phrase_cons (by decide) hname
  | openEdge => apply append_phrase (by decide) hname

/-- Identifiers in a row are composed of names alone. -/
theorem identifiers (style : Style) (names : List String) :
  Composed style [] (Piece.separated ", " (names.map fun name => [style.identifier name]))
  := by
  have hnames : Composed style (names.flatMap fun _ => [])
      (Piece.separated ", " (names.map fun name => [style.identifier name])) := by
    apply separated (by decide)
    intro name _
    apply identifier
  rw [List.flatMap_eq_nil_iff.mpr (fun _ _ => rfl)] at hnames
  apply hnames

/-- Names in parentheses are composed of names alone. -/
theorem nameList (style : Style) (names : List String) :
  Composed style [] (style.nameList names)
  := by
  apply append_phrase (by decide)
  apply phrase_cons (by decide) (identifiers style names)

end Composed

namespace ComposedClause

variable {style : Style} {ls ms : List (Scope × Expr)} {ps qs : List Piece}

/-- A clause may stand behind a clause. -/
theorem append (hps : ComposedClause style ls ps) (hqs : ComposedClause style ms qs) :
  ComposedClause style (ls ++ ms) (ps ++ qs)
  := by
  cases hps with
  | nothing => apply hqs
  | keyword h hps => apply keyword h (hps.append_clause hqs)

/-- A clause composed of no expressions may stand in front. -/
theorem names_append (hps : ComposedClause style [] ps) (hqs : ComposedClause style ms qs) :
  ComposedClause style ms (ps ++ qs)
  := append hps hqs

end ComposedClause

/-! ## Queries -/

namespace Expr

/-- What is written of a row count is written of its expression. -/
theorem countAttempt_eq_ok {style : Style} {scope : Scope} {clause : String} {e : Expr}
    {ps : List Piece} (h : e.countAttempt style scope clause = .ok ps) :
  e.pieces style scope = ps
  := by
  obtain ⟨-, hwritten⟩ := Attempt.checked_eq_ok.mp h
  obtain ⟨ys, hblank, hps⟩ := Attempt.ok_append_eq_ok.mp hwritten
  obtain ⟨-, hys⟩ := Attempt.checked_eq_ok.mp hblank
  rw [← hps, ← Attempt.ok_inj.mp hys, List.append_nil]

/-- A clause with a row count is composed of the count. -/
theorem clauseAttempt_composed {style : Style} {scope : Scope} {start clause finish : String}
    {count : Option Expr} {ps : List Piece} (hstart : isPhrase start) (hfinish : isWording finish)
    (h : clauseAttempt style scope start clause finish count = .ok ps) :
  ComposedClause style (placed scope count.toList) ps
  := by
  cases count with
  | none =>
    obtain rfl := Attempt.ok_inj.mp h
    apply ComposedClause.nothing
  | some e =>
    obtain ⟨xs, ys, hxs, hys, rfl⟩ := Attempt.append_eq_ok.mp h
    obtain ⟨zs, hzs, rfl⟩ := Attempt.ok_append_eq_ok.mp hxs
    obtain rfl := countAttempt_eq_ok hzs
    obtain rfl := Attempt.ok_inj.mp hys
    apply ComposedClause.keyword hstart
    apply Composed.append_text hfinish (Composed.expr scope e)

end Expr

/-- The OFFSET clause is composed of its count. -/
theorem offsetAttempt_composed {style : Style} {scope : Scope} {start : String} {needed : Bool}
    {offset : Option Expr} {ps : List Piece} (hstart : isPhrase start)
    (hdefault : isPhrase (start ++ "0 ROWS"))
    (h : offsetAttempt style scope start needed offset = .ok ps) :
  ComposedClause style (Expr.placed scope offset.toList) ps
  := by
  cases offset with
  | some e =>
    change Expr.clauseAttempt style scope start "OFFSET" " ROWS" (some e) = .ok ps at h
    apply Expr.clauseAttempt_composed hstart (by decide) h
  | none =>
    obtain rfl := Attempt.ok_inj.mp h
    cases needed with
    | false => apply ComposedClause.nothing
    | true => apply ComposedClause.keyword hdefault Composed.nil

/-- The WHERE clause is composed of its condition. -/
theorem wherePieces_composed (style : Style) (scope : Scope) (condition : Option Expr) :
  ComposedClause style (Expr.placed scope condition.toList) (wherePieces style scope condition)
  := by
  cases condition with
  | none => apply ComposedClause.nothing
  | some e =>
    apply ComposedClause.keyword (by decide) (Composed.expr scope e)

namespace SelectQuery

/-- The clauses for a limit and an offset are composed of both counts. -/
theorem limitAttempt_composed {style : Style} {scope : Scope} {q : SelectQuery} {ps : List Piece}
    (hfetch : q.fetch = none) (h : q.limitAttempt style scope = .ok ps) :
  ComposedClause style (q.paginationPlaced style scope) ps
  := by
  cases style with
  | standard needed =>
    obtain ⟨xs, ys, hxs, hys, rfl⟩ := Attempt.append_eq_ok.mp h
    simp only [paginationPlaced, hfetch]
    apply ComposedClause.append
    · apply Expr.clauseAttempt_composed (by decide) (by decide) hxs
    · apply Expr.clauseAttempt_composed (by decide) (by decide) hys
  | openEdge =>
    obtain ⟨xs, ys, hxs, hys, rfl⟩ := Attempt.append_eq_ok.mp h
    simp only [paginationPlaced, hfetch]
    apply ComposedClause.append
    · apply offsetAttempt_composed (by decide) (by decide) hxs
    · apply Expr.clauseAttempt_composed (by decide) (by decide) hys

/-- What a fetch clause ends with is wording. -/
theorem isWording_fetchEnd (fetch : FetchClause) :
  isWording (fetchEnd fetch)
  := by
  rw [fetchEnd, isWording_append, Bool.and_eq_true]
  constructor
  · split <;> rfl
  · split <;> rfl

/-- The clauses for a fetch clause and an offset are composed of both counts. -/
theorem fetchAttempt_composed {style : Style} {scope : Scope} {needsOffset : Bool} {q : SelectQuery}
    {fetch : FetchClause} {ps : List Piece} (hfetch : q.fetch = some fetch)
    (h : q.fetchAttempt style scope needsOffset = .ok ps) :
  ComposedClause style (q.paginationPlaced style scope) ps
  := by
  cases style with
  | standard needed =>
    simp only [fetchAttempt, hfetch] at h
    obtain ⟨xs, ys, hxs, hys, rfl⟩ := Attempt.append_eq_ok.mp h
    simp only [paginationPlaced, hfetch]
    apply ComposedClause.append
    · apply offsetAttempt_composed (by decide) (by decide) hxs
    · apply Expr.clauseAttempt_composed (by decide) (isWording_fetchEnd fetch) hys
  | openEdge =>
    simp only [fetchAttempt, hfetch] at h
    obtain ⟨-, hwritten⟩ := Attempt.checked_eq_ok.mp h
    obtain ⟨xs, ys, hxs, hys, rfl⟩ := Attempt.append_eq_ok.mp hwritten
    simp only [paginationPlaced, hfetch]
    apply ComposedClause.append
    · apply offsetAttempt_composed (by decide) (by decide) hxs
    · apply Expr.clauseAttempt_composed (by decide) (by decide) hys

/-- The limits on the rows of a query are composed of their counts. -/
theorem paginationAttempt_composed {style : Style} {scope : Scope} {q : SelectQuery}
    {ps : List Piece} (h : q.paginationAttempt style scope = .ok ps) :
  ComposedClause style (q.paginationPlaced style scope) ps
  := by
  rw [paginationAttempt] at h
  split at h
  · cases Attempt.fail_ne_ok _ _ h
  next fetch offset hfetch hlimit => apply fetchAttempt_composed hfetch h
  next hfetch hlimit hoffset =>
    obtain rfl := Attempt.ok_inj.mp h
    cases style with
    | standard needed =>
      simp only [paginationPlaced, hfetch, hlimit, hoffset]
      apply ComposedClause.nothing
    | openEdge =>
      simp only [paginationPlaced, hfetch, hlimit, hoffset]
      apply ComposedClause.nothing
  next hfetch _ => apply limitAttempt_composed hfetch h

/-- The source of a query is composed of names alone. -/
theorem sourcePieces_composed (style : Style) (scope : Scope) (q : SelectQuery) :
  ComposedClause style [] (q.sourcePieces style scope)
  := by
  rw [sourcePieces]
  split
  · apply ComposedClause.keyword (by decide)
    apply Composed.tablePieces
  · cases style with
    | standard needed => apply ComposedClause.nothing
    | openEdge =>
      rw [withoutSourcePieces]
      split
      · apply ComposedClause.nothing
      · apply ComposedClause.keyword (by decide) Composed.nil

/-- The ORDER BY clause is composed of its keys. -/
theorem orderPieces_composed (style : Style) (scope : Scope) (q : SelectQuery) :
  ComposedClause style
    (Expr.placed (scope.entering .selectOrderBy) (q.orderBy.map (·.expr)))
    (q.orderPieces style scope)
  := by
  rw [orderPieces]
  split
  next h =>
    rw [h]
    apply ComposedClause.nothing
  next keys _ =>
    rw [Expr.placed, List.map_map, List.map_eq_flatMap]
    apply ComposedClause.keyword (by decide)
    apply Composed.separated (by decide)
    intro key _
    rw [OrderKey.pieces]
    split
    · apply Composed.append_phrase (by decide) (Composed.expr _ key.expr)
    · apply Composed.append_phrase (by decide) (Composed.expr _ key.expr)

/-- A query up to the limits on its rows is composed of its expressions up to there. -/
theorem bodyPieces_composed (style : Style) (scope : Scope) (q : SelectQuery) :
  Composed style
    (Expr.placed (scope.entering .select) q.columns
      ++ Expr.placed (scope.entering .selectWhere) q.condition.toList
      ++ Expr.placed (scope.entering .selectOrderBy) (q.orderBy.map (·.expr)))
    (q.bodyPieces style scope)
  := by
  have hcolumns : Composed style (Expr.placed (scope.entering .select) q.columns)
      (.plain "SELECT " :: Piece.separated ", "
        (q.columns.map (Expr.pieces style (scope.entering .select)))) :=
    Composed.phrase_cons (by decide) (Composed.exprs (by decide) _ q.columns)
  have hsource := hcolumns.append_clause (q.sourcePieces_composed style scope)
  rw [List.append_nil] at hsource
  rw [bodyPieces]
  apply Composed.append_clause _ (q.orderPieces_composed style scope)
  apply hsource.append_clause (wherePieces_composed style _ q.condition)

/-- A query is composed of its expressions, each in its part of the query. -/
theorem attempt_composed {style : Style} {scope : Scope} {q : SelectQuery} {ps : List Piece}
    (h : q.attempt style scope = .ok ps) :
  Composed style (q.placed style scope) ps
  := by
  obtain ⟨-, h⟩ := Attempt.checked_eq_ok.mp h
  obtain ⟨tail, htail, rfl⟩ := Attempt.ok_append_eq_ok.mp h
  apply (q.bodyPieces_composed style scope.qualifying).append_clause
  apply paginationAttempt_composed htail

end SelectQuery

/-! ## Changes of rows -/

/-- An insertion is composed of the values in its rows. -/
theorem InsertQuery.attempt_composed {style : Style} {scope : Scope} {q : InsertQuery}
    {ps : List Piece} (h : q.attempt style scope = .ok ps) :
  Composed style ((Statement.insert q).placed style scope) ps
  := by
  obtain ⟨-, h⟩ := Attempt.checked_eq_ok.mp h
  obtain rfl := Attempt.ok_inj.mp h
  have hcolumns := Composed.identifiers style q.columns
  have hrows : Composed style (q.rows.flatMap (Expr.placed (scope.entering .insertValues)))
      (Piece.separated ",\n" (q.rows.map (rowPieces style (scope.entering .insertValues)))) := by
    apply Composed.separated (by decide)
    intro row _
    apply Composed.append_phrase (by decide)
    apply Composed.phrase_cons (by decide)
    apply Composed.exprs (by decide)
  apply Composed.names_join (by decide) _ hrows
  apply Composed.names_join (by decide) _ (Composed.phrase_cons (by decide) hcolumns)
  apply Composed.phrase_cons (by decide)
  apply Composed.tablePieces

/-- An update is composed of the assigned values and of its condition. -/
theorem UpdateQuery.attempt_composed {style : Style} {scope : Scope} {q : UpdateQuery}
    {ps : List Piece} (h : q.attempt style scope = .ok ps) :
  Composed style ((Statement.update q).placed style scope) ps
  := by
  obtain ⟨-, h⟩ := Attempt.checked_eq_ok.mp h
  obtain rfl := Attempt.ok_inj.mp h
  apply Composed.append_clause _ (wherePieces_composed style _ q.condition)
  rw [Expr.placed, List.map_map, List.map_eq_flatMap]
  apply Composed.names_join (by decide)
  · apply Composed.phrase_cons (by decide)
    apply Composed.tablePieces
  · apply Composed.separated (by decide)
    intro assignment _
    apply Composed.names_join (by decide) (Composed.identifier style assignment.1)
    apply Composed.expr

/-- A deletion is composed of its condition. -/
theorem DeleteQuery.attempt_composed {style : Style} {scope : Scope} {q : DeleteQuery}
    {ps : List Piece} (h : q.attempt style scope = .ok ps) :
  Composed style ((Statement.delete q).placed style scope) ps
  := by
  obtain rfl := Attempt.ok_inj.mp h
  apply Composed.names_append_clause _ (wherePieces_composed style _ q.condition)
  apply Composed.phrase_cons (by decide)
  apply Composed.tablePieces

/-! ## Definitions -/

/-- What stands behind the type of a column is composed of its default. -/
theorem ColumnDef.behindType_composed (style : Style) (scope : Scope) (c : ColumnDef) :
  ComposedClause style (Expr.placed scope.inlining c.default.toList)
    ((if c.nullable then [] else [.plain " NOT NULL"]) ++ match c.default with
      | some value => .plain " DEFAULT " :: value.pieces style scope.inlining
      | none => [])
  := by
  have hnull : ComposedClause style [] (if c.nullable then [] else [.plain " NOT NULL"]) := by
    split
    · apply ComposedClause.nothing
    · apply ComposedClause.keyword (by decide) Composed.nil
  apply hnull.append
  split
  next value hvalue =>
    rw [hvalue]
    apply ComposedClause.keyword (by decide) (Composed.expr scope.inlining value)
  next hvalue =>
    rw [hvalue]
    apply ComposedClause.nothing

/-- A column of a table definition is composed of its default. -/
theorem ColumnDef.attempt_composed {style : Style} {scope : Scope} {c : ColumnDef} {ps : List Piece}
    (h : c.attempt style scope = .ok ps) :
  Composed style (Expr.placed scope.inlining c.default.toList) ps
  := by
  obtain ⟨xs, ys, hxs, hys, rfl⟩ := Attempt.append_eq_ok.mp h
  obtain ⟨zs, hzs, rfl⟩ := Attempt.ok_append_eq_ok.mp hxs
  obtain rfl := Attempt.ok_inj.mp hys
  have hname : Composed style [] ([style.identifier c.name, .plain " "] ++ zs) := by
    rw [Style.typeAttempt] at hzs
    split at hzs
    next name htype =>
      obtain rfl := Attempt.ok_inj.mp hzs
      apply Composed.names_join (by decide) (Composed.identifier style c.name)
      apply Composed.text (isWording_typeName htype)
    · cases Attempt.fail_ne_ok _ _ hzs
  apply Composed.names_append_clause hname (c.behindType_composed style scope)

/-- What is done on deletion is wording. -/
theorem isWording_deleteAction (action : DeleteAction) :
  isWording action.text
  := by
  cases action <;> rfl

/-- What a constraint demands is composed of names alone. -/
theorem ConstraintKind.attempt_composed {style : Style} {scope : Scope} {table : Table}
    {columns : List String} {kind : ConstraintKind} {ps : List Piece}
    (h : kind.attempt style scope table columns = .ok ps) :
  ComposedClause style [] ps
  := by
  have hcolumns := Composed.nameList style columns
  cases kind with
  | primaryKey =>
    obtain rfl := Attempt.ok_inj.mp h
    apply ComposedClause.keyword (by decide) hcolumns
  | unique =>
    obtain rfl := Attempt.ok_inj.mp h
    apply ComposedClause.keyword (by decide) hcolumns
  | foreignKey references referenced onDelete =>
    obtain ⟨-, hwritten⟩ := Attempt.checked_eq_ok.mp h
    obtain rfl := Attempt.ok_inj.mp hwritten
    apply ComposedClause.names_append
    · apply ComposedClause.names_append
      · apply ComposedClause.names_append
        · apply ComposedClause.keyword (by decide) hcolumns
        · apply ComposedClause.keyword (by decide)
          apply Composed.tablePieces
      · apply ComposedClause.keyword (by decide)
        apply Composed.nameList
    · cases onDelete with
      | none => apply ComposedClause.nothing
      | some action =>
        apply ComposedClause.keyword (by decide)
        apply Composed.text (isWording_deleteAction action)

/-- A constraint is composed of names alone. -/
theorem Constraint.attempt_composed {style : Style} {scope : Scope} {c : Constraint}
    {ps : List Piece} (h : c.attempt style scope = .ok ps) :
  ComposedClause style [] ps
  := by
  obtain ⟨-, hwritten⟩ := Attempt.checked_eq_ok.mp h
  obtain ⟨ys, hys, rfl⟩ := Attempt.ok_append_eq_ok.mp hwritten
  have hkind := ConstraintKind.attempt_composed hys
  split
  next name _ =>
    apply ComposedClause.keyword (by decide)
    change Composed style [] ([style.identifier name] ++ .plain " " :: ys)
    apply Composed.names_join (by decide) (Composed.identifier style name)
    apply Composed.names_append_clause Composed.nil hkind
  · apply hkind

/-- The constraints of a table definition are composed of names alone. -/
theorem TableDef.constraintsAttempt_composed {style : Style} {scope : Scope}
    {constraints : List Constraint} {ps : List Piece}
    (h : constraintsAttempt style scope constraints = .ok ps) :
  ComposedClause style [] ps
  := by
  induction constraints generalizing ps with
  | nil =>
    obtain rfl := Attempt.ok_inj.mp h
    apply ComposedClause.nothing
  | cons c rest ih =>
    obtain ⟨xs, ys, hxs, hys, rfl⟩ := Attempt.append_eq_ok.mp h
    obtain ⟨zs, hzs, rfl⟩ := Attempt.ok_append_eq_ok.mp hxs
    apply ComposedClause.keyword (by decide)
    apply Composed.names_append_clause _ (ih hys)
    apply Composed.names_append_clause Composed.nil (Constraint.attempt_composed hzs)

/-- A table definition is composed of the defaults of its columns. -/
theorem TableDef.attempt_composed {style : Style} {scope : Scope} {d : TableDef} {ps : List Piece}
    (h : d.attempt style scope = .ok ps) :
  Composed style ((Statement.createTable d).placed style scope) ps
  := by
  obtain ⟨-, hwritten⟩ := Attempt.checked_eq_ok.mp h
  obtain ⟨xs, ys, hxs, hys, rfl⟩ := Attempt.append_eq_ok.mp hwritten
  obtain ⟨us, vs, hus, hvs, rfl⟩ := Attempt.append_eq_ok.mp hxs
  obtain ⟨zs, hzs, rfl⟩ := Attempt.ok_append_eq_ok.mp hus
  obtain rfl := Attempt.ok_inj.mp hys
  obtain ⟨hcolumns, rfl⟩ := Attempt.separated_map_eq_ok hzs
  apply Composed.append_phrase (by decide)
  have hconstraints := constraintsAttempt_composed hvs
  rw [Statement.placed, ← List.append_nil (List.flatMap _ _)]
  apply Composed.append_clause _ hconstraints
  rw [List.append_assoc]
  apply Composed.names_join (by decide)
  · apply Composed.phrase_cons (by decide)
    apply Composed.tablePieces
  · apply Composed.separated (by decide)
    intro c hc
    apply ColumnDef.attempt_composed (hcolumns c hc)

/-- The addition of a constraint is composed of names alone. -/
theorem Constraint.additionAttempt_composed {style : Style} {scope : Scope} {c : Constraint}
    {ps : List Piece} (h : c.additionAttempt style scope = .ok ps) :
  Composed style [] ps
  := by
  obtain ⟨ys, hys, rfl⟩ := Attempt.ok_append_eq_ok.mp h
  apply Composed.names_append_clause _ (Constraint.attempt_composed hys)
  apply Composed.append_phrase (by decide)
  apply Composed.phrase_cons (by decide)
  apply Composed.tablePieces

/-! ## Statements -/

/-- A style may give a constraint a name, and changes nothing else about it. -/
theorem Constraint.prepared_eq (style : Style) (c : Constraint) :
  ∃ name, c.prepared style = { c with name }
  := by
  cases style with
  | standard needed => exact ⟨c.name, rfl⟩
  | openEdge =>
    rw [prepared, named]
    split
    · exact ⟨c.name, rfl⟩
    · exact ⟨_, rfl⟩

namespace Statement

/-- The names of constraints add no expressions. -/
theorem placed_prepared (style : Style) (scope : Scope) (s : Statement) :
  (s.prepared style).placed style scope = s.placed style scope
  := by
  cases s with
  | createTable d =>
    rw [prepared]
    split <;> rfl
  | _ => rfl

/-- The names of constraints are no expressions of the statement. -/
theorem exprs_prepared (style : Style) (s : Statement) :
  (s.prepared style).exprs = s.exprs
  := by
  cases s with
  | createTable d =>
    rw [prepared]
    split <;> rfl
  | _ => rfl

/-- A statement that is written as a whole is composed of its expressions. -/
theorem composed {style : Style} {scope : Scope} {s : Statement} {ps : List Piece}
    (h : s.attempt style scope = .ok ps) :
  Composed style (s.placed style scope) ps
  := by
  rw [← placed_prepared]
  rw [attempt] at h
  cases hs : s.prepared style with
  | select q =>
    rw [hs] at h
    apply SelectQuery.attempt_composed h
  | insert q =>
    rw [hs] at h
    apply InsertQuery.attempt_composed h
  | update q =>
    rw [hs] at h
    apply UpdateQuery.attempt_composed h
  | delete q =>
    rw [hs] at h
    apply DeleteQuery.attempt_composed h
  | createTable d =>
    rw [hs] at h
    apply TableDef.attempt_composed h
  | dropTable t =>
    rw [hs] at h
    obtain rfl := Attempt.ok_inj.mp h
    apply Composed.phrase_cons (by decide)
    apply Composed.tablePieces
  | addConstraint c =>
    rw [hs] at h
    apply Constraint.additionAttempt_composed h

end Statement

end SqlDialect
