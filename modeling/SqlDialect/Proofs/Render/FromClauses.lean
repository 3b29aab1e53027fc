import SqlDialect.Proofs.Render.Sources

/-!
# The FROM clauses of statements

How many FROM clauses a statement of OpenEdge has, and where they stand.  Queries and
deletions have one of their own, and every next value of a sequence that is written anywhere
in a statement brings another one.  A query only leaves its own out when one of its columns
is a next value.
-/

namespace SqlDialect

open Text

/-! ## Counting next values -/

/-- How many next values are written of a query. -/
def SelectQuery.nextValues (q : SelectQuery) : Nat :=
  Expr.nextValuesOf false q.columns + Expr.nextValuesOf false q.condition.toList
    + Expr.nextValuesOf true (q.orderBy.map (·.expr)) + Expr.nextValuesOf false q.offset.toList
    + Expr.nextValuesOf false q.limit.toList
    + Expr.nextValuesOf false (q.fetch.map (·.count)).toList

namespace Statement

/-- How many next values are written of a statement. -/
def nextValues : Statement → Nat
  | select q => q.nextValues
  | s => Expr.nextValuesOf false s.exprs

/-- How many FROM clauses a statement has of its own. -/
def ownFroms : Statement → Nat
  | select q => if q.source = none ∧ q.columns.any Expr.isNextValue then 0 else 1
  | delete _ => 1
  | _ => 0

/-- The raw texts of the statement are words, and none is the keyword FROM. -/
def IsPlain (s : Statement) : Prop :=
  ∀ leaf ∈ s.operands, leaf.IsPlain

end Statement

/-! ## Clauses -/

/-- The pieces may stand behind anything, and bring that many sources. -/
structure Piece.Trails (n : Nat) (ps : List Piece) : Prop where
  froms : Piece.froms ps = n
  apart : StartsApart (Piece.lexemesOf ps)

namespace Piece.Trails

variable {m n : Nat} {ps qs : List Piece} {text : String}

/-- Nothing at all may stand behind anything, and brings no source. -/
theorem nil :
  Trails 0 []
  where
  froms := rfl
  apart := by simp [lexemesOf, StartsApart]

/-- A text that stands apart on both sides brings its own sources and those behind it. -/
theorem keyword (hstart : startsApart text) (hend : endsApart text)
    (htext : Piece.froms [.plain text] = m) (h : Piece.froms ps = n) :
  Trails (m + n) (.plain text :: ps)
  where
  froms := by rw [froms_cons hend, htext, h]
  apart := startsApart_cons hstart ps

/-- A text that joins two parts of a statement brings no source itself. -/
theorem joint (h : isJoint text) (hps : Piece.froms ps = n) :
  Trails n (.plain text :: ps)
  := by
  simp only [isJoint, Bool.and_eq_true, decide_eq_true_eq] at h
  obtain ⟨⟨hstart, hend⟩, hnone⟩ := h
  rw [← Nat.zero_add n]
  apply keyword hstart hend hnone hps

/-- One may stand behind the other, and both bring their sources. -/
theorem append (hps : Trails m ps) (hqs : Trails n qs) :
  Trails (m + n) (ps ++ qs)
  where
  froms := by rw [froms_append hqs.apart, hps.froms, hqs.froms]
  apart := startsApart_append hps.apart hqs.apart

/-- Behind any rendering they bring their own sources. -/
theorem froms_behind (h : Trails n qs) :
  Piece.froms (ps ++ qs) = Piece.froms ps + n
  := by
  rw [froms_append h.apart, h.froms]

end Piece.Trails

section

variable {scope : Scope} (hscope : scope.clause ≠ .selectOrderBy)
include hscope

/-- Outside of the ORDER BY clause an expression without FROMs of its own has one for each next
value. -/
theorem Expr.froms_pieces_of_clause {e : Expr} (hplain : e.IsPlain) :
  Piece.froms (e.pieces .openEdge scope) = Expr.nextValuesOf false [e]
  := by
  rw [froms_pieces hplain scope, decide_eq_false hscope]
  rfl

/-- Expressions in a row bring as many sources as next values are written of them. -/
theorem Expr.froms_separated {es : List Expr} (hplain : ∀ e ∈ es, e.IsPlain) :
  Piece.froms (Piece.separated ", " (es.map (Expr.pieces .openEdge scope)))
    = Expr.nextValuesOf false es
  := by
  rw [Piece.froms_separated (by decide), Expr.nextValuesOf_eq, List.map_map]
  congr 1
  apply List.map_congr_left
  intro e he
  rw [Function.comp_apply, froms_pieces (hplain e he), decide_eq_false hscope]

/-- The WHERE clause has a FROM for each next value in its condition. -/
theorem wherePieces_trails {condition : Option Expr} (hplain : ∀ e ∈ condition, e.IsPlain) :
  Piece.Trails (Expr.nextValuesOf false condition.toList) (wherePieces .openEdge scope condition)
  := by
  cases condition with
  | none => apply Piece.Trails.nil
  | some e =>
    apply Piece.Trails.joint (by decide)
    apply Expr.froms_pieces_of_clause hscope (hplain e rfl)

/-- A clause with a row count has a FROM for each next value in the count. -/
theorem Expr.clauseAttempt_trails {start clause finish : String} {count : Option Expr}
    {ps : List Piece} (hstart : Piece.isJoint start) (hfinish : Piece.startsApart finish)
    (hnone : Piece.froms [.plain finish] = 0) (hplain : ∀ e ∈ count, e.IsPlain)
    (h : clauseAttempt .openEdge scope start clause finish count = .ok ps) :
  Piece.Trails (nextValuesOf false count.toList) ps
  := by
  cases count with
  | none =>
    obtain rfl := Attempt.ok_inj.mp h
    apply Piece.Trails.nil
  | some e =>
    obtain ⟨xs, ys, hxs, hys, rfl⟩ := Attempt.append_eq_ok.mp h
    obtain ⟨zs, hzs, rfl⟩ := Attempt.ok_append_eq_ok.mp hxs
    obtain rfl := countAttempt_eq_ok hzs
    obtain rfl := Attempt.ok_inj.mp hys
    apply Piece.Trails.joint hstart
    change Piece.froms (e.pieces .openEdge scope ++ [.plain finish]) = nextValuesOf false [e]
    rw [Piece.froms_append_plain hfinish, hnone, froms_pieces_of_clause hscope (hplain e rfl)]
    rfl

/-- The OFFSET clause has a FROM for each next value in its count. -/
theorem offsetAttempt_trails {start : String} {offset : Option Expr} {ps : List Piece}
    (hstart : Piece.isJoint start) (hplain : ∀ e ∈ offset, e.IsPlain)
    (h : offsetAttempt .openEdge scope start false offset = .ok ps) :
  Piece.Trails (Expr.nextValuesOf false offset.toList) ps
  := by
  cases offset with
  | none =>
    obtain rfl := Attempt.ok_inj.mp h
    apply Piece.Trails.nil
  | some e => apply Expr.clauseAttempt_trails hscope hstart (by decide) rfl hplain h

end

namespace SelectQuery

variable {q : SelectQuery} {ps : List Piece}

/-- The limits on the rows of a query have a FROM for each next value in their counts. -/
theorem paginationAttempt_trails {scope : Scope} (hscope : scope.clause ≠ .selectOrderBy)
    (hoffset : ∀ e ∈ q.offset, e.IsPlain) (hlimit : ∀ e ∈ q.limit, e.IsPlain)
    (hcount : ∀ e ∈ q.fetch.map (·.count), e.IsPlain)
    (h : q.paginationAttempt .openEdge scope = .ok ps) :
  Piece.Trails (Expr.nextValuesOf false q.offset.toList + Expr.nextValuesOf false q.limit.toList
    + Expr.nextValuesOf false (q.fetch.map (·.count)).toList) ps
  := by
  have hinlining : scope.inlining.clause ≠ .selectOrderBy := hscope
  rw [paginationAttempt] at h
  split at h
  · cases Attempt.fail_ne_ok _ _ h
  next fetch offset hfetch hnolimit =>
    simp only [fetchAttempt] at h
    obtain ⟨-, h⟩ := Attempt.checked_eq_ok.mp h
    obtain ⟨xs, ys, hxs, hys, rfl⟩ := Attempt.append_eq_ok.mp h
    rw [hnolimit]
    apply Piece.Trails.append (offsetAttempt_trails hinlining (by decide) hoffset hxs)
    apply Expr.clauseAttempt_trails hinlining (by decide) (by decide) rfl hcount hys
  next hnofetch hnolimit hnooffset =>
    obtain rfl := Attempt.ok_inj.mp h
    rw [hnofetch, hnolimit, hnooffset]
    apply Piece.Trails.nil
  next hnofetch _ =>
    obtain ⟨xs, ys, hxs, hys, rfl⟩ := Attempt.append_eq_ok.mp h
    rw [hnofetch]
    apply Piece.Trails.append (offsetAttempt_trails hinlining (by decide) hoffset hxs)
    apply Expr.clauseAttempt_trails hinlining (by decide) (by decide) rfl hlimit hys

/-- The ORDER BY clause has a FROM for each next value in its keys, labels left out. -/
theorem orderPieces_trails (scope : Scope) (hplain : ∀ key ∈ q.orderBy, key.expr.IsPlain) :
  Piece.Trails (Expr.nextValuesOf true (q.orderBy.map (·.expr))) (q.orderPieces .openEdge scope)
  := by
  rw [orderPieces]
  split
  next h =>
    rw [h]
    apply Piece.Trails.nil
  next keys _ =>
    apply Piece.Trails.joint (by decide)
    rw [Piece.froms_separated (by decide), Expr.nextValuesOf_eq, List.map_map, List.map_map]
    congr 1
    apply List.map_congr_left
    intro key hkey
    have hexpr := Expr.froms_pieces (hplain key hkey) (scope.entering .selectOrderBy)
    have hdirection : ∀ text, Piece.startsApart text → Piece.froms [.plain text] = 0 →
        Piece.froms (key.expr.pieces .openEdge (scope.entering .selectOrderBy) ++ [.plain text])
          = key.expr.nextValues true := by
      intro text hstart hnone
      rw [Piece.froms_append_plain hstart, hnone, hexpr]
      rfl
    rw [Function.comp_apply, OrderKey.pieces]
    split
    · apply hdirection _ (by decide) rfl
    · apply hdirection _ (by decide) rfl

/-- In the place of its source a query has its own FROM, or none when its columns bring one. -/
theorem sourcePieces_trails (scope : Scope) :
  Piece.Trails (Statement.select q).ownFroms (q.sourcePieces .openEdge scope)
  := by
  rw [sourcePieces, Statement.ownFroms]
  cases htable : q.source with
  | some table =>
    rw [if_neg (by simp)]
    change Piece.Trails (1 + 0) (.plain "\nFROM " :: table.pieces .openEdge _)
    apply Piece.Trails.keyword (by decide) (by decide)
    · rfl
    · apply Table.froms_pieces
  | none =>
    by_cases hnext : q.columns.any Expr.isNextValue
    · rw [if_pos ⟨rfl, hnext⟩]
      simp only [withoutSourcePieces, if_pos hnext]
      apply Piece.Trails.nil
    · rw [if_neg (by simp [hnext])]
      simp only [withoutSourcePieces, if_neg hnext]
      exact ⟨rfl, Piece.startsApart_cons (by decide) []⟩

/-- A query has its own FROM and one for each next value. -/
theorem attempt_froms (hplain : ∀ e ∈ q.exprs, e.IsPlain) (h : q.attempt .openEdge {} = .ok ps) :
  Piece.froms ps = (Statement.select q).ownFroms + q.nextValues
  := by
  obtain ⟨hcolumns, hcondition, horder, hlimit, hoffset, hcount⟩ := forall_mem_exprs.mp hplain
  obtain ⟨-, h⟩ := Attempt.checked_eq_ok.mp h
  obtain ⟨tail, htail, rfl⟩ := Attempt.ok_append_eq_ok.mp h
  have htrails := paginationAttempt_trails (by decide) hoffset hlimit hcount htail
  rw [bodyPieces, htrails.froms_behind, (q.orderPieces_trails _ horder).froms_behind,
    (wherePieces_trails (by decide) hcondition).froms_behind,
    (q.sourcePieces_trails _).froms_behind, Piece.froms_cons (by decide),
    Expr.froms_separated (by decide) hcolumns, nextValues]
  have hselect : Piece.froms [.plain "SELECT "] = 0 := rfl
  omega

end SelectQuery

/-! ## Changes of rows -/

/-- A list of identifiers has no FROM. -/
theorem Style.froms_identifiers (names : List String) :
  Piece.froms (Piece.separated ", " (names.map fun name => [openEdge.identifier name])) = 0
  := by
  rw [Piece.froms_separated (by decide), List.map_map,
    List.sum_eq_zero_iff_forall_eq_nat]
  intro n hn
  obtain ⟨name, -, rfl⟩ := List.mem_map.mp hn
  apply froms_identifier

/-- A row of values has a FROM for each next value in it. -/
theorem InsertQuery.rowPieces_froms {scope : Scope} (hscope : scope.clause ≠ .selectOrderBy)
    {row : List Expr} (hplain : ∀ e ∈ row, e.IsPlain) :
  Piece.froms (rowPieces .openEdge scope row) = Expr.nextValuesOf false row
  := by
  have hopen : Piece.froms [.plain "("] = 0 := rfl
  have hclose : Piece.froms [.plain ")"] = 0 := rfl
  rw [rowPieces, Piece.froms_append_plain (by decide), Piece.froms_cons (by decide), hopen, hclose,
    Expr.froms_separated hscope hplain]
  omega

/-- An insertion has a FROM for each next value in its rows. -/
theorem InsertQuery.attempt_froms {q : InsertQuery} {ps : List Piece}
    (hplain : ∀ e ∈ q.rows.flatten, e.IsPlain) (h : q.attempt .openEdge {} = .ok ps) :
  Piece.froms ps = Expr.nextValuesOf false q.rows.flatten
  := by
  obtain ⟨-, h⟩ := Attempt.checked_eq_ok.mp h
  obtain rfl := Attempt.ok_inj.mp h
  have hinsert : Piece.froms [.plain "INSERT INTO "] = 0 := rfl
  have hopen : Piece.froms [.plain "("] = 0 := rfl
  have hrows : Piece.froms (Piece.separated ",\n"
        (q.rows.map (rowPieces .openEdge (({} : Scope).entering .insertValues))))
      = Expr.nextValuesOf false q.rows.flatten := by
    rw [Piece.froms_separated (by decide), Expr.nextValuesOf_eq, List.map_flatten,
      List.sum_flatten, List.map_map, List.map_map]
    congr 1
    apply List.map_congr_left
    intro row hrow
    rw [Function.comp_apply, Function.comp_apply, ← Expr.nextValuesOf_eq]
    apply rowPieces_froms (by decide)
    intro e he
    apply hplain e (List.mem_flatten.mpr ⟨row, hrow, he⟩)
  rw [Piece.froms_join (by decide), Piece.froms_join (by decide), Piece.froms_cons (by decide),
    hinsert, Piece.froms_cons (by decide), hopen, Table.froms_pieces, Style.froms_identifiers,
    hrows]
  omega

/-- An update has a FROM for each next value in its assignments and its condition. -/
theorem UpdateQuery.attempt_froms {q : UpdateQuery} {ps : List Piece}
    (hplain : ∀ e ∈ (Statement.update q).exprs, e.IsPlain) (h : q.attempt .openEdge {} = .ok ps) :
  Piece.froms ps = Expr.nextValuesOf false (Statement.update q).exprs
  := by
  obtain ⟨-, h⟩ := Attempt.checked_eq_ok.mp h
  obtain rfl := Attempt.ok_inj.mp h
  obtain ⟨hvalues, hcondition⟩ := List.forall_mem_append.mp hplain
  rw [List.forall_mem_map] at hvalues
  have hupdate : Piece.froms [.plain "UPDATE "] = 0 := rfl
  have hassignments : Piece.froms (Piece.separated ", "
        (q.assignments.map (assignmentPieces .openEdge (({} : Scope).entering .updateSet))))
      = Expr.nextValuesOf false (q.assignments.map (·.2)) := by
    rw [Piece.froms_separated (by decide), Expr.nextValuesOf_eq, List.map_map, List.map_map]
    congr 1
    apply List.map_congr_left
    intro assignment hassignment
    change Piece.froms ([_] ++ .plain " = " :: _) = _
    rw [Piece.froms_join (by decide), Style.froms_identifier,
      Expr.froms_pieces (hvalues assignment hassignment), Nat.zero_add]
    rfl
  rw [(wherePieces_trails (by decide) (by simpa using hcondition)).froms_behind,
    Piece.froms_join (by decide), Piece.froms_cons (by decide), hupdate, Table.froms_pieces,
    hassignments, Nat.zero_add, ← Expr.nextValuesOf_append]
  rfl

/-- A deletion has its own FROM and one for each next value in its condition. -/
theorem DeleteQuery.attempt_froms {q : DeleteQuery} {ps : List Piece}
    (hplain : ∀ e ∈ q.condition, e.IsPlain) (h : q.attempt .openEdge {} = .ok ps) :
  Piece.froms ps = 1 + Expr.nextValuesOf false q.condition.toList
  := by
  obtain rfl := Attempt.ok_inj.mp h
  have hdelete : Piece.froms [.plain "DELETE FROM "] = 1 := rfl
  rw [(wherePieces_trails (by decide) hplain).froms_behind, Piece.froms_cons (by decide), hdelete,
    Table.froms_pieces]

/-! ## Definitions -/

/-- A list of names in parentheses has no FROM. -/
theorem Style.froms_nameList (names : List String) :
  Piece.froms (openEdge.nameList names) = 0
  := by
  have hopen : Piece.froms [.plain "("] = 0 := rfl
  have hclose : Piece.froms [.plain ")"] = 0 := rfl
  rw [nameList, Piece.froms_append_plain (by decide), Piece.froms_cons (by decide), hopen, hclose,
    froms_identifiers]

/-- What a constraint demands is said without a FROM. -/
theorem ConstraintKind.attempt_froms {scope : Scope} {table : Table} {columns : List String}
    {kind : ConstraintKind} {ps : List Piece}
    (h : kind.attempt .openEdge scope table columns = .ok ps) :
  Piece.froms ps = 0
  := by
  have hnone : ∀ text, Piece.endsApart text → Piece.froms [.plain text] = 0 →
      Piece.froms (.plain text :: Style.openEdge.nameList columns) = 0 := by
    intro text hend hnone
    rw [Piece.froms_cons hend, hnone, Style.froms_nameList]
  cases kind with
  | primaryKey =>
    obtain rfl := Attempt.ok_inj.mp h
    apply hnone _ (by decide) rfl
  | unique =>
    obtain rfl := Attempt.ok_inj.mp h
    apply hnone _ (by decide) rfl
  | foreignKey references referenced onDelete =>
    obtain ⟨-, h⟩ := Attempt.checked_eq_ok.mp h
    obtain rfl := Attempt.ok_inj.mp h
    have haction : ∀ action : DeleteAction,
        Piece.Trails 0 [.plain " ON DELETE ", .plain action.text] := by
      intro action
      apply Piece.Trails.joint (by decide)
      cases action <;> rfl
    have hreferences : Piece.froms (.plain "FOREIGN KEY " :: Style.openEdge.nameList columns
        ++ .plain " REFERENCES " :: references.pieces .openEdge scope
        ++ .plain " " :: Style.openEdge.nameList referenced) = 0 := by
      rw [Piece.froms_join (by decide), Piece.froms_join (by decide), hnone _ (by decide) rfl,
        Table.froms_pieces, Style.froms_nameList]
    cases onDelete with
    | none =>
      rw [List.append_nil]
      apply hreferences
    | some action => rw [(haction action).froms_behind, hreferences]

/-- A constraint has no FROM. -/
theorem Constraint.attempt_froms {scope : Scope} {c : Constraint} {ps : List Piece}
    (h : c.attempt .openEdge scope = .ok ps) :
  Piece.froms ps = 0
  := by
  obtain ⟨-, h⟩ := Attempt.checked_eq_ok.mp h
  obtain ⟨ys, hys, rfl⟩ := Attempt.ok_append_eq_ok.mp h
  have hkind := ConstraintKind.attempt_froms hys
  have hconstraint : Piece.froms [.plain "CONSTRAINT "] = 0 := rfl
  cases c.writtenName? with
  | none =>
    rw [List.nil_append]
    apply hkind
  | some name =>
    have hname : Piece.froms ([Style.openEdge.identifier name] ++ .plain " " :: ys) = 0 := by
      rw [Piece.froms_join (by decide), Style.froms_identifier, hkind]
    rw [List.cons_append, Piece.froms_cons (by decide), hconstraint]
    simpa using hname

/-- The constraints of a table definition bring no FROM. -/
theorem TableDef.constraintsAttempt_trails {scope : Scope} {constraints : List Constraint}
    {ps : List Piece} (h : constraintsAttempt .openEdge scope constraints = .ok ps) :
  Piece.Trails 0 ps
  := by
  induction constraints generalizing ps with
  | nil =>
    obtain rfl := Attempt.ok_inj.mp h
    apply Piece.Trails.nil
  | cons c rest ih =>
    obtain ⟨xs, ys, hxs, hys, rfl⟩ := Attempt.append_eq_ok.mp h
    obtain ⟨zs, hzs, rfl⟩ := Attempt.ok_append_eq_ok.mp hxs
    apply Piece.Trails.joint (by decide)
    change Piece.froms (zs ++ ys) = 0
    rw [(ih hys).froms_behind, Constraint.attempt_froms hzs]

/-- A column of a table definition has a FROM for each next value in its default. -/
theorem ColumnDef.attempt_froms {scope : Scope} (hscope : scope.clause ≠ .selectOrderBy)
    {c : ColumnDef} {ps : List Piece} (hplain : ∀ e ∈ c.default, e.IsPlain)
    (h : c.attempt .openEdge scope = .ok ps) :
  Piece.froms ps = Expr.nextValuesOf false c.default.toList
  := by
  obtain ⟨xs, ys, hxs, hys, rfl⟩ := Attempt.append_eq_ok.mp h
  obtain ⟨zs, hzs, rfl⟩ := Attempt.ok_append_eq_ok.mp hxs
  obtain rfl := Attempt.ok_inj.mp hys
  have htype : Piece.froms zs = 0 := by
    have htypePieces := Style.froms_typePieces c.type
    rw [Style.typeAttempt] at hzs
    rw [Style.typePieces] at htypePieces
    split at hzs
    next name hname =>
      obtain rfl := Attempt.ok_inj.mp hzs
      rw [hname] at htypePieces
      apply htypePieces
    · cases Attempt.fail_ne_ok _ _ hzs
  have hname : Piece.froms ([Style.openEdge.identifier c.name, .plain " "] ++ zs) = 0 := by
    change Piece.froms ([_] ++ .plain " " :: zs) = 0
    rw [Piece.froms_join (by decide), Style.froms_identifier, htype]
  have hnull : Piece.Trails 0 (if c.nullable then [] else [.plain " NOT NULL"]) := by
    split
    · apply Piece.Trails.nil
    · exact ⟨rfl, Piece.startsApart_cons (by decide) []⟩
  cases hvalue : c.default with
  | none =>
    rw [List.append_nil, hnull.froms_behind, hname]
    rfl
  | some value =>
    have hdefault : Piece.Trails (Expr.nextValuesOf false [value])
        (.plain " DEFAULT " :: value.pieces .openEdge scope.inlining) := by
      have hinlining : scope.inlining.clause ≠ .selectOrderBy := hscope
      apply Piece.Trails.joint (by decide)
      apply Expr.froms_pieces_of_clause hinlining (hplain value hvalue)
    rw [(hnull.append hdefault).froms_behind, hname, Nat.zero_add, Nat.zero_add]
    rfl

/-- The next values in the defaults are counted column by column. -/
theorem Expr.nextValuesOf_defaults (columns : List ColumnDef) :
  nextValuesOf false (columns.filterMap (·.default))
    = (columns.map fun c => nextValuesOf false c.default.toList).sum
  := by
  induction columns with
  | nil => rfl
  | cons c rest ih =>
    rw [List.map_cons, List.sum_cons, ← ih]
    cases hvalue : c.default with
    | none => rw [List.filterMap_cons_none hvalue, Option.toList_none, nextValuesOf, Nat.zero_add]
    | some value =>
      rw [List.filterMap_cons_some hvalue, ← nextValuesOf_append]
      rfl

/-- A table definition has a FROM for each next value in its defaults. -/
theorem TableDef.attempt_froms {d : TableDef} {ps : List Piece}
    (hplain : ∀ e ∈ (Statement.createTable d).exprs, e.IsPlain)
    (h : d.attempt .openEdge {} = .ok ps) :
  Piece.froms ps = Expr.nextValuesOf false (Statement.createTable d).exprs
  := by
  obtain ⟨-, h⟩ := Attempt.checked_eq_ok.mp h
  obtain ⟨xs, ys, hxs, hys, rfl⟩ := Attempt.append_eq_ok.mp h
  obtain ⟨us, vs, hus, hvs, rfl⟩ := Attempt.append_eq_ok.mp hxs
  obtain ⟨zs, hzs, rfl⟩ := Attempt.ok_append_eq_ok.mp hus
  obtain rfl := Attempt.ok_inj.mp hys
  obtain ⟨hcolumns, rfl⟩ := Attempt.separated_map_eq_ok hzs
  have hcreate : Piece.froms [.plain "CREATE TABLE "] = 0 := rfl
  have hclose : Piece.froms [.plain "\n)"] = 0 := rfl
  have hdefaults : Piece.froms (Piece.separated ",\n" (d.columns.map fun c =>
        (c.attempt .openEdge (({} : Scope).entering .createTable)).written))
      = Expr.nextValuesOf false (d.columns.filterMap (·.default)) := by
    rw [Piece.froms_separated (by decide), Expr.nextValuesOf_defaults, List.map_map]
    congr 1
    apply List.map_congr_left
    intro c hc
    apply ColumnDef.attempt_froms (by decide) _ (hcolumns c hc)
    intro e he
    apply hplain e (List.mem_filterMap.mpr ⟨c, hc, he⟩)
  rw [Piece.froms_append_plain (by decide), hclose,
    (constraintsAttempt_trails hvs).froms_behind, List.append_assoc, List.singleton_append,
    Piece.froms_join (by decide), Piece.froms_cons (by decide), hcreate, Table.froms_pieces,
    hdefaults]
  simp [Statement.exprs]

/-- The addition of a constraint has no FROM. -/
theorem Constraint.additionAttempt_froms {c : Constraint} {ps : List Piece}
    (h : c.additionAttempt .openEdge {} = .ok ps) :
  Piece.froms ps = 0
  := by
  obtain ⟨ys, hys, rfl⟩ := Attempt.ok_append_eq_ok.mp h
  have halter : Piece.froms [.plain "ALTER TABLE "] = 0 := rfl
  rw [List.append_assoc, List.singleton_append, Piece.froms_join (by decide),
    Piece.froms_cons (by decide), halter, Table.froms_pieces, Constraint.attempt_froms hys]

/-! ## Statements -/

namespace Statement

/-- The expressions of a plain statement are plain. -/
theorem exprs_isPlain {s : Statement} (h : s.IsPlain) :
  ∀ e ∈ s.exprs, e.IsPlain
  := by
  intro e he leaf hleaf
  apply h leaf (List.mem_flatMap.mpr ⟨e, he, hleaf⟩)

/-- A statement as it stands has its own FROM and one for each next value. -/
theorem rawAttempt_froms {s : Statement} (hplain : ∀ e ∈ s.exprs, e.IsPlain) {ps : List Piece}
    (h : s.rawAttempt .openEdge {} = .ok ps) :
  Piece.froms ps = s.ownFroms + s.nextValues
  := by
  cases s with
  | select q => apply SelectQuery.attempt_froms hplain h
  | insert q => exact (InsertQuery.attempt_froms hplain h).trans (Nat.zero_add _).symm
  | update q => exact (UpdateQuery.attempt_froms hplain h).trans (Nat.zero_add _).symm
  | delete q => exact DeleteQuery.attempt_froms (by simpa [exprs] using hplain) h
  | createTable d => exact (TableDef.attempt_froms hplain h).trans (Nat.zero_add _).symm
  | dropTable t =>
    obtain rfl := Attempt.ok_inj.mp h
    have hdrop : Piece.froms [.plain "DROP TABLE "] = 0 := rfl
    rw [Piece.froms_cons (by decide), hdrop, Table.froms_pieces]
    rfl
  | addConstraint c =>
    rw [Constraint.additionAttempt_froms h]
    rfl

/-- The names of constraints do not count for the FROM that a statement has of its own. -/
theorem ownFroms_prepared (style : Style) (s : Statement) :
  (s.prepared style).ownFroms = s.ownFroms
  := by
  cases s with
  | createTable d =>
    rw [prepared]
    split <;> rfl
  | _ => rfl

/-- The names of constraints do not count for the next values of a statement. -/
theorem nextValues_prepared (style : Style) (s : Statement) :
  (s.prepared style).nextValues = s.nextValues
  := by
  cases s with
  | createTable d =>
    rw [prepared]
    split <;> rfl
  | _ => rfl

/-- A statement has its own FROM clauses and one for each next value that is written of it. -/
theorem attempt_froms {s : Statement} (hplain : s.IsPlain) {ps : List Piece}
    (h : s.attempt .openEdge {} = .ok ps) :
  Piece.froms ps = s.ownFroms + s.nextValues
  := by
  rw [← ownFroms_prepared .openEdge, ← nextValues_prepared .openEdge]
  apply rawAttempt_froms _ h
  rw [exprs_prepared]
  apply exprs_isPlain hplain

end Statement

end SqlDialect
