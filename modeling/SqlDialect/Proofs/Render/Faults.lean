import SqlDialect.Proofs.Render.Acceptance

/-!
# The faults of a statement in the order in which they are met

The writing of a statement stops at some faults and goes on behind others, which are
recorded.  The faults of a statement are listed here in the order in which the writing comes
upon them, without looking at what is written.  A compilation that fails returns the first
fault at which the writing stopped and, only when it did not stop, the first one that was
recorded: that is the first fault met just when nothing was recorded before the writing
stopped at another fault.
-/

namespace SqlDialect

/-- A fault that is met while a statement is written.  The writing stops at it, or it is recorded
and the writing goes on. -/
structure MetFault where
  fault : CompileFault
  stops : Bool
deriving DecidableEq

namespace MetFault

/-- A fault behind which the writing goes on. -/
def recorded (fault : CompileFault) : MetFault := ⟨fault, false⟩

/-- The fault that a compilation returns: the first at which the writing stops, or else the first
one. -/
def returned? (faults : List MetFault) : Option MetFault :=
  (faults.find? (·.stops)).or faults.head?

end MetFault

/-! ## The faults of statements -/

/-- What a check finds: the writing stops at it. -/
def checkFaults (fault : Option CompileFault) : List MetFault :=
  fault.toList.map (⟨·, true⟩)

/-- Why a type has no name. -/
def Style.typeFault? (style : Style) (type : ColumnType) : Option CompileFault :=
  match style.typeName type with
  | .ok _ => none
  | .error fault => some fault

/-- What is recorded when a leaf is written. -/
def Operand.fault? (style : Style) : Operand → Option CompileFault
  | type t => style.typeFault? t
  | _ => none

/-- What is recorded when the leaves are written. -/
def leafFaults (style : Style) (leaves : List (Scope × Operand)) : List MetFault :=
  (leaves.filterMap fun leaf => leaf.2.fault? style).map .recorded

namespace Expr

/-- Nothing but blanks is written of the expression: it is blank raw text or a type without a
name. -/
def isBlank (style : Style) : Expr → Bool
  | operand (.raw text) => text.toList.all Text.isBlank
  | operand (.type t) => (style.typeFault? t).isSome
  | _ => false

/-- The faults of a row count: what is known to be wrong with it before it is written, what is
recorded while it is written, and that nothing was written of it. -/
def countFaults (style : Style) (scope : Scope) (clause : String) (e : Expr) : List MetFault :=
  checkFaults (e.countFault? clause) ++ leafFaults style (e.leaves scope)
    ++ checkFaults (if e.isBlank style then some (.blankCount clause) else none)

/-- The faults of a clause with a row count, if there is one. -/
def clauseFaults (style : Style) (scope : Scope) (clause : String) (count : Option Expr) :
    List MetFault :=
  count.toList.flatMap (countFaults style scope clause)

end Expr

namespace SelectQuery

/-- The faults of the limits on the rows of a query. -/
def paginationFaults (style : Style) (scope : Scope) (q : SelectQuery) : List MetFault :=
  match q.fetch, q.limit, style with
  | some _, some _, _ => checkFaults (some .limitWithFetch)
  | some fetch, none, .standard _ =>
    Expr.clauseFaults style scope "OFFSET" q.offset
      ++ Expr.clauseFaults style scope "FETCH FIRST" (some fetch.count)
  | some fetch, none, .openEdge =>
    checkFaults (fetchFault? (some fetch))
      ++ (Expr.clauseFaults style scope.inlining "OFFSET" q.offset
        ++ Expr.clauseFaults style scope.inlining "FETCH FIRST" (some fetch.count))
  | none, limit, .standard _ =>
    Expr.clauseFaults style scope "LIMIT" limit ++ Expr.clauseFaults style scope "OFFSET" q.offset
  | none, limit, .openEdge =>
    Expr.clauseFaults style scope.inlining "OFFSET" q.offset
      ++ Expr.clauseFaults style scope.inlining "FETCH FIRST" limit

/-- The leaves of a query up to the limits on its rows. -/
def bodyLeaves (scope : Scope) (q : SelectQuery) : List (Scope × Operand) :=
  q.columns.flatMap (Expr.leaves (scope.entering .select))
    ++ Expr.optionLeaves (scope.entering .selectWhere) q.condition
    ++ q.orderBy.flatMap fun key => key.expr.leaves (scope.entering .selectOrderBy)

/-- The faults of a query. -/
def faults (style : Style) (scope : Scope) (q : SelectQuery) : List MetFault :=
  checkFaults (if q.columns.isEmpty then some .selectWithoutColumns else none)
    ++ (leafFaults style (q.bodyLeaves scope.qualifying)
      ++ q.paginationFaults style (scope.qualifying.entering .selectPagination))

end SelectQuery

/-- The faults of a column of a table definition. -/
def ColumnDef.faults (style : Style) (scope : Scope) (c : ColumnDef) : List MetFault :=
  checkFaults (style.typeFault? c.type)
    ++ leafFaults style (Expr.optionLeaves scope.inlining c.default)

/-- The faults of what a constraint demands. -/
def Constraint.kindFaults (c : Constraint) : List MetFault :=
  match c.kind with
  | .foreignKey _ referenced _ =>
    checkFaults (if referenced.length ≠ c.columns.length then
      some (.foreignKeyLength c.table.fullName c.columns.length referenced.length) else none)
  | _ => []

/-- The faults of a constraint. -/
def Constraint.faults (c : Constraint) : List MetFault :=
  checkFaults (if c.columns = [] then some (.constraintWithoutColumns c.table.fullName) else none)
    ++ c.kindFaults

/-- The faults of a table definition. -/
def TableDef.faults (style : Style) (scope : Scope) (d : TableDef) : List MetFault :=
  checkFaults (if d.columns.isEmpty then some (.tableWithoutColumns d.table.fullName) else none)
    ++ (d.columns.flatMap (ColumnDef.faults style (scope.entering .createTable))
      ++ d.constraints.flatMap Constraint.faults)

/-- The faults of a statement, in the order in which they are met. -/
def Statement.faults (style : Style) (scope : Scope) : Statement → List MetFault
  | select q => q.faults style scope
  | insert q =>
    checkFaults q.rowFault? ++ leafFaults style ((insert q).leaves style scope)
  | update q =>
    checkFaults (if q.assignments.isEmpty then some .updateWithoutAssignments else none)
      ++ leafFaults style ((update q).leaves style scope)
  | delete q => leafFaults style ((delete q).leaves style scope)
  | createTable d => d.faults style scope
  | dropTable _ => []
  | addConstraint c => c.faults

/-! ## Faults that are met -/

/-- The attempt comes upon the faults in this order: it records what does not stop it, and stops at
the first fault that does. -/
structure Attempt.Meets (a : Attempt) (faults : List MetFault) : Prop where
  recorded : a.written.filterMap Piece.failure?
    = (faults.takeWhile fun f => !f.stops).map fun f => .ofFault f.fault
  failure : a.failure = (faults.find? (·.stops)).map fun f => .ofFault f.fault

namespace Attempt.Meets

variable {a b : Attempt} {fs gs : List MetFault}

/-- Pieces of which nothing is recorded meet no faults. -/
theorem nothing {pieces : List Piece} (h : pieces.filterMap Piece.failure? = []) :
  (Attempt.ok pieces).Meets []
  where
  recorded := h
  failure := rfl

/-- Behind an attempt that stops no faults are met. -/
theorem append (ha : a.Meets fs) (hb : b.Meets gs) :
  (a ++ b).Meets (fs ++ gs)
  := by
  have hfailure := ha.failure
  have hrecorded := ha.recorded
  rw [append_def, andThen]
  cases hstop : fs.find? (·.stops) with
  | none =>
    -- Nothing stops the first attempt, so the second is made behind it.
    have hgoes : ∀ f ∈ fs, !f.stops := by simpa using hstop
    have hwhole : fs.takeWhile (fun f => !f.stops) = fs := List.takeWhile_eq_self_iff.mpr hgoes
    rw [hstop, Option.map_none] at hfailure
    rw [hwhole] at hrecorded
    rw [hfailure]
    constructor
    · rw [List.filterMap_append, hrecorded, hb.recorded, List.takeWhile_append_of_pos hgoes,
        List.map_append]
    · rw [List.find?_append, hstop, Option.none_or, hb.failure]
  | some stop =>
    have hshort : (fs.takeWhile fun f => !f.stops).length ≠ fs.length := by
      intro hlength
      have hwhole := (List.takeWhile_prefix _).eq_of_length hlength
      have hgoes := List.takeWhile_eq_self_iff.mp hwhole stop (List.mem_of_find?_eq_some hstop)
      simp [List.find?_some hstop] at hgoes
    rw [hstop, Option.map_some] at hfailure
    rw [hfailure]
    constructor
    · rw [hrecorded, List.takeWhile_append, if_neg hshort]
    · rw [List.find?_append, hstop, hfailure]
      rfl

/-- A fault that is found by a check is met first. -/
theorem checked (fault : Option CompileFault) (ha : a.Meets fs) :
  (Attempt.checked fault a).Meets (checkFaults fault ++ fs)
  := by
  cases fault with
  | none => apply ha
  | some fault => exact ⟨rfl, rfl⟩

/-- A check is all that can stop what meets no faults otherwise. -/
theorem of_checked {fault : Option CompileFault} {pieces : List Piece}
    (h : fault = none → (Attempt.ok pieces).Meets []) :
  (Attempt.checked fault (.ok pieces)).Meets (checkFaults fault)
  := by
  cases fault with
  | none => apply h rfl
  | some fault => exact ⟨rfl, rfl⟩

/-- A check meets what it finds. -/
theorem check (fault : Option CompileFault) :
  (Attempt.checked fault (.ok [])).Meets (checkFaults fault)
  := by
  rw [← List.append_nil (checkFaults fault)]
  apply checked fault (nothing rfl)

/-- Pieces of which nothing is recorded may stand in front. -/
theorem behind {pieces : List Piece} (h : pieces.filterMap Piece.failure? = []) (ha : a.Meets fs) :
  (Attempt.ok pieces ++ a).Meets fs
  := append (nothing h) ha

/-- Pieces of which nothing is recorded may stand behind. -/
theorem before {pieces : List Piece} (h : pieces.filterMap Piece.failure? = []) (ha : a.Meets fs) :
  (a ++ Attempt.ok pieces).Meets fs
  := by
  rw [← List.append_nil fs]
  apply append ha (nothing h)

/-- Attempts in a row meet the faults of each of them. -/
theorem separated {α : Type} {separator : String} {attempts : α → Attempt}
    {faults : α → List MetFault} {items : List α}
    (h : ∀ x ∈ items, (attempts x).Meets (faults x)) :
  (Attempt.separated separator (items.map attempts)).Meets (items.flatMap faults)
  := by
  induction items with
  | nil => apply nothing rfl
  | cons x rest ih =>
    obtain ⟨hx, hrest⟩ := List.forall_mem_cons.mp h
    cases rest with
    | nil => simpa [Attempt.separated] using hx
    | cons y rest =>
      rw [List.flatMap_cons, List.map_cons, List.map_cons, Attempt.separated]
      · apply append _ (ih hrest)
        apply before _ hx
        split <;> rfl
      · simp

end Attempt.Meets

namespace Style

variable {style : Style} {type : ColumnType}

/-- A type has a name when it is no fault. -/
theorem typeFault?_eq_none :
  style.typeFault? type = none ↔ style.Names type
  := by
  rw [names_iff, typeFault?]
  cases style.typeName type <;> simp

/-- A type that is written where the writing goes on records its fault. -/
theorem filterMap_failure?_typePieces :
  (style.typePieces type).filterMap Piece.failure?
    = (style.typeFault? type).toList.map Failure.ofFault
  := by
  rw [typePieces, typeFault?]
  cases style.typeName type <;> rfl

/-- Nothing but the fault stands in the place of a type without a name. -/
theorem typePieces_of_typeFault? {fault : CompileFault} (h : style.typeFault? type = some fault) :
  style.typePieces type = [.fault (.ofFault fault)]
  := by
  rw [typeFault?] at h
  rw [typePieces]
  cases hname : style.typeName type with
  | ok name => simp [hname] at h
  | error fault =>
    obtain rfl : fault = _ := by simpa [hname] using h
    rfl

/-- A type that is written where the writing stops meets its fault there. -/
theorem typeAttempt_meets :
  (style.typeAttempt type).Meets (checkFaults (style.typeFault? type))
  := by
  rw [typeAttempt, typeFault?]
  cases style.typeName type <;> exact ⟨rfl, rfl⟩

end Style

/-- Of a leaf the fault of a type without a name is recorded. -/
theorem Operand.filterMap_failure?_pieces (style : Style) (scope : Scope) (leaf : Operand) :
  (leaf.pieces style scope).filterMap Piece.failure?
    = (leaf.fault? style).toList.map Failure.ofFault
  := by
  by_cases h : ∃ t, leaf = .type t
  · obtain ⟨t, rfl⟩ := h
    rw [pieces_type]
    apply Style.filterMap_failure?_typePieces
  · have hfault : leaf.fault? style = none := by
      cases leaf with
      | type t => cases h ⟨t, rfl⟩
      | _ => rfl
    rw [hfault, Option.toList_none, List.map_nil, List.filterMap_eq_nil_iff]
    apply (leaf.failure?_pieces_iff style scope).mpr
    rintro t rfl
    cases h ⟨t, rfl⟩

/-- The writing goes on behind the faults of leaves. -/
theorem stops_of_mem_leafFaults {style : Style} {ls : List (Scope × Operand)} {f : MetFault}
    (h : f ∈ leafFaults style ls) :
  f.stops = false
  := by
  obtain ⟨fault, -, rfl⟩ := List.mem_map.mp h
  rfl

/-- Of what is woven from leaves the faults of the leaves are recorded. -/
theorem Woven.meets {style : Style} {ls : List (Scope × Operand)} {ps : List Piece}
    (h : Woven style ls ps) :
  (Attempt.ok ps).Meets (leafFaults style ls)
  := by
  have hgoes : ∀ f ∈ leafFaults style ls, f.stops = false := fun f => stops_of_mem_leafFaults
  have hwhole : (leafFaults style ls).takeWhile (fun f => !f.stops) = leafFaults style ls :=
    List.takeWhile_eq_self_iff.mpr (by simpa using hgoes)
  have hstop : (leafFaults style ls).find? (·.stops) = none := by simpa using hgoes
  constructor
  · rw [hwhole]
    change ps.filterMap Piece.failure? = _
    rw [h.filterMap_eq (fun _ => rfl) (fun _ => rfl), leafFaults, List.map_map,
      List.filterMap_eq_flatMap_toList, List.map_flatMap]
    apply List.flatMap_congr
    intro leaf _
    apply leaf.2.filterMap_failure?_pieces
  · rw [hstop]
    rfl

/-- A clause that is woven from leaves meets their faults. -/
theorem WovenClause.meets {style : Style} {ls : List (Scope × Operand)} {ps : List Piece}
    (h : WovenClause style ls ps) :
  (Attempt.ok ps).Meets (leafFaults style ls)
  := (Woven.nil.append_clause h).meets

/-! ## Expressions and queries -/

section Counts

variable {style : Style} {scope : Scope} (hscope : scope.clause ≠ .selectOrderBy)
include hscope

/-- Where nothing is known to be wrong with a row count, nothing is written of it just when it is
blank. -/
theorem Expr.trim_isEmpty_eq {clause : String} {e : Expr} (hfault : e.countFault? clause = none) :
  (Text.trim (Piece.textOf (e.pieces style scope)).toList).isEmpty = e.isBlank style
  := by
  cases hblank : e.isBlank style with
  | false =>
    apply Piece.Visible.iff_trim.mp
    apply visible_of_isCount _ hscope
    · rintro type rfl
      apply Style.typeFault?_eq_none.mp
      simpa [isBlank] using hblank
    · apply (isCount_iff clause).mpr
      use hfault
      rintro text rfl
      simpa [isBlank] using hblank
  | true =>
    rw [List.isEmpty_iff, Text.trim_eq_nil_iff]
    cases e with
    | operand leaf =>
      cases leaf with
      | raw text =>
        simpa [isBlank, pieces, tokens, Operand.tokens, Piece.toList_textOf, Piece.text,
          Token.pieces] using hblank
      | type t =>
        obtain ⟨fault, hfault⟩ := Option.isSome_iff_exists.mp hblank
        have hpieces : (operand (.type t)).pieces style scope = [.fault (.ofFault fault)] := by
          change (Operand.type t).pieces style scope = _
          rw [Operand.pieces_type]
          exact Style.typePieces_of_typeFault? hfault
        rw [hpieces]
        simp [Piece.toList_textOf, Piece.text]
      | _ => cases hblank
    | _ => cases hblank

/-- A row count meets what is wrong with it before it is written, its leaves, and that nothing was
written. -/
theorem Expr.countAttempt_meets (clause : String) (e : Expr) :
  (e.countAttempt style scope clause).Meets (e.countFaults style scope clause)
  := by
  rw [countAttempt, countFaults, List.append_assoc]
  cases hfault : e.countFault? clause with
  | some fault => exact ⟨rfl, rfl⟩
  | none =>
    rw [trim_isEmpty_eq hscope hfault]
    apply Attempt.Meets.checked
    apply (e.woven style scope).meets.append
    apply Attempt.Meets.check

/-- A clause meets the faults of its row count. -/
theorem Expr.clauseAttempt_meets (start clause finish : String) (count : Option Expr) :
  (clauseAttempt style scope start clause finish count).Meets
    (clauseFaults style scope clause count)
  := by
  cases count with
  | none => apply Attempt.Meets.nothing rfl
  | some e =>
    rw [clauseFaults, Option.toList_some, List.flatMap_singleton]
    apply Attempt.Meets.before rfl
    apply Attempt.Meets.behind rfl
    apply countAttempt_meets hscope

/-- The OFFSET clause meets the faults of its count. -/
theorem offsetAttempt_meets (start : String) (needed : Bool) (offset : Option Expr) :
  (offsetAttempt style scope start needed offset).Meets
    (Expr.clauseFaults style scope "OFFSET" offset)
  := by
  cases offset with
  | none =>
    apply Attempt.Meets.nothing
    split <;> rfl
  | some e => apply Expr.clauseAttempt_meets hscope start "OFFSET" " ROWS" (some e)

end Counts

namespace SelectQuery

variable {style : Style} {scope : Scope}

/-- The faults of a limit are those of a query that has no fetch clause. -/
theorem limitAttempt_meets (hscope : scope.clause ≠ .selectOrderBy) (q : SelectQuery) :
  (q.limitAttempt style scope).Meets ({ q with fetch := none }.paginationFaults style scope)
  := by
  have hinlining : scope.inlining.clause ≠ .selectOrderBy := hscope
  cases style with
  | standard needed =>
    apply Attempt.Meets.append
    · apply Expr.clauseAttempt_meets hscope
    · apply Expr.clauseAttempt_meets hscope
  | openEdge =>
    apply Attempt.Meets.append
    · apply offsetAttempt_meets hinlining
    · apply Expr.clauseAttempt_meets hinlining

/-- The faults of a fetch clause are those of a query that has no limit. -/
theorem fetchAttempt_meets (hscope : scope.clause ≠ .selectOrderBy) (needsOffset : Bool)
    (q : SelectQuery) :
  (q.fetchAttempt style scope needsOffset).Meets
    ({ q with limit := none }.paginationFaults style scope)
  := by
  have hinlining : scope.inlining.clause ≠ .selectOrderBy := hscope
  obtain ⟨columns, source, condition, orderBy, limit, offset, fetch⟩ := q
  cases style with
  | standard needed =>
    have hoffset := @offsetAttempt_meets (.standard needed) _ hscope "\nOFFSET " needsOffset offset
    cases fetch with
    | some fetch => apply hoffset.append (Expr.clauseAttempt_meets hscope _ _ _ (some fetch.count))
    | none =>
      have hnothing : (Attempt.ok []).Meets [] := .nothing rfl
      have hfaults := hoffset.append hnothing
      rw [List.append_nil] at hfaults
      exact hfaults
  | openEdge =>
    have hoffset := @offsetAttempt_meets .openEdge _ hinlining "\n OFFSET " needsOffset offset
    cases fetch with
    | some fetch =>
      apply Attempt.Meets.checked
      apply hoffset.append (Expr.clauseAttempt_meets hinlining _ _ _ (some fetch.count))
    | none => apply hoffset.append (Attempt.Meets.nothing rfl)

/-- The limits on the rows of a query meet the faults of the clauses that are written of them. -/
theorem paginationAttempt_meets (hscope : scope.clause ≠ .selectOrderBy) (q : SelectQuery) :
  (q.paginationAttempt style scope).Meets (q.paginationFaults style scope)
  := by
  have hlimit := @limitAttempt_meets style _ hscope q
  have hfetch := @fetchAttempt_meets style _ hscope style.fetchNeedsOffset q
  obtain ⟨columns, source, condition, orderBy, limit, offset, fetch⟩ := q
  cases fetch with
  | some fetch =>
    cases limit with
    | some limit => exact ⟨rfl, rfl⟩
    | none => exact hfetch
  | none =>
    cases limit with
    | some limit => exact hlimit
    | none =>
      cases offset with
      | some offset => exact hlimit
      | none => cases style <;> exact ⟨rfl, rfl⟩

/-- A query meets the faults of its leaves up to the limits on its rows, and then those of the
limits. -/
theorem attempt_meets (q : SelectQuery) :
  (q.attempt style scope).Meets (q.faults style scope)
  := by
  have hbody : Woven style (q.bodyLeaves scope.qualifying)
      (q.bodyPieces style scope.qualifying) := by
    simpa [bodyLeaves, Expr.optionLeaves, List.flatMap_map]
      using Woven.of_exprs (q.bodyPieces_composed style scope.qualifying)
  apply Attempt.Meets.checked
  apply hbody.meets.append
  apply paginationAttempt_meets
  simp [Scope.entering]

end SelectQuery

/-! ## Definitions -/

/-- An identifier records nothing. -/
theorem Style.filterMap_failure?_identifier (style : Style) (name : String) (rest : List Piece) :
  (style.identifier name :: rest).filterMap Piece.failure? = rest.filterMap Piece.failure?
  := by
  rw [identifier]
  split <;> rfl

/-- The identifier of an owner records nothing. -/
theorem Style.filterMap_failure?_qualifiedBy (style : Style) (owner : String) (rest : List Piece) :
  (style.qualifiedBy owner rest).filterMap Piece.failure? = rest.filterMap Piece.failure?
  := by
  rw [qualifiedBy]
  split
  · rfl
  · rw [filterMap_failure?_identifier]
    rfl

/-- A column of a table definition meets the fault of its type first, and then those of its default.
-/
theorem ColumnDef.attempt_meets (style : Style) (scope : Scope) (c : ColumnDef) :
  (c.attempt style scope).Meets (c.faults style scope)
  := by
  have hbehind := WovenClause.of_exprs (c.behindType_composed style scope)
  rw [Expr.leavesAt_placed] at hbehind
  apply Attempt.Meets.append _ hbehind.meets
  apply Attempt.Meets.behind _ Style.typeAttempt_meets
  apply Style.filterMap_failure?_identifier

/-- What a constraint demands meets its faults. -/
theorem ConstraintKind.attempt_meets (style : Style) (scope : Scope) (c : Constraint) :
  (c.kind.attempt style scope c.table c.columns).Meets c.kindFaults
  := by
  have hwritten : ∀ (kind : ConstraintKind) {ps : List Piece},
      kind.attempt style scope c.table c.columns = .ok ps → (Attempt.ok ps).Meets [] := fun _ _ h =>
    (attempt_woven h).meets
  rw [Constraint.kindFaults]
  cases c.kind with
  | primaryKey => apply hwritten .primaryKey rfl
  | unique => apply hwritten .unique rfl
  | foreignKey references referenced onDelete =>
    apply Attempt.Meets.of_checked
    intro hfault
    apply hwritten (.foreignKey references referenced onDelete)
    rw [attempt.eq_def]
    simp only [hfault]
    rfl

/-- A constraint meets the lack of columns first. -/
theorem Constraint.attempt_meets (style : Style) (scope : Scope) (c : Constraint) :
  (c.attempt style scope).Meets c.faults
  := by
  apply Attempt.Meets.checked
  apply Attempt.Meets.behind _ (ConstraintKind.attempt_meets style scope c)
  split
  · apply Style.filterMap_failure?_identifier
  · rfl

/-- The constraints of a table definition meet their faults one after the other. -/
theorem TableDef.constraintsAttempt_meets (style : Style) (scope : Scope)
    (constraints : List Constraint) :
  (constraintsAttempt style scope constraints).Meets (constraints.flatMap Constraint.faults)
  := by
  induction constraints with
  | nil => apply Attempt.Meets.nothing rfl
  | cons c rest ih =>
    apply Attempt.Meets.append _ ih
    apply Attempt.Meets.behind rfl
    apply c.attempt_meets

/-- A table records nothing. -/
theorem Table.filterMap_failure?_pieces (style : Style) (scope : Scope) (t : Table) :
  (t.pieces style scope).filterMap Piece.failure? = []
  := (Woven.tablePieces style scope t).filterMap_eq (fun _ => rfl) (fun _ => rfl)

/-- A table definition meets the faults of its columns, and then those of its constraints. -/
theorem TableDef.attempt_meets (style : Style) (scope : Scope) (d : TableDef) :
  (d.attempt style scope).Meets (d.faults style scope)
  := by
  apply Attempt.Meets.checked
  apply Attempt.Meets.before rfl
  apply Attempt.Meets.append _ (constraintsAttempt_meets style _ d.constraints)
  apply Attempt.Meets.behind
  · rw [List.filterMap_append, List.filterMap_cons_none rfl, Table.filterMap_failure?_pieces]
    rfl
  · apply Attempt.Meets.separated
    intro c _
    apply c.attempt_meets

/-- The name of a constraint has no faults. -/
theorem Constraint.faults_prepared (style : Style) (c : Constraint) :
  (c.prepared style).faults = c.faults
  := by
  obtain ⟨name, hname⟩ := c.prepared_eq style
  rw [hname]
  rfl

/-! ## Statements -/

namespace Statement

variable {style : Style} {scope : Scope}

/-- Where one check is all that stops a statement, the faults of its leaves are recorded behind
it. -/
theorem meets_of_checked {s : Statement} (fault : Option CompileFault) {ps : List Piece}
    (h : s.attempt style scope = .checked fault (.ok ps)) :
  (s.attempt style scope).Meets (checkFaults fault ++ leafFaults style (s.leaves style scope))
  := by
  cases fault with
  | none =>
    have hwritten : s.attempt style scope = .ok ps := h
    rw [hwritten]
    apply (woven hwritten).meets
  | some fault =>
    rw [h]
    exact ⟨rfl, rfl⟩

/-- The writing of a statement comes upon its faults in their order. -/
theorem attempt_meets (style : Style) (scope : Scope) (s : Statement) :
  (s.attempt style scope).Meets (s.faults style scope)
  := by
  cases s with
  | select q => apply q.attempt_meets
  | insert q => apply meets_of_checked _ rfl
  | update q => apply meets_of_checked _ rfl
  | delete q => apply meets_of_checked none rfl
  | createTable d =>
    rw [attempt, prepared, faults]
    split
    · apply d.attempt_meets
    · have hfaults : (d.constraints.map (Constraint.prepared style)).flatMap Constraint.faults
          = d.constraints.flatMap Constraint.faults := by
        rw [List.flatMap_map]
        apply List.flatMap_congr
        intro c _
        apply c.faults_prepared
      rw [TableDef.faults, ← hfaults]
      apply TableDef.attempt_meets style scope
        { d with constraints := d.constraints.map (Constraint.prepared style) }
  | dropTable t => apply meets_of_checked none rfl
  | addConstraint c =>
    rw [faults, ← c.faults_prepared style]
    apply Attempt.Meets.behind _ (Constraint.attempt_meets style _ _)
    rw [List.filterMap_append, List.filterMap_cons_none rfl, Table.filterMap_failure?_pieces]
    rfl

end Statement

/-! ## The fault that is returned -/

/-- A compilation returns a fault at which the writing stopped or, when it did not stop, the first
one recorded, unless a moment could not be written. -/
theorem Attempt.Meets.compiled_eq_fail_iff {a : Attempt} {fs : List MetFault} (h : a.Meets fs)
    {failure : Failure} :
  a.compiled = .fail failure
    ↔ Piece.momentOf? a.written = none
      ∧ ∃ f ∈ MetFault.returned? fs, failure = .ofFault f.fault
  := by
  have hrecorded : Piece.failureOf? a.written
      = ((fs.takeWhile fun f => !f.stops).head?).map fun f => .ofFault f.fault := by
    rw [Piece.failureOf?, ← List.head?_filterMap, h.recorded, List.head?_map]
  have hcounts : a.failure.or (Piece.failureOf? a.written)
      = (MetFault.returned? fs).map fun f => .ofFault f.fault := by
    rw [h.failure, hrecorded, MetFault.returned?]
    cases hstop : fs.find? (·.stops) with
    | some stop => rfl
    | none =>
      rw [List.takeWhile_eq_self_iff.mpr (by simpa using hstop)]
      rfl
  rw [compiled, hcounts]
  cases Piece.momentOf? a.written with
  | some moment => simp [Report.unlogged, Report.fail]
  | none =>
    cases MetFault.returned? fs with
    | none => simp [Report.ok, Report.fail]
    | some f =>
      have hfail : Report.fail (.ofFault f.fault) = (Report.fail failure : Report CompiledQuery)
          ↔ failure = .ofFault f.fault := by
        constructor
        · intro hfail
          cases hfail
          rfl
        · rintro rfl
          rfl
      simpa using hfail

/-- Only types without a name are recorded. -/
def RecordsTypes (faults : List MetFault) : Prop :=
  ∀ f ∈ faults, f.stops = false → f.fault = .varcharWithoutLength

/-- Where no faults are met only types are recorded. -/
@[simp]
theorem recordsTypes_nil :
  RecordsTypes []
  := List.forall_mem_nil _

/-- Only types are recorded in both lists just when they are in each of them. -/
theorem recordsTypes_append {fs gs : List MetFault} :
  RecordsTypes (fs ++ gs) ↔ RecordsTypes fs ∧ RecordsTypes gs
  := List.forall_mem_append

/-- Only types are recorded in a row just when they are in each member. -/
theorem recordsTypes_flatMap {α : Type} {faults : α → List MetFault} {xs : List α} :
  RecordsTypes (xs.flatMap faults) ↔ ∀ x ∈ xs, RecordsTypes (faults x)
  := List.forall_mem_flatMap

/-- A check records nothing. -/
@[simp]
theorem recordsTypes_checkFaults (fault : Option CompileFault) :
  RecordsTypes (checkFaults fault)
  := by
  cases fault <;> simp [RecordsTypes, checkFaults]

/-- The one type without a name is a VARCHAR without a length. -/
theorem Style.typeFault?_eq_some {style : Style} {type : ColumnType} {fault : CompileFault}
    (h : style.typeFault? type = some fault) :
  fault = .varcharWithoutLength
  := by
  cases style with
  | standard needed => cases h
  | openEdge =>
    cases type with
    | varchar length =>
      cases length with
      | none => exact (Option.some.inj h).symm
      | some length => cases h
    | _ => cases h

/-- What leaves record is types without a name. -/
@[simp]
theorem recordsTypes_leafFaults (style : Style) (ls : List (Scope × Operand)) :
  RecordsTypes (leafFaults style ls)
  := by
  intro f hf _
  obtain ⟨fault, hfault, rfl⟩ := List.mem_map.mp hf
  obtain ⟨leaf, -, hleaf⟩ := List.mem_filterMap.mp hfault
  cases leaf with
  | mk scope leaf =>
    cases leaf with
    | type t => apply Style.typeFault?_eq_some hleaf
    | _ => cases hleaf

/-- Of a row count only types without a name are recorded. -/
theorem Expr.recordsTypes_clauseFaults (style : Style) (scope : Scope) (clause : String)
    (count : Option Expr) :
  RecordsTypes (clauseFaults style scope clause count)
  := by
  simp [clauseFaults, countFaults, recordsTypes_flatMap, recordsTypes_append]

/-- Of a query only types without a name are recorded. -/
theorem SelectQuery.recordsTypes_faults (style : Style) (scope : Scope) (q : SelectQuery) :
  RecordsTypes (q.faults style scope)
  := by
  have hpagination : ∀ scope, RecordsTypes (q.paginationFaults style scope) := by
    intro scope
    rw [paginationFaults.eq_def]
    split <;> simp [recordsTypes_append, Expr.recordsTypes_clauseFaults]
  simp [faults, recordsTypes_append, hpagination]

/-- Of a constraint nothing is recorded. -/
theorem Constraint.recordsTypes_faults (c : Constraint) :
  RecordsTypes c.faults
  := by
  have hkind : RecordsTypes c.kindFaults := by
    rw [kindFaults]
    split <;> simp
  rw [faults, recordsTypes_append]
  exact ⟨recordsTypes_checkFaults _, hkind⟩

/-- Of a statement only types without a name are recorded. -/
theorem Statement.recordsTypes_faults (style : Style) (scope : Scope) (s : Statement) :
  RecordsTypes (s.faults style scope)
  := by
  cases s with
  | select q => apply q.recordsTypes_faults
  | createTable d =>
    simp [faults, TableDef.faults, ColumnDef.faults, recordsTypes_append, recordsTypes_flatMap,
      Constraint.recordsTypes_faults]
  | dropTable t => apply recordsTypes_nil
  | addConstraint c => apply c.recordsTypes_faults
  | _ => simp [faults, recordsTypes_append]

/-- The writing of a statement comes upon its faults in their order.  A compilation that fails
returns the first of them just when the writing stops at this one, or at none, or at another
type without a name: a fault that was recorded is passed over for every other one at which the
writing stops later. -/
theorem earliest_returned_iff (s : Statement) :
  (s.attempt .openEdge {}).Meets (s.faults .openEdge {})
    ∧ ∀ failure, Style.openEdge.compile s = .fail failure →
      ∃ first returned, (s.faults .openEdge {}).head? = some first
        ∧ MetFault.returned? (s.faults .openEdge {}) = some returned
        ∧ failure = .ofFault returned.fault
        ∧ (failure = .ofFault first.fault
          ↔ first.stops ∨ ¬ returned.stops ∨ returned.fault = .varcharWithoutLength)
  := by
  have hmeets := s.attempt_meets .openEdge {}
  have hrecords := s.recordsTypes_faults .openEdge {}
  use hmeets
  intro failure h
  obtain ⟨-, returned, hreturned, rfl⟩ := hmeets.compiled_eq_fail_iff.mp h
  rw [Option.mem_def] at hreturned
  cases hfaults : s.faults .openEdge {} with
  | nil =>
    rw [hfaults] at hreturned
    cases hreturned
  | cons first rest =>
    rw [hfaults] at hreturned hrecords
    refine ⟨first, returned, rfl, hreturned, rfl, ?_⟩
    have hof : Failure.ofFault returned.fault = .ofFault first.fault
        ↔ returned.fault = first.fault := by
      simp [Failure.ofFault, Failure.ofCause]
    rw [hof]
    cases hstops : first.stops with
    | true =>
      -- The writing stops at the first fault, so it is the one that is returned.
      have hfirst : returned = first := by
        simpa [MetFault.returned?, hstops, eq_comm] using hreturned
      simp [hfirst]
    | false =>
      have hfault := hrecords first List.mem_cons_self hstops
      rw [hfault]
      cases hstop : returned.stops with
      | true => simp
      | false =>
        have hmem : returned ∈ first :: rest := by
          obtain hfind | ⟨-, hhead⟩ := Option.or_eq_some_iff.mp hreturned
          · exact List.mem_of_find?_eq_some hfind
          · exact List.mem_of_mem_head? hhead
        simp [hrecords returned hmem hstop]

/-- Notes that are numbered by a text of any length unless they are told otherwise, and a key
without columns. -/
def unkeyedNotes : Statement :=
  .createTable
    { table := { name := "notes" }
      columns :=
        [{ name := "number", type := .integer, default := some
            (.cast (.operand (.text "1")) (.operand (.type (.varchar none)))) }]
      constraints := [⟨.unique, { name := "notes" }, [], none⟩] }

/-- A constraint without columns is returned in the place of the type that was met before it. -/
theorem earliest_returned_iff_unkeyedNotes :
  Style.openEdge.compile unkeyedNotes = .fail (.ofFault (.constraintWithoutColumns "notes"))
    ∧ ∃ first, (unkeyedNotes.faults .openEdge {}).head? = some first
      ∧ Failure.ofFault (.constraintWithoutColumns "notes") ≠ .ofFault first.fault
  := by
  have h : Style.openEdge.compile unkeyedNotes
      = .fail (.ofFault (.constraintWithoutColumns "notes")) := by
    apply (unkeyedNotes.attempt_meets .openEdge {}).compiled_eq_fail_iff.mpr
    use by decide +kernel, ⟨.constraintWithoutColumns "notes", true⟩, by decide +kernel
  have hrecorded : (unkeyedNotes.faults .openEdge {}).head?
      = some (.recorded .varcharWithoutLength) := by decide +kernel
  have hstopped : MetFault.returned? (unkeyedNotes.faults .openEdge {})
      = some ⟨.constraintWithoutColumns "notes", true⟩ := by decide +kernel
  obtain ⟨-, hfails⟩ := earliest_returned_iff unkeyedNotes
  obtain ⟨first, returned, hfirst, hreturned, -, hiff⟩ := hfails _ h
  obtain rfl := Option.some.inj (hrecorded.symm.trans hfirst)
  obtain rfl := Option.some.inj (hstopped.symm.trans hreturned)
  refine ⟨h, _, hrecorded, ?_⟩
  rw [ne_eq, hiff]
  decide

/-- The notes on some rolls, as texts of any length. -/
def cappedNotes : Statement :=
  .select
    { columns :=
        [.cast (.operand (.column { name := "note" })) (.operand (.type (.varchar none)))]
      source := some { name := "rolls" }
      limit := some (.operand (.int (-1))) }

/-- The type without a name is met before the row count, which is the one that is returned. -/
theorem earliest_passed_over_cappedNotes :
  (cappedNotes.faults .openEdge {}).head? = some (.recorded .varcharWithoutLength)
    ∧ Style.openEdge.compile cappedNotes = .fail (.ofFault (.negativeCount "FETCH FIRST"))
    ∧ Failure.ofFault (.negativeCount "FETCH FIRST") ≠ .ofFault .varcharWithoutLength
  := by
  refine ⟨by decide +kernel, ?_, by decide⟩
  apply (cappedNotes.attempt_meets .openEdge {}).compiled_eq_fail_iff.mpr
  use by decide +kernel, ⟨.negativeCount "FETCH FIRST", true⟩, by decide +kernel

end SqlDialect
