import SqlDialect.Proofs.Render.Parted

/-!
# The statements that have SQL

A statement compiles exactly when it is well formed and no type without a name is written
anywhere in it.  Queries need columns and usable row counts, insertions rows of the right
length, updates assignments, and table definitions columns and usable constraints.  OpenEdge
has neither percentages nor ties, and no name for texts of any length.
-/

namespace SqlDialect

/-! ## Well-formed statements -/

/-- The type has a name in the style: OpenEdge has none for texts of any length. -/
def Style.Names (style : Style) (type : ColumnType) : Prop :=
  style = .openEdge → type ≠ .varchar none

/-- The value is an integer that is not negative. -/
inductive Value.IsCount : Value → Prop
  | smallint {n : Int16} (h : 0 ≤ n.toInt) : IsCount (.smallint (some n))
  | integer {n : Int32} (h : 0 ≤ n.toInt) : IsCount (.integer (some n))
  | bigint {n : Int64} (h : 0 ≤ n.toInt) : IsCount (.bigint (some n))

/-- The expression can stand as a row count: as a literal integer or a value it is not negative, and
as raw text it is not blank. -/
def Expr.IsCount : Expr → Prop
  | operand (.int n) => 0 ≤ n
  | operand (.inline value) => value.IsCount
  | operand (.bound value) => value.IsCount
  | operand (.raw text) => ∃ c ∈ text.toList, Text.isBlank c = false
  | _ => True

/-- The query has columns, it has not both a limit and a fetch clause, and its row counts are
usable.  OpenEdge has neither percentages nor ties. -/
structure SelectQuery.WellFormed (style : Style) (q : SelectQuery) : Prop where
  columns : q.columns ≠ []
  limits : q.limit = none ∨ q.fetch = none
  offset : ∀ e ∈ q.offset, e.IsCount
  limit : ∀ e ∈ q.limit, e.IsCount
  count : ∀ fetch ∈ q.fetch, fetch.count.IsCount
  fetch : style = .openEdge → ∀ fetch ∈ q.fetch, fetch.percent = false ∧ fetch.withTies = false

/-- The constraint has columns, and as a foreign key it refers to as many. -/
structure Constraint.WellFormed (c : Constraint) : Prop where
  columns : c.columns ≠ []
  referenced : ∀ references referenced onDelete,
    c.kind = .foreignKey references referenced onDelete → referenced.length = c.columns.length

/-- What a statement must have to be written, the types in its expressions apart. -/
def Statement.WellFormed (style : Style) : Statement → Prop
  | select q => q.WellFormed style
  | insert q => q.rows ≠ [] ∧ ∀ row ∈ q.rows, row.length = q.columns.length
  | update q => q.assignments ≠ []
  | delete _ => True
  | createTable d =>
    d.columns ≠ [] ∧ (∀ c ∈ d.columns, style.Names c.type) ∧ ∀ c ∈ d.constraints, c.WellFormed
  | dropTable _ => True
  | addConstraint c => c.WellFormed

/-! ## Attempts that stop -/

namespace Attempt

/-- What was written as a whole did not stop. -/
@[simp]
theorem failure_ok (pieces : List Piece) :
  (ok pieces).failure = none
  := rfl

/-- Attempts one after the other do not stop just when neither stops. -/
theorem failure_append_eq_none {a b : Attempt} :
  (a ++ b).failure = none ↔ a.failure = none ∧ b.failure = none
  := by
  rw [append_def, andThen]
  cases h : a.failure with
  | none => simp
  | some f => simp [h]

/-- A check does not stop an attempt when it finds no fault. -/
theorem failure_checked_eq_none {fault : Option CompileFault} {a : Attempt} :
  (checked fault a).failure = none ↔ fault = none ∧ a.failure = none
  := by
  cases fault with
  | none => simp [checked]
  | some fault => simp [checked, fail]

/-- Attempts in a row do not stop just when none of them stops. -/
theorem failure_separated_eq_none {separator : String} {items : List Attempt} :
  (separated separator items).failure = none ↔ ∀ a ∈ items, a.failure = none
  := by
  induction items with
  | nil => simp [separated]
  | cons a rest ih =>
    cases rest with
    | nil => simp [separated]
    | cons b rest =>
      rw [separated, failure_append_eq_none, failure_append_eq_none, ih, List.forall_mem_cons]
      · simp
      · simp

/-- An attempt that does not stop writes everything. -/
theorem eq_ok_iff {a : Attempt} :
  (∃ pieces, a = ok pieces) ↔ a.failure = none
  := by
  constructor
  · rintro ⟨pieces, rfl⟩
    rfl
  · intro h
    use a.written
    rw [ok, ← h]

end Attempt

/-! ## What is recorded -/

namespace Style

variable {style : Style} {type : ColumnType}

/-- A type has a name when its style finds one. -/
theorem names_iff :
  style.Names type ↔ ∃ name, style.typeName type = .ok name
  := by
  cases style with
  | standard needed => simp [Names, typeName]
  | openEdge =>
    cases type with
    | varchar length => cases length <;> simp [Names, typeName, ColumnType.openEdgeName]
    | _ => simp [Names, typeName, ColumnType.openEdgeName]

/-- A type that is written where the writing stops does not stop it just when it has a name. -/
theorem typeAttempt_failure_eq_none :
  (style.typeAttempt type).failure = none ↔ style.Names type
  := by
  rw [names_iff, typeAttempt]
  cases style.typeName type <;> simp [Attempt.ok, Attempt.fail]

end Style

/-- Nothing is recorded in the pieces of a value, but for a moment that could not be written. -/
theorem Value.failure?_pieces (style : Style) (value : Value) :
  ∀ p ∈ value.pieces style, p.failure? = none
  := by
  by_cases h : value.HasLiteral
  · intro p hp
    apply ((value.literalForm style h).unrecorded p hp).1
  · obtain ⟨moment, hmoment⟩ := Value.pieces_of_not_hasLiteral style h
    simp [hmoment, Piece.failure?]

/-- What is found neither in fixed texts nor in names is not found where it is in none of the
leaves. -/
theorem Woven.find_eq_none_iff {α : Type} {find : Piece → Option α} {style : Style}
    {ls : List (Scope × Operand)} {ps : List Piece} (htext : ∀ text, find (.plain text) = none)
    (hname : ∀ content, find (.quoted '"' content) = none) (h : Woven style ls ps) :
  (∀ p ∈ ps, find p = none) ↔ ∀ leaf ∈ ls, ∀ p ∈ leaf.2.pieces style leaf.1, find p = none
  := by
  rw [← List.filterMap_eq_nil_iff, h.filterMap_eq htext hname, List.flatMap_eq_nil_iff]
  simp only [List.filterMap_eq_nil_iff]

/-- A failure is recorded in a leaf when it is a type without a name. -/
theorem Operand.failure?_pieces_iff (style : Style) (scope : Scope) (leaf : Operand) :
  (∀ p ∈ leaf.pieces style scope, p.failure? = none)
    ↔ ∀ type, leaf = .type type → style.Names type
  := by
  cases leaf with
  | float x =>
    rw [pieces_float]
    simpa using fun p hp => ((x.literalForm style).unrecorded p hp).1
  | int n =>
    rw [pieces, tokens, Token.ofInt]
    split <;> simp [Token.pieces, Piece.failure?]
  | column c =>
    rw [pieces_column, (Woven.columnPieces style scope c).find_eq_none_iff (fun _ => rfl)
      (fun _ => rfl)]
    simp
  | type t =>
    rw [pieces_type, Style.typePieces]
    simp only [type.injEq, forall_eq', Style.names_iff]
    cases style.typeName t <;> simp [Piece.failure?]
  | inline value =>
    rw [pieces_inline]
    simpa using value.failure?_pieces style
  | bound value =>
    rw [pieces_bound]
    split
    · simpa using value.failure?_pieces style
    · simp [Piece.failure?]
  | _ => simp [pieces, tokens, Token.pieces, Piece.literal, Piece.failure?]

/-- Every moment in a leaf is written when its value has a literal. -/
theorem Operand.moment?_pieces (style : Style) (scope : Scope) {leaf : Operand}
    (h : ∀ value, leaf = .inline value ∨ leaf = .bound value → value.HasLiteral) :
  ∀ p ∈ leaf.pieces style scope, p.moment? = none
  := by
  cases leaf with
  | float x =>
    rw [pieces_float]
    intro p hp
    apply ((x.literalForm style).unrecorded p hp).2.1
  | int n =>
    rw [pieces, tokens, Token.ofInt]
    split <;> simp [Token.pieces, Piece.moment?]
  | column c =>
    rw [pieces_column, (Woven.columnPieces style scope c).find_eq_none_iff (fun _ => rfl)
      (fun _ => rfl)]
    simp
  | type t =>
    rw [pieces_type, Style.typePieces]
    split <;> simp [Piece.moment?]
  | inline value =>
    rw [pieces_inline]
    intro p hp
    apply ((value.literalForm style (h value (.inl rfl))).unrecorded p hp).2.1
  | bound value =>
    rw [pieces_bound]
    split
    · intro p hp
      apply ((value.literalForm style (h value (.inr rfl))).unrecorded p hp).2.1
    · simp [Piece.moment?]
  | _ => simp [pieces, tokens, Token.pieces, Piece.literal, Piece.moment?]

/-! ## Row counts -/

namespace Piece.Visible

variable {ps : List Piece}

/-- A text with a character other than a blank shows. -/
theorem of_any {text : String} (h : text.toList.any fun c => !Text.isBlank c) :
  Visible [.plain text]
  := by
  obtain ⟨c, hc, hblank⟩ := List.any_eq_true.mp h
  apply plain hc
  simpa using hblank

/-- A rendering is visible when one of its pieces is. -/
theorem of_mem {p : Piece} (hp : p ∈ ps) (h : Visible [p]) :
  Visible ps
  := by
  obtain ⟨c, hc, hblank⟩ := h
  use c
  rw [toList_textOf] at hc ⊢
  rw [List.flatMap_singleton] at hc
  exact ⟨List.mem_flatMap.mpr ⟨p, hp, hc⟩, hblank⟩

/-- A rendering is visible exactly when trimming leaves something of it. -/
theorem iff_trim :
  Visible ps ↔ (Text.trim (textOf ps).toList).isEmpty = false
  := by
  rw [← Bool.not_eq_true, List.isEmpty_iff, Text.trim_eq_nil_iff, Visible]
  simp

/-- An identifier shows, even that of an empty name, which is quoted. -/
theorem identifier (style : Style) (name : String) :
  Visible [style.identifier name]
  := by
  rw [Style.identifier]
  split
  · use '"'
    simp [toList_textOf, Piece.text, Text.quote]
    decide
  next h =>
    obtain ⟨hne, hword⟩ := isAnyWord_of_needsQuotes (Bool.not_eq_true _ |>.mp h)
    obtain ⟨c, hc⟩ := List.exists_mem_of_ne_nil _ (mt String.toList_eq_nil_iff.mp hne)
    apply plain hc
    apply Text.isBlank_of_isAnyWord (hword c hc)

/-- The name of a type shows. -/
theorem typeName {style : Style} {type : ColumnType} {name : String}
    (h : style.typeName type = .ok name) :
  Visible [.plain name]
  := by
  have hdecimal : ∀ precision scale, Visible [.plain (ColumnType.decimalName precision scale)] := by
    intro precision scale
    rw [ColumnType.decimalName]
    split
    · apply of_any
      decide
    · apply plain (c := 'D') (by simp) (by decide)
  have hvarchar : ∀ length, Visible [.plain (ColumnType.varcharName length)] := by
    intro length
    apply plain (c := 'V') (by simp [ColumnType.varcharName]) (by decide)
  cases style with
  | standard needed =>
    obtain rfl := Except.ok.inj h
    cases type with
    | decimal precision scale => apply hdecimal
    | varchar length =>
      cases length with
      | none => apply of_any; decide
      | some length => apply hvarchar
    | _ => apply of_any; decide
  | openEdge =>
    cases type with
    | decimal precision scale =>
      obtain rfl := Except.ok.inj h
      apply hdecimal
    | varchar length =>
      cases length with
      | none => cases h
      | some length =>
        obtain rfl := Except.ok.inj h
        apply hvarchar
    | _ =>
      obtain rfl := Except.ok.inj h
      apply of_any
      decide

end Piece.Visible

/-- Every type among the leaves has a name. -/
def TypesNamed (style : Style) (leaves : List (Scope × Operand)) : Prop :=
  ∀ leaf ∈ leaves, ∀ type, leaf.2 = .type type → style.Names type

/-- The types in both lists have names just when those in each of them have. -/
theorem typesNamed_append {style : Style} {ls ms : List (Scope × Operand)} :
  TypesNamed style (ls ++ ms) ↔ TypesNamed style ls ∧ TypesNamed style ms
  := List.forall_mem_append

/-- A value that counts rows shows. -/
theorem Value.IsCount.visible {value : Value} (h : value.IsCount) (style : Style) :
  Piece.Visible (value.pieces style)
  := by
  cases h with
  | smallint h => apply Piece.Visible.integer
  | integer h => apply Piece.Visible.integer
  | bigint h => apply Piece.Visible.integer

/-- The name of a column is always written, behind its table or without. -/
theorem Column.identifier_mem_pieces (style : Style) (scope : Scope) (c : Column) :
  style.identifier c.name ∈ c.pieces style scope
  := by
  rw [pieces]
  split
  · rw [Style.qualifiedBy, Style.qualifiedBy]
    split <;> split <;> simp
  · apply List.mem_singleton_self

/-- A leaf that can stand as a row count is visible. -/
theorem Operand.visible_of_isCount {style : Style} {scope : Scope} {leaf : Operand}
    (h : (Expr.operand leaf).IsCount) (htype : ∀ type, leaf = .type type → style.Names type) :
  Piece.Visible (leaf.pieces style scope)
  := by
  cases leaf with
  | null => apply Piece.Visible.of_any; decide
  | boolean x => apply Piece.Visible.boolean
  | float x =>
    rw [pieces_float]
    apply (x.literalForm style).visible
  | raw text =>
    obtain ⟨c, hc, hblank⟩ := h
    apply Piece.Visible.plain hc hblank
  | int n =>
    rw [pieces, tokens, Token.ofInt]
    split
    · apply Piece.Visible.of_mem List.mem_cons_self
      apply Piece.Visible.of_any
      decide
    · apply Piece.Visible.integer
  | text content => apply Piece.Visible.literal
  | column c =>
    rw [pieces_column]
    apply Piece.Visible.of_mem (c.identifier_mem_pieces style scope)
    apply Piece.Visible.identifier
  | type t =>
    obtain ⟨name, hname⟩ := Style.names_iff.mp (htype t rfl)
    rw [pieces_type, Style.typePieces, hname]
    apply Piece.Visible.typeName hname
  | inline value =>
    rw [pieces_inline]
    apply Value.IsCount.visible h
  | bound value =>
    rw [pieces_bound]
    split
    · apply Value.IsCount.visible h
    · apply Piece.Visible.marker
  | asterisk => apply Piece.Visible.of_any; decide

/-- What can stand as a row count is visible where renamings are written. -/
theorem Expr.visible_of_isCount {style : Style} {scope : Scope} {e : Expr} (h : e.IsCount)
    (hscope : scope.clause ≠ .selectOrderBy)
    (htype : ∀ type, e = .operand (.type type) → style.Names type) :
  Piece.Visible (e.pieces style scope)
  := by
  cases e with
  | operand leaf =>
    apply Operand.visible_of_isCount h
    rintro type rfl
    apply htype type rfl
  | unary op argument =>
    rw [pieces_unary]
    apply Piece.Visible.of_mem List.mem_cons_self
    apply Piece.Visible.of_any
    cases op <;> decide
  | binary op left right =>
    rw [pieces_binary]
    apply Piece.Visible.of_mem (List.mem_append_right _ List.mem_cons_self)
    apply Piece.Visible.of_any
    cases op <;> decide
  | cast argument target =>
    rw [pieces_cast]
    apply Piece.Visible.of_mem List.mem_cons_self
    apply Piece.Visible.of_any
    decide
  | labelled argument label =>
    rw [pieces_labelled, if_neg hscope]
    apply Piece.Visible.of_mem (List.mem_append_right _ List.mem_cons_self)
    apply Piece.Visible.of_any
    decide
  | currentTimestamp =>
    apply Piece.Visible.of_any
    cases style <;> rw [Style.currentTimestamp] <;> rfl
  | currentDate =>
    apply Piece.Visible.of_any
    decide
  | call name arguments =>
    rw [pieces_call]
    apply Piece.Visible.of_mem (p := .plain "(") (by simp)
    apply Piece.Visible.of_any
    decide
  | nextValue sequence =>
    rw [pieces_nextValue]
    cases style with
    | standard needed =>
      apply Piece.Visible.of_mem List.mem_cons_self
      apply Piece.Visible.of_any
      decide
    | openEdge =>
      apply Piece.Visible.of_mem (List.mem_append_right _ (List.mem_singleton_self _))
      apply Piece.Visible.of_any
      decide

/-! ## Attempts at queries -/

/-- A value passes the check of a row count just when it is one. -/
theorem Value.countFault?_eq_none {clause : String} {value : Value} :
  value.countFault? clause = none ↔ value.IsCount
  := by
  constructor
  · intro h
    rw [countFault?] at h
    split at h
    next n hn =>
      have hcount : 0 ≤ n := by
        by_contra hneg
        rw [if_pos (by omega)] at h
        cases h
      cases value with
      | smallint content =>
        obtain ⟨m, rfl, rfl⟩ := Option.map_eq_some_iff.mp hn
        apply IsCount.smallint hcount
      | integer content =>
        obtain ⟨m, rfl, rfl⟩ := Option.map_eq_some_iff.mp hn
        apply IsCount.integer hcount
      | bigint content =>
        obtain ⟨m, rfl, rfl⟩ := Option.map_eq_some_iff.mp hn
        apply IsCount.bigint hcount
      | _ => cases hn
    · cases h
  · intro h
    have hcount : ∃ n, value.integer? = some n ∧ 0 ≤ n := by
      cases h with
      | smallint h => exact ⟨_, rfl, h⟩
      | integer h => exact ⟨_, rfl, h⟩
      | bigint h => exact ⟨_, rfl, h⟩
    obtain ⟨n, hn, hle⟩ := hcount
    rw [countFault?, hn]
    apply if_neg (by omega)

/-- What can stand as a row count has nothing wrong with it before it is written, and as raw text it
is not blank. -/
theorem Expr.isCount_iff (clause : String) {e : Expr} :
  e.IsCount ↔ e.countFault? clause = none
    ∧ ∀ text, e = .operand (.raw text) → ∃ c ∈ text.toList, Text.isBlank c = false
  := by
  cases e with
  | operand leaf =>
    cases leaf with
    | inline value => simp [IsCount, countFault?, Value.countFault?_eq_none]
    | bound value => simp [IsCount, countFault?, Value.countFault?_eq_none]
    | _ => simp [IsCount, countFault?]
  | _ => simp [IsCount, countFault?]

/-- OpenEdge takes a fetch clause that counts rows one by one, without ties. -/
theorem SelectQuery.fetchFault?_eq_none {fetch : FetchClause} :
  fetchFault? (some fetch) = none ↔ fetch.percent = false ∧ fetch.withTies = false
  := by
  cases hpercent : fetch.percent <;> cases hties : fetch.withTies <;>
    simp [fetchFault?, hpercent, hties]

/-- The leaves of an expression that is there are its own. -/
theorem Expr.optionLeaves_some (scope : Scope) (e : Expr) :
  optionLeaves scope (some e) = e.leaves scope
  := by
  simp [optionLeaves]

section Counts

variable {style : Style} {scope : Scope} (hscope : scope.clause ≠ .selectOrderBy)
include hscope

/-- A row count is written when it is usable. -/
theorem Expr.countAttempt_failure_eq_none (clause : String) {e : Expr}
    (htypes : TypesNamed style (e.leaves scope)) :
  (e.countAttempt style scope clause).failure = none ↔ e.IsCount
  := by
  have hblank : (Attempt.checked
      (if (Text.trim (Piece.textOf (e.pieces style scope)).toList).isEmpty
        then some (.blankCount clause) else none) (.ok [])).failure = none
      ↔ Piece.Visible (e.pieces style scope) := by
    rw [Attempt.failure_checked_eq_none, Piece.Visible.iff_trim]
    simp
  have htype : ∀ type, e = .operand (.type type) → style.Names type := by
    rintro type rfl
    apply htypes (scope, .type type) (List.mem_singleton_self _) type rfl
  rw [countAttempt, Attempt.failure_checked_eq_none, Attempt.failure_append_eq_none, hblank]
  constructor
  · rintro ⟨hfault, -, hvisible⟩
    apply (isCount_iff clause).mpr
    use hfault
    rintro text rfl
    obtain ⟨c, hc, hblank⟩ := hvisible
    use c, hc, hblank
  · intro h
    exact ⟨((isCount_iff clause).mp h).1, rfl, visible_of_isCount h hscope htype⟩

/-- A clause does not stop the writing just when its count, if there is one, is a row count. -/
theorem Expr.clauseAttempt_failure_eq_none (start clause finish : String) {count : Option Expr}
    (htypes : TypesNamed style (optionLeaves scope count)) :
  (clauseAttempt style scope start clause finish count).failure = none ↔ ∀ e ∈ count, e.IsCount
  := by
  cases count with
  | none => simp [clauseAttempt]
  | some e =>
    rw [optionLeaves, Option.toList_some, List.flatMap_singleton] at htypes
    rw [clauseAttempt, Attempt.failure_append_eq_none, Attempt.failure_append_eq_none,
      countAttempt_failure_eq_none hscope clause htypes]
    simp

/-- The OFFSET clause does not stop the writing just when its count, if there is one, is a row
count. -/
theorem offsetAttempt_failure_eq_none (start : String) (needed : Bool) {offset : Option Expr}
    (htypes : TypesNamed style (Expr.optionLeaves scope offset)) :
  (offsetAttempt style scope start needed offset).failure = none ↔ ∀ e ∈ offset, e.IsCount
  := by
  cases offset with
  | none => simp [offsetAttempt]
  | some e => apply Expr.clauseAttempt_failure_eq_none hscope start _ _ htypes

namespace SelectQuery

variable {q : SelectQuery} (htypes : TypesNamed style (q.paginationLeaves style scope))
include htypes

/-- The clauses for a limit and an offset do not stop the writing just when both are row counts. -/
theorem limitAttempt_failure_eq_none (hfetch : q.fetch = none) :
  (q.limitAttempt style scope).failure = none
    ↔ (∀ e ∈ q.offset, e.IsCount) ∧ ∀ e ∈ q.limit, e.IsCount
  := by
  cases style with
  | standard needed =>
    simp only [paginationLeaves, hfetch] at htypes
    obtain ⟨hlimit, hoffset⟩ := typesNamed_append.mp htypes
    rw [limitAttempt, Attempt.failure_append_eq_none,
      Expr.clauseAttempt_failure_eq_none hscope _ _ _ hlimit,
      Expr.clauseAttempt_failure_eq_none hscope _ _ _ hoffset, and_comm]
  | openEdge =>
    simp only [paginationLeaves, hfetch] at htypes
    obtain ⟨hoffset, hlimit⟩ := typesNamed_append.mp htypes
    have hinlining : scope.inlining.clause ≠ .selectOrderBy := hscope
    rw [limitAttempt, Attempt.failure_append_eq_none,
      offsetAttempt_failure_eq_none hinlining _ _ hoffset,
      Expr.clauseAttempt_failure_eq_none hinlining _ _ _ hlimit]

/-- A fetch clause does not stop the writing just when both counts are row counts and OpenEdge has
no fault to find with it. -/
theorem fetchAttempt_failure_eq_none (needsOffset : Bool) {fetch : FetchClause}
    (hfetch : q.fetch = some fetch) :
  (q.fetchAttempt style scope needsOffset).failure = none
    ↔ (∀ e ∈ q.offset, e.IsCount) ∧ fetch.count.IsCount
      ∧ (style = .openEdge → fetch.percent = false ∧ fetch.withTies = false)
  := by
  cases style with
  | standard needed =>
    simp only [paginationLeaves, hfetch] at htypes
    obtain ⟨hoffset, hcount⟩ := typesNamed_append.mp htypes
    rw [← Expr.optionLeaves_some] at hcount
    rw [fetchAttempt, hfetch, Option.map_some, Option.map_some, Attempt.failure_append_eq_none,
      offsetAttempt_failure_eq_none hscope _ _ hoffset,
      Expr.clauseAttempt_failure_eq_none hscope _ _ _ hcount]
    simp
  | openEdge =>
    simp only [paginationLeaves, hfetch] at htypes
    obtain ⟨hoffset, hcount⟩ := typesNamed_append.mp htypes
    rw [← Expr.optionLeaves_some] at hcount
    have hinlining : scope.inlining.clause ≠ .selectOrderBy := hscope
    rw [fetchAttempt, hfetch, Option.map_some, Attempt.failure_checked_eq_none,
      Attempt.failure_append_eq_none, fetchFault?_eq_none,
      offsetAttempt_failure_eq_none hinlining _ _ hoffset,
      Expr.clauseAttempt_failure_eq_none hinlining _ _ _ hcount]
    simp
    tauto

/-- The limits on the rows of a query are written when they are usable. -/
theorem paginationAttempt_failure_eq_none :
  (q.paginationAttempt style scope).failure = none
    ↔ (q.limit = none ∨ q.fetch = none) ∧ (∀ e ∈ q.offset, e.IsCount)
      ∧ (∀ e ∈ q.limit, e.IsCount) ∧ (∀ fetch ∈ q.fetch, fetch.count.IsCount)
      ∧ (style = .openEdge → ∀ fetch ∈ q.fetch, fetch.percent = false ∧ fetch.withTies = false)
  := by
  rw [paginationAttempt]
  split
  next fetch limit offset hfetch hlimit => simp [hfetch, hlimit, Attempt.fail]
  next fetch offset hfetch hlimit =>
    rw [fetchAttempt_failure_eq_none hscope htypes _ hfetch]
    simp [hfetch, hlimit]
  next hfetch hlimit hoffset => simp [hfetch, hlimit, hoffset]
  next hfetch _ =>
    rw [limitAttempt_failure_eq_none hscope htypes hfetch]
    simp [hfetch]

end SelectQuery

end Counts

/-! ## Attempts at statements -/

namespace SelectQuery

/-- The writing of a query does not stop just when the query is well-formed. -/
theorem attempt_failure_eq_none {style : Style} {scope : Scope} {q : SelectQuery}
    (htypes : TypesNamed style (q.leaves style scope)) :
  (q.attempt style scope).failure = none ↔ q.WellFormed style
  := by
  have hpagination : (q.paginationAttempt style
      (scope.qualifying.entering .selectPagination)).failure = none ↔ _ :=
    paginationAttempt_failure_eq_none (by simp [Scope.entering]) (typesNamed_append.mp htypes).2
  rw [attempt, Attempt.failure_checked_eq_none, Attempt.failure_append_eq_none, hpagination]
  constructor
  · rintro ⟨hcolumns, -, hlimits, hoffset, hlimit, hcount, hfetch⟩
    refine ⟨?_, hlimits, hoffset, hlimit, hcount, hfetch⟩
    rintro hnil
    rw [hnil] at hcolumns
    cases hcolumns
  · intro h
    refine ⟨?_, rfl, h.limits, h.offset, h.limit, h.count, h.fetch⟩
    simp [h.columns]

end SelectQuery

/-- The writing of an insertion does not stop just when it has rows, each as long as its columns. -/
theorem InsertQuery.attempt_failure_eq_none {style : Style} {scope : Scope} {q : InsertQuery} :
  (q.attempt style scope).failure = none
    ↔ q.rows ≠ [] ∧ ∀ row ∈ q.rows, row.length = q.columns.length
  := by
  rw [attempt, Attempt.failure_checked_eq_none, rowFault?]
  by_cases h : q.rows = []
  · simp [h]
  · simp [h]

/-- The writing of an update does not stop just when it assigns something. -/
theorem UpdateQuery.attempt_failure_eq_none {style : Style} {scope : Scope} {q : UpdateQuery} :
  (q.attempt style scope).failure = none ↔ q.assignments ≠ []
  := by
  rw [attempt, Attempt.failure_checked_eq_none]
  simp

/-- A column of a table definition does not stop the writing just when its type has a name. -/
theorem ColumnDef.attempt_failure_eq_none {style : Style} {scope : Scope} {c : ColumnDef} :
  (c.attempt style scope).failure = none ↔ style.Names c.type
  := by
  rw [attempt, Attempt.failure_append_eq_none, Attempt.failure_append_eq_none,
    Style.typeAttempt_failure_eq_none]
  simp

/-- A constraint does not stop the writing just when it is well-formed. -/
theorem Constraint.attempt_failure_eq_none {style : Style} {scope : Scope} {c : Constraint} :
  (c.attempt style scope).failure = none ↔ c.WellFormed
  := by
  have hkind : (c.kind.attempt style scope c.table c.columns).failure = none
      ↔ ∀ references referenced onDelete, c.kind = .foreignKey references referenced onDelete →
        referenced.length = c.columns.length := by
    cases hc : c.kind with
    | primaryKey => simp [ConstraintKind.attempt]
    | unique => simp [ConstraintKind.attempt]
    | foreignKey references referenced onDelete =>
      change (Attempt.checked _ (.ok _)).failure = none ↔ _
      rw [Attempt.failure_checked_eq_none]
      simp
  rw [attempt, Attempt.failure_checked_eq_none, Attempt.failure_append_eq_none, hkind]
  constructor
  · rintro ⟨hcolumns, -, hreferenced⟩
    refine ⟨?_, hreferenced⟩
    intro hnil
    rw [if_pos hnil] at hcolumns
    cases hcolumns
  · intro h
    exact ⟨if_neg h.columns, rfl, h.referenced⟩

/-- The constraints of a table definition do not stop the writing just when they are well-formed. -/
theorem TableDef.constraintsAttempt_failure_eq_none {style : Style} {scope : Scope}
    {constraints : List Constraint} :
  (constraintsAttempt style scope constraints).failure = none ↔ ∀ c ∈ constraints, c.WellFormed
  := by
  induction constraints with
  | nil => simp [constraintsAttempt]
  | cons c rest ih =>
    rw [constraintsAttempt, Attempt.failure_append_eq_none, Attempt.failure_append_eq_none, ih,
      Constraint.attempt_failure_eq_none, List.forall_mem_cons]
    simp

/-- The writing of a table definition does not stop just when it has columns, all with named types,
and its constraints are well-formed. -/
theorem TableDef.attempt_failure_eq_none {style : Style} {scope : Scope} {d : TableDef} :
  (d.attempt style scope).failure = none
    ↔ d.columns ≠ [] ∧ (∀ c ∈ d.columns, style.Names c.type) ∧ ∀ c ∈ d.constraints, c.WellFormed
  := by
  rw [attempt, Attempt.failure_checked_eq_none, Attempt.failure_append_eq_none,
    Attempt.failure_append_eq_none, Attempt.failure_append_eq_none,
    Attempt.failure_separated_eq_none, List.forall_mem_map,
    constraintsAttempt_failure_eq_none]
  simp [ColumnDef.attempt_failure_eq_none]

namespace Statement

/-- The writing of a statement as it stands does not stop just when the statement is well-formed. -/
theorem rawAttempt_failure_eq_none {style : Style} {s : Statement}
    (htypes : TypesNamed style (s.leaves style {})) :
  (s.rawAttempt style {}).failure = none ↔ s.WellFormed style
  := by
  cases s with
  | select q => apply SelectQuery.attempt_failure_eq_none htypes
  | insert q => apply InsertQuery.attempt_failure_eq_none
  | update q => apply UpdateQuery.attempt_failure_eq_none
  | delete q => simp [rawAttempt, DeleteQuery.attempt, WellFormed]
  | createTable d => apply TableDef.attempt_failure_eq_none
  | dropTable t => simp [rawAttempt, Table.removalAttempt, WellFormed]
  | addConstraint c =>
    rw [rawAttempt, Constraint.additionAttempt, Attempt.failure_append_eq_none,
      Constraint.attempt_failure_eq_none]
    simp [WellFormed]

end Statement

/-- The name that a style gives to a constraint does not decide whether it is well formed. -/
theorem Constraint.wellFormed_prepared (style : Style) (c : Constraint) :
  (c.prepared style).WellFormed ↔ c.WellFormed
  := by
  obtain ⟨name, hname⟩ := c.prepared_eq style
  rw [hname]
  constructor
  · intro h
    exact ⟨h.columns, h.referenced⟩
  · intro h
    exact ⟨h.columns, h.referenced⟩

namespace Statement

/-- The names of constraints do not matter to whether a statement is well-formed. -/
theorem wellFormed_prepared (style : Style) (s : Statement) :
  (s.prepared style).WellFormed style ↔ s.WellFormed style
  := by
  cases s with
  | createTable d =>
    rw [prepared]
    split
    · rfl
    · simp only [WellFormed, List.forall_mem_map, Constraint.wellFormed_prepared]
  | addConstraint c => apply Constraint.wellFormed_prepared
  | _ => rfl

/-- The writing of a statement does not stop just when the statement is well-formed. -/
theorem attempt_failure_eq_none {style : Style} {s : Statement}
    (htypes : TypesNamed style (s.leaves style {})) :
  (s.attempt style {}).failure = none ↔ s.WellFormed style
  := by
  rw [← leaves_prepared] at htypes
  rw [attempt, rawAttempt_failure_eq_none htypes, wellFormed_prepared]

end Statement

namespace Woven

variable {style : Style} {ls : List (Scope × Operand)} {ps : List Piece}

/-- A failure is recorded exactly when a type without a name is written. -/
theorem failureOf?_eq_none (h : Woven style ls ps) :
  Piece.failureOf? ps = none ↔ TypesNamed style ls
  := by
  rw [Piece.failureOf?, List.findSome?_eq_none_iff,
    h.find_eq_none_iff (fun _ => rfl) (fun _ => rfl)]
  simp only [Operand.failure?_pieces_iff, TypesNamed]

/-- Where all values have literals no moment is lost. -/
theorem momentOf?_eq_none (h : Woven style ls ps)
    (hliteral : ∀ leaf ∈ ls, ∀ value, leaf.2 = .inline value ∨ leaf.2 = .bound value →
      value.HasLiteral) :
  Piece.momentOf? ps = none
  := by
  rw [Piece.momentOf?, List.findSome?_eq_none_iff,
    h.find_eq_none_iff (fun _ => rfl) (fun _ => rfl)]
  intro leaf hleaf
  apply Operand.moment?_pieces style leaf.1 (hliteral leaf hleaf)

end Woven

/-- A statement whose moments have timestamps compiles exactly when it is well formed and every type
that is written in it has a name. -/
theorem compile_succeeds_iff (style : Style) {s : Statement}
    (hliteral : ∀ value, .inline value ∈ s.operands ∨ .bound value ∈ s.operands →
      value.HasLiteral) :
  (∃ query, (style.compile s).result = .ok query)
    ↔ s.WellFormed style ∧ TypesNamed style (s.leaves style {})
  := by
  simp only [Style.compile, Attempt.result_compiled_eq_ok]
  constructor
  · rintro ⟨query, ps, hps, -, hrecorded, -⟩
    have htypes := (Statement.woven hps).failureOf?_eq_none.mp hrecorded
    exact ⟨(Statement.attempt_failure_eq_none htypes).mp (hps ▸ rfl), htypes⟩
  · rintro ⟨hformed, htypes⟩
    have hfailure := (Statement.attempt_failure_eq_none htypes).mpr hformed
    obtain ⟨ps, hps⟩ := Attempt.eq_ok_iff.mpr hfailure
    have hwoven := Statement.woven hps
    have hmoment : Piece.momentOf? ps = none := by
      apply hwoven.momentOf?_eq_none
      rintro leaf hleaf value hvalue
      have hmem := Statement.mem_operands_of_mem_leaves hleaf
      apply hliteral value
      obtain h | h := hvalue
      · exact .inl (h ▸ hmem)
      · exact .inr (h ▸ hmem)
    exact ⟨_, ps, hps, hmoment, hwoven.failureOf?_eq_none.mpr htypes, rfl⟩

/-- As many rolls as a value says, ordered by a column under an alias that is not written. -/
def rollsUpTo (count : Value) : Statement :=
  .select
    { columns := [.operand .asterisk]
      source := some { name := "rolls" }
      orderBy :=
        [⟨.labelled (.operand (.column { name := "id" })) (.operand (.type (.varchar none))),
          .ascending⟩]
      fetch := some { count := .operand (.bound count) } }

/-- Five rolls can be asked for, and a negative number of them cannot. -/
theorem compile_succeeds_iff_rollsUpTo :
  (∃ query, (Style.openEdge.compile (rollsUpTo (.smallint (some 5)))).result = .ok query)
    ∧ ¬ ∃ query, (Style.openEdge.compile (rollsUpTo (.smallint (some (-5))))).result = .ok query
  := by
  have hliteral : ∀ n value, .inline value ∈ (rollsUpTo (.smallint (some n))).operands
      ∨ .bound value ∈ (rollsUpTo (.smallint (some n))).operands → value.HasLiteral := by
    rintro n value h
    obtain rfl : value = .smallint (some n) := by
      simpa [rollsUpTo, Statement.operands, Statement.exprs, SelectQuery.exprs,
        Expr.operands] using h
    rintro moment h
    cases h
  constructor
  · apply (compile_succeeds_iff .openEdge (hliteral 5)).mpr
    constructor
    · refine ⟨by simp, .inl rfl, by simp, by simp, ?_, by simp⟩
      rintro fetch hfetch
      obtain rfl := Option.some.inj hfetch
      apply Value.IsCount.smallint
      decide
    · have hnone : ∀ leaf ∈ (rollsUpTo (.smallint (some 5))).leaves .openEdge {},
          ∀ type, leaf.2 ≠ .type type := by
        simp [rollsUpTo, Statement.leaves, SelectQuery.leaves, SelectQuery.paginationLeaves,
          Expr.leaves, Expr.optionLeaves, Scope.entering]
      intro leaf hleaf type htype
      cases hnone leaf hleaf type htype
  · intro h
    obtain ⟨hformed, -⟩ := (compile_succeeds_iff .openEdge (hliteral (-5))).mp h
    cases hformed.count _ rfl with
    | smallint h => cases h

end SqlDialect
