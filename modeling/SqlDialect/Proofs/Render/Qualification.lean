import SqlDialect.Proofs.Render.Faults
import SqlDialect.Proofs.Render.Writing

/-!
# Columns that stay qualified

A query turns the qualification of columns on, and it stays on for the statements behind it.
A rendering with qualified columns is the one without when no column of a table is written in
it, and has a longer text otherwise; its parameters are the same.  So statements that are
written one after the other do not disturb each other just when no query stands before a
statement of another kind of which a column of a table is written.
-/

namespace SqlDialect

/-! ## Longer renderings -/

/-- The second rendering is the first one when nothing makes them differ, and has a longer text
otherwise. -/
structure Lengthened (same : Prop) (short long : List Piece) : Prop where
  parameters : Piece.parametersOf long = Piece.parametersOf short
  eq_of_same : same → long = short
  length_le : (Piece.textOf short).length ≤ (Piece.textOf long).length
  same_of_length_le : (Piece.textOf long).length ≤ (Piece.textOf short).length → same
  empty : (Piece.textOf short).length = 0 → (Piece.textOf long).length = 0

namespace Lengthened

variable {same same' : Prop} {short long short' long' ps : List Piece}

/-- Where nothing makes them differ, a rendering compares with itself. -/
theorem refl (h : same) (ps : List Piece) :
  Lengthened same ps ps
  where
  parameters := rfl
  eq_of_same _ := rfl
  length_le := le_refl _
  same_of_length_le _ := h
  empty := id

/-- The condition may be given in another form. -/
theorem congr (h : Lengthened same short long) (hiff : same ↔ same') :
  Lengthened same' short long
  where
  parameters := h.parameters
  eq_of_same hsame := h.eq_of_same (hiff.mpr hsame)
  length_le := h.length_le
  same_of_length_le hle := hiff.mp (h.same_of_length_le hle)
  empty := h.empty

/-- The texts agree just when the renderings do. -/
theorem textOf_eq_iff (h : Lengthened same short long) :
  Piece.textOf long = Piece.textOf short ↔ same
  := by
  constructor
  · intro htext
    apply h.same_of_length_le
    rw [htext]
  · intro hsame
    rw [h.eq_of_same hsame]

/-- A longer rendering is without a text just when the shorter one is. -/
theorem textOf_eq_empty_iff (h : Lengthened same short long) :
  Piece.textOf long = "" ↔ Piece.textOf short = ""
  := by
  have hle := h.length_le
  rw [← String.length_eq_zero_iff, ← String.length_eq_zero_iff]
  constructor
  · intro hlong
    omega
  · apply h.empty

/-- Renderings one after the other differ when one of them does. -/
theorem append (h : Lengthened same short long) (h' : Lengthened same' short' long') :
  Lengthened (same ∧ same') (short ++ short') (long ++ long')
  := by
  have hle := h.length_le
  have hle' := h'.length_le
  constructor
  · rw [Piece.parametersOf, Piece.parametersOf, List.filterMap_append, List.filterMap_append]
    apply congrArg₂ _ h.parameters h'.parameters
  · rintro ⟨hsame, hsame'⟩
    rw [h.eq_of_same hsame, h'.eq_of_same hsame']
  · rw [Piece.textOf_append, Piece.textOf_append, String.length_append, String.length_append]
    omega
  · rw [Piece.textOf_append, Piece.textOf_append, String.length_append, String.length_append]
    intro hlong
    exact ⟨h.same_of_length_le (by omega), h'.same_of_length_le (by omega)⟩
  · rw [Piece.textOf_append, Piece.textOf_append, String.length_append, String.length_append]
    intro hempty
    rw [h.empty (by omega), h'.empty (by omega)]

/-- The same pieces may stand in front. -/
theorem behind (ps : List Piece) (h : Lengthened same short long) :
  Lengthened same (ps ++ short) (ps ++ long)
  := ((refl trivial ps).append h).congr (by simp)

/-- The same pieces may stand behind. -/
theorem before (ps : List Piece) (h : Lengthened same short long) :
  Lengthened same (short ++ ps) (long ++ ps)
  := (h.append (refl trivial ps)).congr (by simp)

/-- Parentheses stand around both or around neither. -/
theorem enclosed {needed : Prop} [Decidable needed] (h : Lengthened same short long) :
  Lengthened same (Piece.enclosed needed short) (Piece.enclosed needed long)
  := by
  rw [Piece.enclosed, Piece.enclosed]
  split
  · apply (h.behind [.plain "("]).before
  · apply h

/-- A front with a text that binds nothing makes a rendering longer. -/
theorem of_front (h : ¬ same) {front : List Piece} (hparameters : Piece.parametersOf front = [])
    (hfront : (Piece.textOf front).length ≠ 0) (hshort : (Piece.textOf short).length ≠ 0) :
  Lengthened same short (front ++ short)
  where
  parameters := by
    rw [Piece.parametersOf, List.filterMap_append]
    apply congrArg (· ++ _) hparameters
  eq_of_same hsame := absurd hsame h
  length_le := by
    rw [Piece.textOf_append, String.length_append]
    omega
  same_of_length_le := by
    rw [Piece.textOf_append, String.length_append]
    omega
  empty hempty := absurd hempty hshort

/-- Renderings in a row are lengthened when one of them is. -/
theorem separated {α : Type} (separator : String) {same : α → Prop} {f g : α → List Piece}
    {items : List α} (h : ∀ x ∈ items, Lengthened (same x) (f x) (g x)) :
  Lengthened (∀ x ∈ items, same x) (Piece.separated separator (items.map f))
    (Piece.separated separator (items.map g))
  := by
  induction items with
  | nil => apply refl (by simp)
  | cons x rest ih =>
    obtain ⟨hx, hrest⟩ := List.forall_mem_cons.mp h
    rw [List.forall_mem_cons]
    cases rest with
    | nil => simpa [Piece.separated] using hx
    | cons y rest =>
      change Lengthened _ (_ ++ (if _ then _ else _) ++ _) (_ ++ (if _ then _ else _) ++ _)
      simp only [hx.textOf_eq_empty_iff]
      apply (hx.before _).append (ih hrest)

end Lengthened

/-- What shows has a text. -/
theorem Piece.Visible.length_ne_zero {ps : List Piece} (h : Piece.Visible ps) :
  (Piece.textOf ps).length ≠ 0
  := by
  obtain ⟨c, hc, -⟩ := h
  intro hempty
  rw [String.length_eq_zero_iff.mp hempty] at hc
  cases hc

/-! ## Expressions -/

/-- None of the leaves is a column of a table. -/
def Untabled (leaves : List (Scope × Operand)) : Prop :=
  ∀ leaf ∈ leaves, ∀ column, leaf.2 = .column column → column.table = ""

/-- There is no column of a table among no leaves. -/
@[simp]
theorem untabled_nil :
  Untabled []
  := List.forall_mem_nil _

/-- There is no column of a table in both lists just when there is none in each of them. -/
theorem untabled_append {ls ms : List (Scope × Operand)} :
  Untabled (ls ++ ms) ↔ Untabled ls ∧ Untabled ms
  := List.forall_mem_append

/-- There is no column of a table in a row just when there is none in each member. -/
theorem untabled_flatMap {α : Type} {leaves : α → List (Scope × Operand)} {xs : List α} :
  Untabled (xs.flatMap leaves) ↔ ∀ x ∈ xs, Untabled (leaves x)
  := List.forall_mem_flatMap

/-- A leaf other than a column is no column of a table. -/
theorem untabled_singleton (scope : Scope) {leaf : Operand} (h : ∀ c, leaf ≠ .column c) :
  Untabled [(scope, leaf)]
  := by
  simpa [Untabled] using fun c hc => absurd hc (h c)

section

variable (style : Style) {scope : Scope} (hscope : scope.qualified = false)
include hscope

/-- A column of a table is longer when it is qualified. -/
theorem Column.lengthened (c : Column) :
  Lengthened (c.table = "") (c.pieces style scope) (c.pieces style scope.qualifying)
  := by
  have hshort : c.pieces style scope = [style.identifier c.name] := by simp [pieces, hscope]
  by_cases htable : c.table = ""
  · have hlong : c.pieces style scope.qualifying = [style.identifier c.name] := by
      simp [pieces, htable]
    rw [hshort, hlong]
    apply Lengthened.refl htable
  · have hlong : c.pieces style scope.qualifying
        = style.qualifiedBy c.schema (style.qualifiedBy c.table [])
          ++ [style.identifier c.name] := by
      rw [← Style.qualifiedBy_append, ← Style.qualifiedBy_append]
      apply if_pos ⟨rfl, htable⟩
    have hnames : Woven style [] (style.qualifiedBy c.schema (style.qualifiedBy c.table [])) :=
      Woven.names (Composed.qualifiedBy _ (Composed.qualifiedBy _ Composed.nil))
    have hpoint : .plain "." ∈ style.qualifiedBy c.schema (style.qualifiedBy c.table []) := by
      simp only [Style.qualifiedBy, htable]
      split <;> simp
    rw [hshort, hlong]
    apply Lengthened.of_front htable (hnames.filterMap_eq (fun _ => rfl) (fun _ => rfl))
    · intro hempty
      have htext := Piece.textOf_eq_empty_iff.mp (String.length_eq_zero_iff.mp hempty) _ hpoint
      exact absurd htext (by decide)
    · apply (Piece.Visible.identifier style c.name).length_ne_zero

/-- A leaf is longer where columns are qualified just when it is a column of a table. -/
theorem Operand.lengthened (leaf : Operand) :
  Lengthened (Untabled [(scope, leaf)]) (leaf.pieces style scope)
    (leaf.pieces style scope.qualifying)
  := by
  cases leaf with
  | column c =>
    rw [pieces_column, pieces_column]
    apply (c.lengthened style hscope).congr
    simp [Untabled]
  | _ => apply Lengthened.refl (untabled_singleton scope (by simp))

/-- An expression is longer where columns are qualified, unless no column of a table is written of
it. -/
theorem Expr.lengthened (e : Expr) :
  Lengthened (Untabled (e.leaves scope)) (e.pieces style scope) (e.pieces style scope.qualifying)
  := by
  induction e using induction generalizing scope with
  | operand leaf => apply leaf.lengthened style hscope
  | unary op argument ih =>
    rw [pieces_unary, pieces_unary]
    apply (ih hscope).enclosed.behind [_]
  | binary op left right ihl ihr =>
    rw [pieces_binary, pieces_binary, leaves, untabled_append]
    apply (ihl hscope).enclosed.append
    apply (ihr hscope).enclosed.behind [_]
  | cast argument target iha iht =>
    rw [pieces_cast, pieces_cast, leaves, untabled_append]
    have hargument := @iha (scope.entering .casting) hscope
    have htarget := @iht (scope.entering .casting) hscope
    apply ((hargument.behind [_]).append (htarget.behind [_])).before
  | labelled argument label iha ihl =>
    rw [pieces_labelled, pieces_labelled, leaves]
    split
    · rw [if_pos ‹_›]
      apply iha hscope
    · rw [if_neg ‹_›, untabled_append]
      apply (iha hscope).enclosed.append
      apply (ihl hscope).enclosed.behind [_]
  | currentTimestamp => apply Lengthened.refl (by simp [leaves])
  | currentDate => apply Lengthened.refl (by simp [leaves])
  | call name arguments ih =>
    have harguments := Lengthened.separated ", " fun e he => ih e he hscope
    rw [pieces_call, pieces_call, leaves, leavesOf_eq]
    apply ((harguments.behind [_, _]).before [_]).congr
    rw [← untabled_flatMap]
    simp [Untabled]
  | nextValue sequence => apply Lengthened.refl (by simp [leaves])

/-- A condition is longer where columns are qualified when it has a column of a table in it. -/
theorem Expr.lengthened_option (e : Option Expr) :
  Lengthened (Untabled (Expr.optionLeaves scope e)) (wherePieces style scope e)
    (wherePieces style scope.qualifying e)
  := by
  cases e with
  | none => apply Lengthened.refl (by simp [optionLeaves])
  | some e =>
    rw [optionLeaves, Option.toList_some, List.flatMap_singleton]
    apply (e.lengthened style hscope).behind [_]

end

/-! ## Attempts -/

/-- The second attempt stops just when the first does, and what it writes is as long or longer. -/
structure Attempt.Lengthened (same : Prop) (short long : Attempt) : Prop where
  failure : long.failure = short.failure
  written : SqlDialect.Lengthened same short.written long.written

namespace Attempt.Lengthened

variable {same same' : Prop} {a b a' b' : Attempt}

/-- Where nothing makes them differ, an attempt compares with itself. -/
theorem refl (h : same) (a : Attempt) :
  Lengthened same a a
  where
  failure := rfl
  written := .refl h _

/-- The condition may be given in another form. -/
theorem congr (h : Lengthened same a b) (hiff : same ↔ same') :
  Lengthened same' a b
  where
  failure := h.failure
  written := h.written.congr hiff

/-- What is written as a whole compares as its pieces do. -/
theorem ok {ps qs : List Piece} (h : SqlDialect.Lengthened same ps qs) :
  Lengthened same (.ok ps) (.ok qs)
  where
  failure := rfl
  written := h

/-- Behind an attempt that stops nothing is written. -/
theorem append (h : Lengthened same a b) (h' : Lengthened same' a' b') :
  Lengthened (same ∧ (a.failure = none → same')) (a ++ a') (b ++ b')
  := by
  have hfailure := h.failure
  rw [append_def, append_def, andThen, andThen]
  cases hstop : a.failure with
  | none =>
    rw [hstop] at hfailure
    rw [hfailure]
    constructor
    · apply h'.failure
    · apply (h.written.append h'.written).congr
      simp
  | some failure =>
    rw [hstop] at hfailure
    rw [hfailure]
    apply h.congr
    simp

/-- The same pieces may stand in front of both attempts. -/
theorem behind (ps : List Piece) (h : Lengthened same a b) :
  Lengthened same (.ok ps ++ a) (.ok ps ++ b)
  := ((refl trivial (.ok ps)).append h).congr (by simp [Attempt.ok])

/-- The same attempt may be made behind both. -/
theorem before (a' : Attempt) (h : Lengthened same a b) :
  Lengthened same (a ++ a') (b ++ a')
  := (h.append (refl trivial a')).congr (by simp)

/-- Where a check finds a fault nothing is written that could differ. -/
theorem checked (fault : Option CompileFault) (h : Lengthened same a b) :
  Lengthened (fault = none → same) (.checked fault a) (.checked fault b)
  := by
  cases fault with
  | none => apply h.congr (by simp)
  | some fault => apply refl (by simp)

/-- Of attempts in a row those are made that stand in front of the first that stops. -/
theorem separated {α : Type} (separator : String) {same : α → Prop} {goes : α → Bool}
    {f g : α → Attempt} {items : List α} (hgoes : ∀ x ∈ items, (f x).failure = none ↔ goes x)
    (h : ∀ x ∈ items, Lengthened (goes x → same x) (f x) (g x)) :
  Lengthened (∀ x ∈ items.takeWhile goes, same x) (.separated separator (items.map f))
    (.separated separator (items.map g))
  := by
  induction items with
  | nil => apply refl (by simp)
  | cons x rest ih =>
    obtain ⟨hx, hrest⟩ := List.forall_mem_cons.mp h
    obtain ⟨hgo, hgoes⟩ := List.forall_mem_cons.mp hgoes
    have hsame : (∀ y ∈ (x :: rest).takeWhile goes, same y)
        ↔ (goes x → same x) ∧ (goes x → ∀ y ∈ rest.takeWhile goes, same y) := by
      rw [List.takeWhile_cons]
      split <;> simp_all
    cases rest with
    | nil =>
      apply hx.congr
      rw [hsame]
      simp
    | cons y rest =>
      change Lengthened _ (_ ++ .ok (if _ then _ else _) ++ _) (_ ++ .ok (if _ then _ else _) ++ _)
      simp only [hx.written.textOf_eq_empty_iff]
      apply ((hx.before _).append (ih hgoes hrest)).congr
      rw [hsame, failure_append_eq_none, failure_ok, and_iff_left rfl, hgo]

end Attempt.Lengthened

/-! ## Statements -/

namespace Statement

/-- The statement is a query that turns the qualification of columns on. -/
def qualifies : Statement → Bool
  | select q => !q.columns.isEmpty
  | _ => false

/-- The leaves of a statement other than a query that are written before the writing stops. -/
def reached (style : Style) (scope : Scope) : Statement → List (Scope × Operand)
  | insert q => if q.rowFault? = none then (insert q).leaves style scope else []
  | update q => if q.assignments.isEmpty then [] else (update q).leaves style scope
  | createTable d =>
    let written := d.columns.takeWhile fun c => (style.typeFault? c.type).isNone
    (createTable { d with columns := written }).leaves style scope
  | delete q => (delete q).leaves style scope
  | _ => []

/-- A column of a table is written of a statement that does not turn the qualification of columns
on itself. -/
def Exposed (style : Style) (s : Statement) : Prop :=
  ¬ Untabled (s.reached style {})

end Statement

/-- Constraints are named by their columns alone. -/
theorem TableDef.constraintsAttempt_qualifying (style : Style) (scope : Scope)
    (constraints : List Constraint) :
  constraintsAttempt style scope.qualifying constraints
    = constraintsAttempt style scope constraints
  := by
  induction constraints with
  | nil => rfl
  | cons c rest ih =>
    rw [constraintsAttempt, constraintsAttempt, ih]
    rfl

section

variable (style : Style) {scope : Scope} (hscope : scope.qualified = false)
include hscope

/-- An insertion is longer where columns are qualified when a column of a table is written in its
rows. -/
theorem InsertQuery.lengthened (q : InsertQuery) :
  Attempt.Lengthened (Untabled ((Statement.insert q).reached style scope)) (q.attempt style scope)
    (q.attempt style scope.qualifying)
  := by
  have hvalues : (scope.entering .insertValues).qualified = false := hscope
  have hrow : ∀ row ∈ q.rows,
      Lengthened (∀ e ∈ row, Untabled (e.leaves (scope.entering .insertValues)))
        (rowPieces style (scope.entering .insertValues) row)
        (rowPieces style (scope.qualifying.entering .insertValues) row) := by
    intro row _
    have hexprs := Lengthened.separated ", " fun e (_ : e ∈ row) => e.lengthened style hvalues
    apply (hexprs.behind [_]).before
  have hrows := Lengthened.separated ",\n" hrow
  apply (Attempt.Lengthened.checked q.rowFault? (.ok ((hrows.behind [_]).behind _))).congr
  rw [Statement.reached]
  split
  next h =>
    simp only [h, forall_const, Statement.leaves, untabled_flatMap, ← List.flatMap_id,
      List.forall_mem_flatMap, id]
  next h => simp [h]

/-- An update is longer where columns are qualified when a column of a table is written in its
assignments or its condition. -/
theorem UpdateQuery.lengthened (q : UpdateQuery) :
  Attempt.Lengthened (Untabled ((Statement.update q).reached style scope)) (q.attempt style scope)
    (q.attempt style scope.qualifying)
  := by
  have hset : (scope.entering .updateSet).qualified = false := hscope
  have hwhere : (scope.entering .updateWhere).qualified = false := hscope
  have hassignment : ∀ assignment ∈ q.assignments,
      Lengthened (Untabled (assignment.2.leaves (scope.entering .updateSet)))
        (assignmentPieces style (scope.entering .updateSet) assignment)
        (assignmentPieces style (scope.qualifying.entering .updateSet) assignment) := by
    intro assignment _
    apply (assignment.2.lengthened style hset).behind [_, _]
  have hassignments := Lengthened.separated ", " hassignment
  have hcondition := Expr.lengthened_option style hwhere q.condition
  apply (Attempt.Lengthened.checked _
    (.ok (((hassignments.behind [_]).behind _).append hcondition))).congr
  rw [Statement.reached]
  split
  · simp
  · simp [Statement.leaves, untabled_append, untabled_flatMap]

/-- A deletion is longer where columns are qualified when a column of a table is written in its
condition. -/
theorem DeleteQuery.lengthened (q : DeleteQuery) :
  Attempt.Lengthened (Untabled ((Statement.delete q).reached style scope)) (q.attempt style scope)
    (q.attempt style scope.qualifying)
  := by
  have hwhere : (scope.entering .deleteWhere).qualified = false := hscope
  apply Attempt.Lengthened.ok ((Expr.lengthened_option style hwhere q.condition).behind _)

/-- A column of a table definition is longer where columns are qualified when a column of a table is
written in its default. -/
theorem ColumnDef.lengthened (c : ColumnDef) :
  Attempt.Lengthened
    ((style.typeFault? c.type).isNone → Untabled (Expr.optionLeaves scope.inlining c.default))
    (c.attempt style scope) (c.attempt style scope.qualifying)
  := by
  have hinlining : scope.inlining.qualified = false := hscope
  have hgoes : (c.attempt style scope).failure = none ↔ (style.typeFault? c.type).isNone := by
    rw [attempt_failure_eq_none, ← Style.typeFault?_eq_none, Option.isNone_iff_eq_none]
  obtain ⟨name, type, nullable, default⟩ := c
  cases default with
  | none => apply Attempt.Lengthened.refl (by simp [Expr.optionLeaves])
  | some value =>
    have hbehind := (value.lengthened style hinlining).behind [.plain " DEFAULT "]
    rw [Expr.optionLeaves, Option.toList_some, List.flatMap_singleton]
    apply (Attempt.Lengthened.append (.refl trivial _) (.ok (hbehind.behind _))).congr
    rw [attempt, Attempt.failure_append_eq_none, Attempt.failure_ok, and_iff_left rfl] at hgoes
    rw [hgoes, true_and]

/-- A table definition is longer where columns are qualified when a column of a table is written in
a default before the writing stops. -/
theorem TableDef.lengthened (d : TableDef) :
  Attempt.Lengthened (Untabled ((Statement.createTable d).reached style scope))
    (d.attempt style scope) (d.attempt style scope.qualifying)
  := by
  have htable : (scope.entering .createTable).qualified = false := hscope
  have hcolumns := Attempt.Lengthened.separated ",\n"
    (fun c (_ : c ∈ d.columns) => by
      rw [ColumnDef.attempt_failure_eq_none, ← Style.typeFault?_eq_none,
        ← Option.isNone_iff_eq_none])
    (fun c _ => c.lengthened style htable)
  have hconstraints : constraintsAttempt style (scope.qualifying.entering .createTableConstraint)
        d.constraints
      = constraintsAttempt style (scope.entering .createTableConstraint) d.constraints :=
    constraintsAttempt_qualifying style (scope.entering .createTableConstraint) d.constraints
  rw [attempt, attempt, hconstraints]
  apply (Attempt.Lengthened.checked _ (((hcolumns.behind _).before _).before _)).congr
  rw [Statement.reached, Statement.leaves, untabled_flatMap]
  split
  next hempty => simp [List.isEmpty_iff.mp hempty]
  next => simp

/-- What is written of a statement is the same with and without qualified columns unless a column
of a table is written of it and it is no query; it is longer with them then. -/
theorem Statement.lengthened (s : Statement) :
  Attempt.Lengthened (Untabled (s.reached style scope)) (s.attempt style scope)
    (s.attempt style scope.qualifying)
  := by
  cases s with
  | select q => apply Attempt.Lengthened.refl untabled_nil
  | insert q => apply q.lengthened style hscope
  | update q => apply q.lengthened style hscope
  | delete q => apply q.lengthened style hscope
  | createTable d =>
    rw [attempt, attempt, prepared]
    split
    · apply d.lengthened style hscope
    · apply TableDef.lengthened style hscope
        { d with constraints := d.constraints.map (Constraint.prepared style) }
  | dropTable t => apply Attempt.Lengthened.refl untabled_nil
  | addConstraint c => apply Attempt.Lengthened.refl untabled_nil

end

/-! ## Statements one after the other -/

namespace Draft

variable (style : Style)

/-- The draft that is left when the statement was written on it, whether or not the writing
stopped. -/
def addStatement (s : Statement) (d : Draft) : Draft :=
  ((s.write style).on d).2

/-- The draft on which the statements were written one after the other. -/
def writing (ss : List Statement) : Draft :=
  ss.foldl (fun d s => d.addStatement style s) blank

variable (s : Statement) (d : Draft)

/-- The draft that is left has the pieces of the attempt at the statement, in the scope behind it.
-/
theorem addStatement_eq :
  d.addStatement style s
    = (d.add (s.attempt style d.state.scope).written).inScope (s.scopeAfter d.state.scope)
  := congrArg Prod.snd (s.on_write style d)

/-- The scope behind a statement has columns qualified when the statement qualifies them. -/
theorem scope_addStatement :
  (d.addStatement style s).state.scope
    = if s.qualifies then d.state.scope.qualifying else d.state.scope
  := by
  rw [addStatement_eq]
  cases s with
  | select q =>
    change (if q.columns.isEmpty then _ else _) = if (!q.columns.isEmpty) = true then _ else _
    cases q.columns.isEmpty <;> rfl
  | _ => rfl

/-- A query leaves columns qualified, and any other statement leaves the scope as it is. -/
theorem scope_addStatement_eq_iff :
  (d.addStatement style s).state.scope = d.state.scope
    ↔ (s.qualifies → d.state.scope.qualified)
  := by
  have hqualifying : ∀ scope : Scope, scope.qualifying = scope ↔ scope.qualified := by
    rintro ⟨clause, qualified, inline⟩
    simp [Scope.qualifying, eq_comm]
  rw [scope_addStatement]
  split
  next h => simp [h, hqualifying]
  next h => simp [h]

/-- The scope after some statements: columns are qualified when there is a query among them. -/
theorem scope_foldl (ss : List Statement) :
  (ss.foldl (fun d s => d.addStatement style s) d).state.scope
    = if ss.any Statement.qualifies then d.state.scope.qualifying else d.state.scope
  := by
  induction ss generalizing d with
  | nil => rfl
  | cons s rest ih =>
    rw [List.foldl_cons, ih, scope_addStatement, List.any_cons]
    cases s.qualifies <;> cases rest.any Statement.qualifies <;> rfl

/-- The text of the attempt at a statement stands behind the text that was there. -/
theorem text_addStatement :
  (d.addStatement style s).text
    = d.text ++ Piece.textOf (s.attempt style d.state.scope).written
  := by
  rw [addStatement_eq]
  rfl

/-- The parameters of the attempt at a statement stand behind those that were there. -/
theorem parameters_addStatement :
  (d.addStatement style s).state.parameters
    = d.state.parameters ++ Piece.parametersOf (s.attempt style d.state.scope).written
  := by
  rw [addStatement_eq]
  rfl

/-- The statement adds the text to the draft that it adds to a blank one. -/
def AddsAlone : Prop :=
  (d.addStatement style s).text = d.text ++ (blank.addStatement style s).text

/-- What an attempt at a statement writes behind others, compared with what it writes alone. -/
theorem lengthened_writing (earlier : List Statement) :
  Attempt.Lengthened (earlier.any Statement.qualifies → Untabled (s.reached style {}))
    (s.attempt style {}) (s.attempt style (writing style earlier).state.scope)
  := by
  rw [writing, scope_foldl]
  split
  next h =>
    apply (s.lengthened style rfl).congr
    simp [h]
  next h =>
    apply Attempt.Lengthened.refl
    simp [h]

/-- The writing of a statement behind others ends as it ends alone. -/
theorem outcome_writing (earlier : List Statement) :
  ((s.write style).on (writing style earlier)).1 = ((s.write style).on blank).1
  := by
  rw [s.on_write, s.on_write, Attempt.outcome, Attempt.outcome,
    (lengthened_writing style s earlier).failure]
  rfl

/-- Behind other statements a statement adds what it adds alone just when no query stands among them
or no column of a table is written of it. -/
theorem addsAlone_writing_iff (earlier : List Statement) :
  AddsAlone style s (writing style earlier)
    ↔ ∀ a ∈ earlier, a.qualifies → ¬ s.Exposed style
  := by
  have hfresh : (blank.addStatement style s).text = Piece.textOf (s.attempt style {}).written := by
    rw [text_addStatement]
    apply String.empty_append
  rw [AddsAlone, text_addStatement, hfresh, String.append_right_inj,
    (lengthened_writing style s earlier).written.textOf_eq_iff, List.any_eq_true]
  simp [Statement.Exposed]

end Draft

/-- Every member of a list is related to those behind it just when those in front of every member
are related to it. -/
theorem pairwise_iff_forall_split {α : Type} {R : α → α → Prop} {l : List α} :
  l.Pairwise R ↔ ∀ earlier x later, l = earlier ++ x :: later → ∀ a ∈ earlier, R a x
  := by
  constructor
  · rintro h earlier x later rfl a ha
    apply (List.pairwise_append.mp h).2.2 a ha x List.mem_cons_self
  · intro h
    rw [List.pairwise_iff_forall_sublist]
    intro a b hab
    obtain ⟨front, back, rfl, ha, hb⟩ := List.cons_sublist_iff.mp hab
    obtain ⟨between, later, rfl⟩ := List.append_of_mem (List.singleton_sublist.mp hb)
    apply h (front ++ between) b later (by simp) a
    simp [ha]

namespace Draft

/-- A statement leaves the clause and the way of writing values as it found them, and whether
columns are qualified unless it is a query.  Of statements that are written one after the other each
ends as it ends alone and adds its own parameters; each adds its own text just when no query stands
in front of a statement of another kind of which a column of a table is written. -/
theorem statements_alone_iff (style : Style) :
  (∀ (s : Statement) (d : Draft),
    (d.addStatement style s).state.scope.clause = d.state.scope.clause
      ∧ (d.addStatement style s).state.scope.inline = d.state.scope.inline
      ∧ ((d.addStatement style s).state.scope = d.state.scope
        ↔ (s.qualifies → d.state.scope.qualified)))
  ∧ ∀ ss : List Statement,
    (∀ earlier s later, ss = earlier ++ s :: later →
      ((s.write style).on (writing style earlier)).1 = ((s.write style).on blank).1
        ∧ ((writing style earlier).addStatement style s).state.parameters
          = (writing style earlier).state.parameters
            ++ (blank.addStatement style s).state.parameters)
    ∧ ((∀ earlier s later, ss = earlier ++ s :: later → AddsAlone style s (writing style earlier))
      ↔ ss.Pairwise fun a b => a.qualifies → ¬ b.Exposed style)
  := by
  constructor
  · intro s d
    refine ⟨?_, ?_, d.scope_addStatement_eq_iff style s⟩ <;>
    · rw [scope_addStatement]
      split <;> rfl
  · intro ss
    constructor
    · intro earlier s later _
      use outcome_writing style s earlier
      rw [parameters_addStatement, (lengthened_writing style s earlier).written.parameters,
        parameters_addStatement]
      rfl
    · rw [pairwise_iff_forall_split]
      simp only [addsAlone_writing_iff]

/-- All rolls. -/
def allRolls : Statement :=
  .select { columns := [.operand .asterisk], source := some { name := "rolls" } }

/-- The removal of a roll that is found by the column. -/
def rollRemoved (column : Column) : Statement :=
  .delete
    { table := { name := "rolls" }
      condition := some (.binary .equal (.operand (.column column)) (.operand (.int 7))) }

/-- Behind a query the removal of a roll adds what it adds alone when its column names no table. -/
theorem statements_alone_iff_rollRemoved :
  AddsAlone .openEdge (rollRemoved { name := "id" })
      (writing .openEdge [rollRemoved { name := "id", table := "rolls" }, allRolls])
    ∧ (rollRemoved { name := "id", table := "rolls" }).Exposed .openEdge
    ∧ ¬ (rollRemoved { name := "id" }).Exposed .openEdge
  := by
  have hexposed : (rollRemoved { name := "id", table := "rolls" }).Exposed .openEdge := by
    intro huntabled
    exact absurd (huntabled _ List.mem_cons_self _ rfl) (by decide)
  have hcovered : ¬ (rollRemoved { name := "id" }).Exposed .openEdge := by
    simp [Statement.Exposed, rollRemoved, Statement.reached, Statement.leaves, Expr.optionLeaves,
      Expr.leaves, Untabled]
  obtain ⟨-, hrow⟩ := statements_alone_iff .openEdge
  obtain ⟨-, halone⟩ := hrow [rollRemoved { name := "id", table := "rolls" }, allRolls,
    rollRemoved { name := "id" }]
  have hremoved : ∀ column, (rollRemoved column).qualifies = false := fun _ => rfl
  refine ⟨?_, hexposed, hcovered⟩
  apply halone.mpr _ [_, _] _ [] rfl
  simp [hremoved, hcovered]

/-- A column stays qualified behind a query. -/
theorem qualified_behind_allRolls :
  (addStatement .openEdge (rollRemoved { name := "id", table := "rolls" }) blank).text
      = "DELETE FROM rolls\nWHERE id = 7"
    ∧ (writing .openEdge [allRolls]).text = "SELECT *\nFROM rolls"
    ∧ (writing .openEdge [allRolls, rollRemoved { name := "id", table := "rolls" }]).text
      = "SELECT *\nFROM rollsDELETE FROM rolls\nWHERE rolls.id = 7"
    ∧ (writing .openEdge [allRolls]).state.scope.qualified = true
  := by
  decide +kernel

end Draft

end SqlDialect
