import SqlDialect.Proofs.Expr.Operands
import SqlDialect.Proofs.Render.Pieces
import SqlDialect.Proofs.Render.Written
import SqlDialect.Proofs.Text.Alike
import SqlDialect.Render.Compile

/-!
# Labels that are left out

An ORDER BY clause leaves labels out.  What is written then is what is written of the
expression without its labels, when no label is inside of a conversion and every operand
stands in parentheses just when it does without its labels.  In all other cases the texts
differ: labels in conversions are written, which adds characters other than parentheses, and
without them the two texts can be read side by side up to the first parenthesis that differs.
-/

namespace SqlDialect

open Text

/-! ## The texts of expressions -/

namespace Expr

/-- The text of an expression. -/
def chars (style : Style) (scope : Scope) (e : Expr) : List Char :=
  (Piece.textOf (e.pieces style scope)).toList

section

variable (style : Style) (scope : Scope)

theorem chars_enclosed {needed : Prop} [Decidable needed] (e : Expr) :
  (Piece.textOf (Piece.enclosed needed (e.pieces style scope))).toList
    = enclosed needed (e.chars style scope)
  := by
  rw [Piece.enclosed, enclosed]
  split
  · simp [Piece.toList_textOf, Piece.text, chars]
  · rfl

theorem chars_unary (op : UnaryOp) (argument : Expr) :
  (unary op argument).chars style scope
    = op.text.toList ++ enclosed (argument.precedence ≤ op.precedence) (argument.chars style scope)
  := by
  rw [chars, pieces_unary, Piece.toList_textOf_cons, chars_enclosed]
  rfl

theorem chars_binary (op : BinaryOp) (left right : Expr) :
  (binary op left right).chars style scope
    = enclosed (left.precedence < op.precedence) (left.chars style scope)
      ++ (op.text.toList
        ++ enclosed (right.precedence ≤ op.precedence) (right.chars style scope))
  := by
  rw [chars, pieces_binary, Piece.toList_textOf_append, Piece.toList_textOf_cons, chars_enclosed,
    chars_enclosed]
  rfl

theorem chars_cast (argument target : Expr) :
  (cast argument target).chars style scope
    = "CAST(".toList ++ (argument.chars style (scope.entering .casting)
      ++ (" AS ".toList ++ (target.chars style (scope.entering .casting) ++ [')'])))
  := by
  simp [chars, pieces_cast, Piece.cast, Piece.toList_textOf, Piece.text]

theorem chars_labelled_of_ne {scope : Scope} (h : scope.clause ≠ .selectOrderBy)
    (argument label : Expr) :
  (labelled argument label).chars style scope
    = enclosed (argument.precedence < labelPrecedence) (argument.chars style scope)
      ++ (" AS ".toList
        ++ enclosed (label.precedence ≤ labelPrecedence) (label.chars style scope))
  := by
  rw [chars, pieces_labelled, if_neg h, Piece.toList_textOf_append, Piece.toList_textOf_cons,
    chars_enclosed, chars_enclosed]
  rfl

theorem chars_labelled {scope : Scope} (h : scope.clause = .selectOrderBy)
    (argument label : Expr) :
  (labelled argument label).chars style scope = argument.chars style scope
  := by
  rw [chars, pieces_labelled, if_pos h]
  rfl

theorem chars_call (name : String) (arguments : List Expr) :
  (call name arguments).chars style scope
    = name.toList ++ '(' :: (listed (arguments.map (chars style scope)) ++ [')'])
  := by
  have hlisted : ∀ items : List (List Piece), (Piece.textOf (Piece.separated ", " items)).toList
      = listed (items.map fun item => (Piece.textOf item).toList) := by
    intro items
    induction items with
    | nil => rfl
    | cons item rest ih =>
      cases rest with
      | nil => rfl
      | cons next rest =>
        rw [Piece.separated, Piece.toList_textOf_append, Piece.toList_textOf_append, ih]
        · simp only [List.map_cons, listed, String.toList_eq_nil_iff]
          split <;> rfl
        · simp
  rw [chars, pieces_call, List.cons_append, List.cons_append, Piece.toList_textOf_cons,
    Piece.toList_textOf_cons, Piece.toList_textOf_append, hlisted, List.map_map]
  rfl

end

/-! ## Labels that are written -/

/-- All labels of the expression are left out. -/
def LeavesOutLabels (scope : Scope) (e : Expr) : Prop :=
  ∀ node ∈ e.written scope, node.2.isLabelled → node.1.clause = .selectOrderBy

variable {style : Style} {scope : Scope}

theorem LeavesOutLabels.clause_eq {argument label : Expr}
    (h : (labelled argument label).LeavesOutLabels scope) :
  scope.clause = .selectOrderBy
  := h (scope, labelled argument label) List.mem_cons_self rfl

/-- What is not under a label has a text just when it has one without the labels inside of it. -/
theorem chars_withoutLabels_eq_nil_iff {e : Expr} (h : e.isLabelled = false) :
  e.withoutLabels.chars style scope = [] ↔ e.chars style scope = []
  := by
  cases e with
  | unary op argument =>
    have hop : op.text ≠ "" := by cases op <;> decide
    simp [withoutLabels, chars_unary, hop]
  | binary op left right =>
    have hop : op.text ≠ "" := by cases op <;> decide
    simp [withoutLabels, chars_binary, hop]
  | cast argument target => simp [withoutLabels, chars_cast]
  | labelled argument label => cases h
  | call name arguments => simp [withoutLabels, chars_call]
  | _ => rfl

/-- Without its labels an expression without a text has no text either. -/
theorem chars_withoutLabels_eq_nil {e : Expr} (h : e.chars style scope = []) :
  e.withoutLabels.chars style scope = []
  := by
  induction e using induction with
  | labelled argument label ih _ =>
    by_cases hclause : scope.clause = .selectOrderBy
    · rw [chars_labelled style hclause] at h
      apply ih h
    · rw [chars_labelled_of_ne style hclause] at h
      simp at h
  | _ => apply (chars_withoutLabels_eq_nil_iff rfl).mpr h

/-- Without its labels an expression weighs less, unless its labels are left out. -/
theorem weight_withoutLabels (style : Style) (scope : Scope) (e : Expr) :
  weight (e.withoutLabels.chars style scope) ≤ weight (e.chars style scope)
    ∧ (weight (e.chars style scope) ≤ weight (e.withoutLabels.chars style scope) →
      e.LeavesOutLabels scope)
  := by
  induction e using induction generalizing scope with
  | unary op argument ih =>
    obtain ⟨hle, heq⟩ := ih scope
    rw [LeavesOutLabels, forall_written_unary, withoutLabels, chars_unary, chars_unary,
      weight_append, weight_append, weight_enclosed, weight_enclosed]
    use by omega
    intro h
    use by simp [isLabelled]
    apply heq (by omega)
  | binary op left right ihl ihr =>
    obtain ⟨hlel, heql⟩ := ihl scope
    obtain ⟨hler, heqr⟩ := ihr scope
    rw [LeavesOutLabels, forall_written_binary, withoutLabels, chars_binary, chars_binary]
    simp only [weight_append, weight_enclosed]
    use by omega
    intro h
    use by simp [isLabelled]
    constructor
    · apply heql (by omega)
    · apply heqr (by omega)
  | cast argument target iha iht =>
    obtain ⟨hlea, heqa⟩ := iha (scope.entering .casting)
    obtain ⟨hlet, heqt⟩ := iht (scope.entering .casting)
    rw [LeavesOutLabels, forall_written_cast, withoutLabels, chars_cast, chars_cast]
    simp only [weight_append]
    use by omega
    intro h
    use by simp [isLabelled]
    constructor
    · apply heqa (by omega)
    · apply heqt (by omega)
  | labelled argument label ih _ =>
    obtain ⟨hle, heq⟩ := ih scope
    rw [withoutLabels]
    by_cases hclause : scope.clause = .selectOrderBy
    · rw [LeavesOutLabels, forall_written_labelled hclause, chars_labelled style hclause]
      use hle
      intro h
      use fun _ => hclause
      apply heq h
    -- A label that is written weighs something, so the two texts cannot weigh the same.
    · have hname : weight " AS ".toList = 4 := by decide
      rw [chars_labelled_of_ne style hclause]
      simp only [weight_append, weight_enclosed, hname]
      use by omega
      intro h
      omega
  | call name arguments ih =>
    have hnil : ∀ e ∈ arguments,
        e.chars style scope = [] → e.withoutLabels.chars style scope = [] := fun e _ =>
      chars_withoutLabels_eq_nil
    obtain ⟨hle, heq⟩ := weight_listed_le hnil fun e he => (ih e he scope).1
    rw [LeavesOutLabels, forall_written_call, withoutLabels, withoutLabelsOf_eq, chars_call,
      chars_call, List.map_map]
    simp only [Function.comp_def, weight_append, weight_opening]
    use by omega
    intro h
    use by simp [isLabelled]
    intro e he
    apply (ih e he scope).2
    apply heq (by omega) e he
  | _ => simp [withoutLabels, LeavesOutLabels, written, isLabelled]

/-! ## Parentheses that are kept -/

/-- Without their labels the operands stand in parentheses just when they do with them. -/
def KeepsParentheses : Expr → Prop
  | unary op argument =>
    argument.precedence ≤ op.precedence ↔ argument.withoutLabels.precedence ≤ op.precedence
  | binary op left right =>
    (left.precedence < op.precedence ↔ left.withoutLabels.precedence < op.precedence)
      ∧ (right.precedence ≤ op.precedence ↔ right.withoutLabels.precedence ≤ op.precedence)
  | _ => True

theorem unopened_text_unary (op : UnaryOp) (rest : List Char) :
  Unopened (op.text.toList ++ rest)
  := by
  cases op <;> simp [Unopened, UnaryOp.text]

theorem unopened_text_binary (op : BinaryOp) (rest : List Char) :
  Unopened (op.text.toList ++ rest) ∧ (op.text.toList ++ rest).head? ≠ some ')'
  := by
  cases op <;> simp [Unopened, BinaryOp.text]

namespace LeavesOutLabels

/-- An expression with a text has one without its labels. -/
theorem chars_eq_nil {e : Expr} (hleft : e.LeavesOutLabels scope)
    (h : e.withoutLabels.chars style scope = []) :
  e.chars style scope = []
  := by
  induction e using induction with
  | labelled argument label ih _ =>
    have hclause := hleft.clause_eq
    rw [LeavesOutLabels, forall_written_labelled hclause] at hleft
    rw [chars_labelled style hclause]
    apply ih hleft.2 h
  | _ => apply (chars_withoutLabels_eq_nil_iff rfl).mp h

/-- What is written of no other expressions is read like itself. -/
theorem readAlike_atom {e : Expr} (hwritten : e.written scope = [(scope, e)])
    (h : e.KeepsParentheses) :
  ReadAlike (∀ node ∈ e.written scope, node.2.KeepsParentheses) (e.chars style scope)
    (e.chars style scope)
  := by
  apply (ReadAlike.refl _).imp
  simpa [hwritten] using h

/-- An expression is read like itself without its labels, and then its parentheses are kept. -/
theorem readAlike {e : Expr} (hleft : e.LeavesOutLabels scope) :
  ReadAlike (∀ node ∈ e.written scope, node.2.KeepsParentheses) (e.chars style scope)
    (e.withoutLabels.chars style scope)
  := by
  have hclosing : ∀ rest, Unopened ([')'] ++ rest) := by simp [Unopened]
  have hnaming : ∀ text rest, Unopened (" AS ".toList ++ text ++ rest) := by simp [Unopened]
  induction e using induction generalizing scope with
  | unary op argument ih =>
    rw [LeavesOutLabels, forall_written_unary] at hleft
    rw [forall_written_unary, withoutLabels, chars_unary, chars_unary]
    apply (ih hleft.2).behind (unopened_text_unary op)
  | binary op left right ihl ihr =>
    rw [LeavesOutLabels, forall_written_binary] at hleft
    obtain ⟨-, hl, hr⟩ := hleft
    -- A label binds more strongly than every operator between operands.
    have hneeded : left.precedence < op.precedence →
        left.withoutLabels.precedence < op.precedence := by
      intro hneeded
      rwa [precedence_withoutLabels (isLabelled_of_precedence_le (Nat.le_of_lt hneeded))]
    have hright : ReadAlike _
        (op.text.toList ++ enclosed (right.precedence ≤ op.precedence) (right.chars style scope))
        (op.text.toList ++ enclosed (right.withoutLabels.precedence ≤ op.precedence)
          (right.withoutLabels.chars style scope)) :=
      (ihr hr).behind fun rest => (unopened_text_binary op rest).1
    rw [forall_written_binary, withoutLabels, chars_binary, chars_binary]
    apply ((ihl hl).before hright hneeded _ _).imp
    · rintro ⟨hkeepsl, hl, hkeepsr, hr⟩
      exact ⟨⟨hkeepsl, hkeepsr⟩, hl, hr⟩
    · intro rest
      rw [List.append_assoc]
      apply unopened_text_binary
    · intro rest
      rw [List.append_assoc]
      apply (unopened_text_binary op _).1
  | cast argument target iha iht =>
    rw [LeavesOutLabels, forall_written_cast] at hleft
    rw [forall_written_cast, withoutLabels, chars_cast, chars_cast]
    have htarget := ((iht hleft.2.2).append (ReadAlike.refl [')']) hclosing hclosing).prepend
      " AS ".toList
    apply (((iha hleft.2.1).append htarget (hnaming _) (hnaming _)).prepend "CAST(".toList).imp
    rintro ⟨ha, ht, -⟩
    exact ⟨trivial, ha, ht⟩
  | labelled argument label ih _ =>
    have hclause := hleft.clause_eq
    rw [LeavesOutLabels, forall_written_labelled hclause] at hleft
    rw [forall_written_labelled hclause, withoutLabels, chars_labelled style hclause]
    apply (ih hleft.2).imp
    intro hkeeps
    exact ⟨trivial, hkeeps⟩
  | call name arguments ih =>
    rw [LeavesOutLabels, forall_written_call] at hleft
    rw [forall_written_call, withoutLabels, withoutLabelsOf_eq, chars_call, chars_call,
      List.map_map]
    have harguments := ReadAlike.row
      (fun e he => ⟨chars_withoutLabels_eq_nil, chars_eq_nil (hleft.2 e he)⟩)
      (fun e he => ih e he (hleft.2 e he))
    apply ((harguments.prepend ['(']).prepend name.toList).imp
    intro hkeeps
    exact ⟨trivial, hkeeps⟩
  | _ => apply readAlike_atom rfl (by trivial)

end LeavesOutLabels

/-! ## Labels that do not show -/

/-- The labels of the expression do not show: it is no label that is written, and its operands stand
in parentheses just when they do without their labels. -/
structure HidesLabels (scope : Scope) (e : Expr) : Prop where
  leftOut : e.isLabelled → scope.clause = .selectOrderBy
  parentheses : e.KeepsParentheses

/-- Labels that do not show may as well not be there. -/
theorem pieces_withoutLabels {e : Expr} (h : ∀ node ∈ e.written scope, node.2.HidesLabels node.1) :
  e.withoutLabels.pieces style scope = e.pieces style scope
  := by
  have hsame : ∀ {needed needed' : Prop} [Decidable needed] [Decidable needed'] (ps : List Piece),
      (needed ↔ needed') → Piece.enclosed needed' ps = Piece.enclosed needed ps := by
    intro needed needed' _ _ ps hneeded
    simp only [Piece.enclosed, hneeded]
  induction e using induction generalizing scope with
  | unary op argument ih =>
    obtain ⟨⟨-, hkeeps⟩, h⟩ := forall_written_unary.mp h
    rw [withoutLabels, pieces_unary, pieces_unary, ih h, hsame _ hkeeps]
  | binary op left right ihl ihr =>
    obtain ⟨⟨-, hkeepsl, hkeepsr⟩, hl, hr⟩ := forall_written_binary.mp h
    rw [withoutLabels, pieces_binary, pieces_binary, ihl hl, ihr hr, hsame _ hkeepsl,
      hsame _ hkeepsr]
  | cast argument target iha iht =>
    obtain ⟨-, ha, ht⟩ := forall_written_cast.mp h
    rw [withoutLabels, pieces_cast, pieces_cast, iha ha, iht ht]
  | labelled argument label ih _ =>
    have hclause := (h _ List.mem_cons_self).leftOut rfl
    obtain ⟨-, h⟩ := (forall_written_labelled hclause).mp h
    rw [withoutLabels, pieces_labelled, if_pos hclause, ih h]
  | call name arguments ih =>
    obtain ⟨-, h⟩ := forall_written_call.mp h
    have harguments : (arguments.map withoutLabels).map (pieces style scope)
        = arguments.map (pieces style scope) := by
      rw [List.map_map]
      apply List.map_congr_left
      intro e he
      apply ih e he (h e he)
    rw [withoutLabels, withoutLabelsOf_eq, pieces_call, pieces_call, harguments]
  | _ => rfl

end Expr

/-- The text of an expression is that of the expression without its labels just when none of its
labels shows, and then both have the same parameters. -/
theorem labels_hidden_iff (style : Style) (scope : Scope) (e : Expr) :
  (Piece.textOf (e.pieces style scope) = Piece.textOf (e.withoutLabels.pieces style scope)
      ↔ ∀ node ∈ e.written scope, node.2.HidesLabels node.1)
    ∧ (Piece.textOf (e.pieces style scope) = Piece.textOf (e.withoutLabels.pieces style scope) →
      Piece.parametersOf (e.pieces style scope)
        = Piece.parametersOf (e.withoutLabels.pieces style scope))
  := by
  have hiff : Piece.textOf (e.pieces style scope)
        = Piece.textOf (e.withoutLabels.pieces style scope)
      ↔ ∀ node ∈ e.written scope, node.2.HidesLabels node.1 := by
    constructor
    · intro htext
      have hchars : e.chars style scope = e.withoutLabels.chars style scope :=
        congrArg String.toList htext
      have hleft : e.LeavesOutLabels scope :=
        (e.weight_withoutLabels style scope).2 (Nat.le_of_eq (congrArg weight hchars))
      obtain ⟨-, -, hkeeps⟩ := hleft.readAlike.ends 0 [] [] unopened_nil unopened_nil
        (by simpa using hchars)
      intro node hnode
      exact ⟨hleft node hnode, hkeeps node hnode⟩
    · intro h
      rw [Expr.pieces_withoutLabels h]
  use hiff
  intro htext
  rw [Expr.pieces_withoutLabels (hiff.mp htext)]

/-- The expression `(a + b) * c` with a label on its sum. -/
def totalTimes : Expr :=
  let column (name : String) : Expr := .operand (.column { name })
  .binary .multiply
    (.labelled (.binary .add (column "a") (column "b")) (.operand (.raw "total")))
    (column "c")

/-- Without its label the sum stands in parentheses, and with it the product is another one. -/
theorem labels_shown_totalTimes :
  (∃ node ∈ totalTimes.written { clause := .selectOrderBy }, ¬ node.2.HidesLabels node.1)
    ∧ (Style.generic.compile (.select
        { columns := [.operand .asterisk], source := some { name := "t" },
          orderBy := [⟨totalTimes, .ascending⟩] })).result
      = .ok ⟨"SELECT *\nFROM t\nORDER BY a + b * c ASC", []⟩
    ∧ (Style.generic.compile (.select
        { columns := [.operand .asterisk], source := some { name := "t" },
          orderBy := [⟨totalTimes.withoutLabels, .ascending⟩] })).result
      = .ok ⟨"SELECT *\nFROM t\nORDER BY (a + b) * c ASC", []⟩
  := by
  refine ⟨⟨_, List.mem_cons_self, ?_⟩, by decide +kernel, by decide +kernel⟩
  rintro ⟨-, hkeeps, -⟩
  exact absurd (hkeeps.mpr (by decide)) (by decide)

end SqlDialect
