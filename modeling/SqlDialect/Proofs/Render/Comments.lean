import SqlDialect.Proofs.Render.Signs

/-!
# Comments

An operator has blanks around it, or none when it is a sign.  An operand whose own sign is an
operator is put in parentheses behind another sign.  The sign of a value or of a floating point
literal is none, so a sign in front of it opens a comment; and nothing else does, when there
are no minus signs in raw texts.
-/

namespace SqlDialect

open Text

/-! ## Expressions -/

namespace Expr

/-- The expression is a sign in front of a number that is written with a minus sign.  A literal
integer is put in parentheses then. -/
def DoublesSign (scope : Scope) : Expr → Prop
  | unary .negative (operand (.int _)) => False
  | unary .negative (operand leaf) => leaf.IsSigned scope
  | _ => False

variable {style : Style} {scope : Scope}

/-- What stands behind a sign without parentheses starts with another one when the sign is
doubled. -/
theorem minus_iff {e : Expr} (hharmless : ∀ leaf ∈ e.leaves scope, leaf.2.IsHarmless)
    (h : ¬ e.precedence ≤ UnaryOp.negative.precedence) :
  Piece.Minus (e.pieces style scope) ↔ (unary .negative e).DoublesSign scope
  := by
  cases e with
  | operand leaf =>
    have hleaf : Piece.Minus ((operand leaf).pieces style scope) ↔ leaf.IsSigned scope :=
      (leaf.signedBy style scope (hharmless _ List.mem_cons_self)).minus_iff
    rw [hleaf]
    cases leaf with
    | int n =>
      apply iff_of_false _ id
      intro (hn : n < 0)
      apply h
      rw [precedence, if_pos hn]
    | _ => rfl
  | unary op argument =>
    cases h (by cases op <;> simp [precedence, UnaryOp.precedence])
  | binary op left right =>
    cases h (by cases op <;> simp [precedence, UnaryOp.precedence, BinaryOp.precedence])
  | cast argument target =>
    cases h (by simp [precedence, castPrecedence, UnaryOp.precedence])
  | labelled argument label =>
    cases h (by simp [precedence, labelPrecedence, UnaryOp.precedence])
  | currentTimestamp =>
    apply iff_of_false _ id
    apply (Piece.unsubtracted_of_isWording (isWording_currentTimestamp style)).not_minus
  | currentDate =>
    apply iff_of_false _ id
    apply (Piece.unsubtracted_of_isWording (by decide)).not_minus
  | call name arguments =>
    have hname := hharmless (scope, .raw name) List.mem_cons_self name rfl
    apply iff_of_false _ id
    rw [pieces_call]
    apply (Piece.unsubtracted_plain fun c hc => (hname c hc).2).not_minus_append
    apply Piece.not_minus_cons (by decide)
  | nextValue sequence =>
    apply iff_of_false _ id
    rw [pieces_nextValue]
    apply ((Composed.nextValuePieces style sequence).unsubtracted rfl).not_minus

/-- What stands in parentheses behind a sign does not double it. -/
theorem not_doublesSign {e : Expr} (h : e.precedence ≤ UnaryOp.negative.precedence) :
  ¬ (unary .negative e).DoublesSign scope
  := by
  cases e with
  | operand leaf =>
    cases leaf with
    | int n => apply id
    | _ => cases (by decide : ¬ atomPrecedence ≤ UnaryOp.negative.precedence) h
  | _ => apply id

/-- An expression opens no comment just when no sign in it is doubled. -/
theorem uncommented_iff {e : Expr} (hharmless : ∀ leaf ∈ e.leaves scope, leaf.2.IsHarmless) :
  Piece.Uncommented (e.pieces style scope) ↔ ∀ node ∈ e.written scope, ¬ node.2.DoublesSign node.1
  := by
  induction e using induction generalizing scope with
  | operand leaf =>
    have hleaf := (leaf.signedBy style scope (hharmless _ List.mem_cons_self)).uncommented
    exact iff_of_true hleaf (List.forall_mem_singleton.mpr id)
  | unary op argument ih =>
    rw [forall_written_unary, pieces_unary, ← ih hharmless]
    cases op with
    | negative =>
      rw [Piece.uncommented_sign, Piece.uncommented_enclosed]
      by_cases hneeded : argument.precedence ≤ UnaryOp.negative.precedence
      · rw [Piece.enclosed, if_pos hneeded]
        simp only [not_doublesSign hneeded, not_false_iff, true_and]
        apply and_iff_right (Piece.not_minus_cons (by decide) _)
      · rw [Piece.enclosed, if_neg hneeded, minus_iff (e := argument) hharmless hneeded]
    | not =>
      rw [Piece.uncommented_cons (by decide), Piece.uncommented_enclosed]
      simp [DoublesSign]
  | binary op left right ihl ihr =>
    obtain ⟨hl, hr⟩ := List.forall_mem_append.mp hharmless
    rw [forall_written_binary, pieces_binary, ← ihl hl, ← ihr hr, Piece.uncommented_operator,
      Piece.uncommented_enclosed, Piece.uncommented_enclosed]
    simp [DoublesSign]
  | cast argument target iha iht =>
    obtain ⟨ha, ht⟩ := List.forall_mem_append.mp hharmless
    rw [forall_written_cast, pieces_cast, ← iha ha, ← iht ht, Piece.uncommented_cast]
    simp [DoublesSign]
  | labelled argument label iha ihl =>
    by_cases hclause : scope.clause = .selectOrderBy
    · rw [leaves, if_pos hclause] at hharmless
      rw [forall_written_labelled hclause, pieces_labelled, if_pos hclause, ← iha hharmless]
      simp [DoublesSign]
    · rw [leaves, if_neg hclause] at hharmless
      obtain ⟨ha, hl⟩ := List.forall_mem_append.mp hharmless
      rw [forall_written_labelled_of_ne hclause, pieces_labelled, if_neg hclause, ← iha ha,
        ← ihl hl, Piece.uncommented_join (by decide), Piece.uncommented_enclosed,
        Piece.uncommented_enclosed]
      simp [DoublesSign]
  | currentTimestamp =>
    have hwording := isWording_currentTimestamp style
    exact iff_of_true (Piece.unsubtracted_of_isWording hwording).uncommented
      (List.forall_mem_singleton.mpr id)
  | currentDate =>
    exact iff_of_true (Piece.unsubtracted_of_isWording (by decide)).uncommented
      (List.forall_mem_singleton.mpr id)
  | call name arguments ih =>
    have hname := hharmless (scope, .raw name) List.mem_cons_self name rfl
    rw [leaves, leavesOf_eq, List.forall_mem_cons] at hharmless
    simp only [List.forall_mem_flatMap] at hharmless
    have harguments : (∀ e ∈ arguments, Piece.Uncommented (e.pieces style scope))
        ↔ ∀ e ∈ arguments, ∀ node ∈ e.written scope, ¬ node.2.DoublesSign node.1 :=
      forall₂_congr fun e he => ih e he (hharmless.2 e he)
    have hplain := Piece.unsubtracted_plain fun c hc => (hname c hc).2
    rw [forall_written_call, pieces_call, ← harguments]
    change Piece.Uncommented ([.plain name] ++ .plain "(" :: (_ ++ [.plain ")"])) ↔ _
    rw [Piece.uncommented_join (by decide), Piece.uncommented_append_plain (by decide),
      Piece.uncommented_separated (by decide)]
    exact and_congr_left fun _ => iff_of_true hplain.uncommented id
  | nextValue sequence =>
    rw [pieces_nextValue]
    have hnames := (Composed.nextValuePieces style sequence).unsubtracted rfl
    exact iff_of_true hnames.uncommented (List.forall_mem_singleton.mpr id)

/-- The text of an expression is scanned into the lexemes of its pieces. -/
theorem scan_chars {e : Expr} (hharmless : ∀ leaf ∈ e.leaves scope, leaf.2.IsHarmless) :
  scan (Piece.textOf (e.pieces style scope)).toList
    = some (Piece.lexemesOf (e.pieces style scope))
  := by
  have hparted : Parted (Piece.Usual (fun text => ∀ c ∈ text.toList, isMark c = false)
      fun _ => True) (e.pieces style scope) := by
    apply Parted.of_woven (e.woven style scope)
    intro leaf hleaf
    apply Parted.operandPieces
    · intro text htext c hc
      apply (hharmless leaf hleaf text htext c hc).1
    · intro value _
      trivial
  apply hparted.scan_textOf fun _ => id

end Expr

/-! ## Statements -/

/-- A statement that is written as a whole opens no comment just when no sign in it is doubled. -/
theorem Statement.uncommented_iff {style : Style} {scope : Scope} {s : Statement} {ps : List Piece}
    (h : s.attempt style scope = .ok ps)
    (hharmless : ∀ leaf ∈ s.leaves style scope, leaf.2.IsHarmless) :
  Piece.Uncommented ps
    ↔ ∀ place ∈ s.placed style scope, ∀ node ∈ place.2.written place.1,
      ¬ node.2.DoublesSign node.1
  := by
  rw [(Statement.composed h).uncommented_iff]
  apply forall₂_congr
  intro place hplace
  apply Expr.uncommented_iff
  intro leaf hleaf
  apply hharmless
  rw [← leavesAt_placed]
  apply List.mem_flatMap.mpr ⟨place, hplace, hleaf⟩

/-- Where there are no marks and no minus signs in raw texts, the text of an expression opens no
comment just when no sign is doubled in what is written of it, and likewise the SQL of a
statement. -/
theorem uncommented_iff_signs_single (style : Style) :
  (∀ (scope : Scope) (e : Expr), (∀ leaf ∈ e.operands, leaf.IsHarmless) →
      ∃ lexemes, scan (Piece.textOf (e.pieces style scope)).toList = some lexemes
        ∧ (Uncommented lexemes ↔ ∀ node ∈ e.written scope, ¬ node.2.DoublesSign node.1))
    ∧ ∀ (s : Statement) (query : CompiledQuery),
      (∀ leaf ∈ s.operands, leaf.IsHarmless) → (style.compile s).result = .ok query →
      ∃ lexemes, scan query.sql.toList = some lexemes
        ∧ (Uncommented lexemes
          ↔ ∀ place ∈ s.placed style {}, ∀ node ∈ place.2.written place.1,
            ¬ node.2.DoublesSign node.1)
  := by
  constructor
  · intro scope e hharmless
    have hleaves : ∀ leaf ∈ e.leaves scope, leaf.2.IsHarmless :=
      fun leaf hleaf => hharmless leaf.2 (Expr.mem_operands_of_mem_leaves hleaf)
    exact ⟨_, Expr.scan_chars hleaves, Expr.uncommented_iff hleaves⟩
  · intro s query hharmless h
    obtain ⟨ps, hps, -, -, rfl⟩ := Attempt.result_compiled_eq_ok.mp h
    have hleaves : ∀ leaf ∈ s.leaves style {}, leaf.2.IsHarmless :=
      fun leaf hleaf => hharmless leaf.2 (Statement.mem_operands_of_mem_leaves hleaf)
    have hraw : ∀ leaf ∈ s.leaves style {}, ∀ text, leaf.2 = .raw text →
        ∀ c ∈ text.toList, isMark c = false :=
      fun leaf hleaf text htext c hc => (hleaves leaf hleaf text htext c hc).1
    have hparted := Statement.parted hps hraw
    exact ⟨_, hparted.scan_textOf fun _ => id, Statement.uncommented_iff hps hleaves⟩

/-- Loans whose balance is by default the negation of a value that is negative already. -/
def loans : TableDef where
  table := { name := "loans" }
  columns := [{
    name := "balance"
    type := .integer
    default := some (.unary .negative (.operand (.bound (.integer (some (-5))))))
  }]

theorem uncommented_iff_signs_single_loans :
  (∃ lexemes, scan "7 - -5".toList = some lexemes ∧ Uncommented lexemes)
    ∧ ∃ lexemes,
      scan "CREATE TABLE loans (\nbalance INTEGER DEFAULT --5\n)".toList = some lexemes
        ∧ ¬ Uncommented lexemes
  := by
  obtain ⟨hexpr, hstatement⟩ := uncommented_iff_signs_single .openEdge
  constructor
  · have hharmless : ∀ leaf ∈ (Expr.binary .subtract (.operand (.int 7))
        (.operand (.inline (.integer (some (-5)))))).operands, leaf.IsHarmless := by
      simp [Expr.operands, Operand.IsHarmless]
    obtain ⟨lexemes, hscan, huncommented⟩ := hexpr {} _ hharmless
    use lexemes, hscan
    rw [huncommented]
    simp [Expr.written, Expr.DoublesSign]
  · have hharmless : ∀ leaf ∈ (Statement.createTable loans).operands, leaf.IsHarmless := by
      simp [Statement.operands, Statement.exprs, loans, Expr.operands, Operand.IsHarmless]
    have hcompiled : (Style.openEdge.compile (.createTable loans)).result
        = .ok ⟨"CREATE TABLE loans (\nbalance INTEGER DEFAULT --5\n)", []⟩ := by decide +kernel
    obtain ⟨lexemes, hscan, huncommented⟩ := hstatement _ _ hharmless hcompiled
    use lexemes, hscan
    rw [huncommented]
    intro hsingle
    have hnegative : (-5 : Int) < 0 := by decide
    apply hsingle _ List.mem_cons_self _ List.mem_cons_self
    exact ⟨rfl, hnegative⟩

/-- A negative value behind a sign opens a comment, though a negative literal does not. -/
theorem commented_negated_value :
  (Style.generic.compile (.select
      { columns := [.unary .negative (.operand (.inline (.integer (some (-5)))))] })).result
    = .ok ⟨"SELECT --5", []⟩
    ∧ (∃ lexemes, scan "SELECT --5".toList = some lexemes ∧ ¬ Uncommented lexemes)
    ∧ (Style.generic.compile
      (.select { columns := [.unary .negative (.operand (.int (-5)))] })).result
    = .ok ⟨"SELECT -(-5)", []⟩
  := by
  refine ⟨by decide +kernel, ?_, by decide +kernel⟩
  use "SELECT --5".toList.map .bare, by decide +kernel
  intro h
  apply h
  use "SELECT ".toList.map .bare, ['5'].map .bare
  decide

end SqlDialect
