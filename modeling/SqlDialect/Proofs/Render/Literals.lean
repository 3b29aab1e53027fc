import SqlDialect.Proofs.Render.Pieces
import SqlDialect.Proofs.Render.SqlText
import SqlDialect.Proofs.Text.Blanks

/-!
# Literals

A value is written as a text of SQL, as a string literal, or as the conversion of one.  In
all of these there is a character that is not blank, and nothing is recorded in them.  Only
a moment without a timestamp in UTC has no literal.
-/

namespace SqlDialect

/-! ## Visible renderings -/

/-- The rendering has a character that is not blank. -/
def Piece.Visible (pieces : List Piece) : Prop :=
  ∃ c ∈ (textOf pieces).toList, Text.isBlank c = false

theorem FloatLayout.mem_positional (d : Scientific) :
  '.' ∈ positional d
  := by
  rw [positional]
  split
  · simp
  · dsimp only
    split <;> simp

theorem FloatLayout.mem_exponential (d : Scientific) :
  'e' ∈ exponential d
  := by
  simp [exponential]

namespace Piece.Visible

theorem plain {text : String} {c : Char} (hc : c ∈ text.toList) (h : Text.isBlank c = false) :
  Visible [.plain text]
  := by
  use c
  simpa [toList_textOf, Piece.text] using ⟨hc, h⟩

theorem literal (content : String) :
  Visible [.literal content]
  := by
  use '\''
  simp [toList_textOf, Piece.literal, Piece.text, Text.quote]
  decide

theorem marker (value : Value) :
  Visible [.marker value]
  := by
  use '?'
  simp [toList_textOf, Piece.text]
  decide

theorem cons {p : Piece} {pieces : List Piece} (h : Visible [p]) :
  Visible (p :: pieces)
  := by
  obtain ⟨c, hc, hblank⟩ := h
  use c
  rw [toList_textOf_cons]
  rw [toList_textOf_cons, textOf_nil, String.toList_empty, List.append_nil] at hc
  use List.mem_append_left _ hc

theorem digits {text : String} (n : Nat) (h : Text.digits n ⊆ text.toList) :
  Visible [.plain text]
  := by
  obtain ⟨c, hc⟩ := List.exists_mem_of_ne_nil _ (Nat.toDigits_ne_nil (b := 10) (n := n))
  apply plain (h hc)
  apply Text.isBlank_of_isDigit
  apply Text.isDigit_of_mem_digits hc

theorem integer (n : Int) :
  Visible [.plain (Text.integer n)]
  := by
  apply digits n.natAbs
  simp [Text.integer]

theorem decimal (x : Decimal) :
  Visible [.plain x.text]
  := by
  by_cases hplaces : x.places = 0
  · apply digits x.magnitude
    intro c hc
    have hpadded : c ∈ Text.paddedDigits (0 + 1) x.magnitude := by
      simp [Text.paddedDigits, hc]
    simp only [Decimal.text, hplaces, Nat.sub_zero, List.take_length, String.toList_ofList]
    simp [hpadded]
  · have hpoint : '.' ∈ x.text.toList := by
      rw [Decimal.text, if_neg hplaces]
      simp
    apply plain hpoint (by decide)

/-- A finite number is written with a point or with an exponent. -/
theorem render (layout : FloatLayout) {x : Binary64} (h : x.isFinite) :
  Visible [.plain (layout.render x)]
  := by
  have hnan : x.isNaN = false := by
    rw [Binary64.isFinite, decide_eq_true_eq] at h
    simp [Binary64.isNaN, h]
  have hlayout : ∀ (d : Scientific) (shown : Bool), ∃ c, Text.isBlank c = false
      ∧ c ∈ if shown then FloatLayout.positional d else FloatLayout.exponential d := by
    intro d shown
    cases shown with
    | true => use '.', by decide, FloatLayout.mem_positional d
    | false => use 'e', by decide, FloatLayout.mem_exponential d
  simp only [FloatLayout.render, hnan, h, Bool.not_true, Bool.false_eq_true, if_false]
  obtain ⟨c, hblank, hc⟩ := hlayout (x.shortest layout.tie) _
  apply plain _ hblank
  rw [String.toList_ofList]
  apply List.mem_append_right _ hc

theorem boolean (style : Style) (x : Bool) :
  Visible [.plain (style.boolean x)]
  := by
  cases style <;> cases x <;> rw [Style.boolean]
  · apply plain (c := 'f') (by decide) (by decide)
  · apply plain (c := 't') (by decide) (by decide)
  · apply plain (c := '0') (by decide) (by decide)
  · apply plain (c := '1') (by decide) (by decide)

end Piece.Visible

/-! ## The forms of literals -/

/-- The renderings that values are written as. -/
inductive LiteralForm (style : Style) : List Piece → Prop
  | text {text : String} (h : isSqlText text) (hvisible : Piece.Visible [.plain text]) :
    LiteralForm style [.plain text]
  | string (content : String) : LiteralForm style [.literal content]
  | conversion (content : String) :
    LiteralForm style (Piece.cast [.literal content] (style.typePieces .double))

theorem LiteralForm.ne_nil {style : Style} {ps : List Piece} (h : LiteralForm style ps) :
  ps ≠ []
  := by
  cases h <;> apply List.cons_ne_nil

theorem Binary64.literalForm (style : Style) (x : Binary64) :
  LiteralForm style (x.pieces style)
  := by
  rw [pieces]
  split
  next h => apply LiteralForm.text (isSqlText_render sqlLayout x) (Piece.Visible.render sqlLayout h)
  · apply LiteralForm.conversion

/-- The value has a literal: it is no moment without a timestamp in UTC. -/
def Value.HasLiteral (value : Value) : Prop :=
  ∀ moment, value = .moment (some moment) → moment.utc?.isSome

/-- A value with a literal is written in one of the forms of literals. -/
theorem Value.literalForm (style : Style) {value : Value} (h : value.HasLiteral) :
  LiteralForm style (value.pieces style)
  := by
  have hnull : LiteralForm style [.plain "NULL"] :=
    .text (by decide) (Piece.Visible.plain (c := 'N') (by decide) (by decide))
  have hinteger : ∀ n, LiteralForm style [.plain (Text.integer n)] := by
    intro n
    apply LiteralForm.text (isSqlText_integer n) (Piece.Visible.integer n)
  cases value with
  | null => apply hnull
  | boolean content =>
    cases content with
    | none => apply hnull
    | some x =>
      apply LiteralForm.text (isSqlText_of_isWording (isWording_boolean style x))
      apply Piece.Visible.boolean
  | smallint content =>
    cases content with
    | none => apply hnull
    | some n => apply hinteger
  | integer content =>
    cases content with
    | none => apply hnull
    | some n => apply hinteger
  | bigint content =>
    cases content with
    | none => apply hnull
    | some n => apply hinteger
  | double content =>
    cases content with
    | none => apply hnull
    | some x => apply x.literalForm
  | decimal content precision scale =>
    cases content with
    | none => apply hnull
    | some x => apply LiteralForm.text (isSqlText_decimal x) (Piece.Visible.decimal x)
  | varchar content =>
    cases content with
    | none => apply hnull
    | some x => apply LiteralForm.string
  | date content =>
    cases content with
    | none => apply hnull
    | some x => apply LiteralForm.string
  | timestamp content =>
    cases content with
    | none => apply hnull
    | some x => apply LiteralForm.string
  | moment content =>
    cases content with
    | none => apply hnull
    | some x =>
      obtain ⟨t, ht⟩ := Option.isSome_iff_exists.mp (h x rfl)
      change LiteralForm style x.pieces
      rw [Moment.pieces, ht]
      apply LiteralForm.string

/-- A moment without a timestamp in UTC is all that has no literal. -/
theorem Value.pieces_of_not_hasLiteral (style : Style) {value : Value} (h : ¬ value.HasLiteral) :
  ∃ moment, value.pieces style = [.outsideCalendar moment]
  := by
  simp only [HasLiteral, not_forall] at h
  obtain ⟨moment, rfl, hutc⟩ := h
  rw [Bool.not_eq_true, Option.isSome_eq_false_iff, Option.isNone_iff_eq_none] at hutc
  use moment
  change moment.pieces = _
  rw [Moment.pieces, hutc]

namespace LiteralForm

variable {style : Style} {ps : List Piece}

/-- Nothing is recorded in a literal, and there is no marker in it. -/
theorem unrecorded (h : LiteralForm style ps) :
  ∀ p ∈ ps, p.failure? = none ∧ p.moment? = none ∧ p.parameter? = none
  := by
  cases h with
  | text _ _ => simp [Piece.failure?, Piece.moment?, Piece.parameter?]
  | string content => simp [Piece.literal, Piece.failure?, Piece.moment?, Piece.parameter?]
  | conversion content =>
    cases style <;> simp [Piece.cast, Piece.literal, Style.typePieces, Style.typeName,
      ColumnType.openEdgeName, Piece.failure?, Piece.moment?, Piece.parameter?]

/-- A literal is visible. -/
theorem visible (h : LiteralForm style ps) :
  Piece.Visible ps
  := by
  cases h with
  | text _ hvisible => apply hvisible
  | string content => apply Piece.Visible.literal
  | conversion content =>
    apply Piece.Visible.cons
    apply Piece.Visible.plain (c := 'C') (by decide) (by decide)

end LiteralForm

end SqlDialect
