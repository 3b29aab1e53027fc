import SqlDialect.Proofs.Expr.Operands
import SqlDialect.Render.Token

/-!
# The pieces of expressions

The pieces of an expression by its form, without the tokens in between: an operator joins
the pieces of its operands, which stand in parentheses where they bind too weakly.  The
text of a rendering is the text of its pieces, one after the other.
-/

namespace SqlDialect

namespace Piece

/-- The text of a rendering is that of its pieces, one after the other. -/
theorem toList_textOf (pieces : List Piece) :
  (textOf pieces).toList = pieces.flatMap fun p => p.text.toList
  := by
  simp [textOf, List.flatMap_map]

/-- The characters of renderings stand one after the other. -/
theorem toList_textOf_append (xs ys : List Piece) :
  (textOf (xs ++ ys)).toList = (textOf xs).toList ++ (textOf ys).toList
  := by
  simp [toList_textOf]

/-- The characters of the first piece stand in front. -/
theorem toList_textOf_cons (p : Piece) (pieces : List Piece) :
  (textOf (p :: pieces)).toList = p.text.toList ++ (textOf pieces).toList
  := by
  simp [toList_textOf]

/-- Nothing has no text. -/
@[simp]
theorem textOf_nil :
  textOf [] = ""
  := rfl

/-- The text of the first piece stands in front. -/
theorem textOf_cons (p : Piece) (pieces : List Piece) :
  textOf (p :: pieces) = p.text ++ textOf pieces
  := String.join_cons

/-- The texts of renderings stand one after the other. -/
theorem textOf_append (xs ys : List Piece) :
  textOf (xs ++ ys) = textOf xs ++ textOf ys
  := by
  rw [textOf, List.map_append, String.join_append]
  rfl

/-- A rendering has no text when none of its pieces has. -/
theorem textOf_eq_empty_iff {pieces : List Piece} :
  textOf pieces = "" ↔ ∀ p ∈ pieces, p.text = ""
  := by
  rw [← String.toList_eq_nil_iff, toList_textOf, List.flatMap_eq_nil_iff]
  simp only [String.toList_eq_nil_iff]

/-- What holds of nothing, and is kept when renderings are parted by a separator or stand beside one
without a text, holds of renderings in a row. -/
theorem separated_induction {α β : Type} {P : List β → List Piece → Prop} {separator : String}
    (nil : P [] [])
    (join : ∀ {xs ys ps qs}, P xs ps → P ys qs → P (xs ++ ys) (ps ++ .plain separator :: qs))
    (beside : ∀ {xs ys ps qs}, textOf ps = "" → P xs ps → P ys qs → P (xs ++ ys) (ps ++ qs))
    {parts : α → List β} {pieces : α → List Piece} (items : List α)
    (hitems : ∀ x ∈ items, P (parts x) (pieces x)) :
  P (items.flatMap parts) (separated separator (items.map pieces))
  := by
  induction items with
  | nil => apply nil
  | cons x rest ih =>
    obtain ⟨hx, hrest⟩ := List.forall_mem_cons.mp hitems
    cases rest with
    | nil => simpa [separated] using hx
    | cons y rest =>
      have htail := ih hrest
      rw [List.flatMap_cons, List.map_cons, List.map_cons, separated]
      split
      next hempty =>
        rw [List.append_nil]
        apply beside hempty hx htail
      next =>
        rw [List.append_assoc]
        apply join hx htail
      simp

/-- The pieces, in parentheses where needed. -/
def enclosed (needed : Prop) [Decidable needed] (pieces : List Piece) : List Piece :=
  if needed then plain "(" :: pieces ++ [plain ")"] else pieces

end Piece

namespace Token

/-- No tokens have no pieces. -/
@[simp]
theorem piecesOf_nil :
  piecesOf [] = []
  := rfl

/-- The pieces of the first token stand in front. -/
@[simp]
theorem piecesOf_cons (t : Token) (tokens : List Token) :
  piecesOf (t :: tokens) = t.pieces ++ piecesOf tokens
  := List.flatMap_cons

/-- The pieces of tokens stand one after the other. -/
@[simp]
theorem piecesOf_append (xs ys : List Token) :
  piecesOf (xs ++ ys) = piecesOf xs ++ piecesOf ys
  := List.flatMap_append

/-- Parentheses among tokens are parentheses among their pieces. -/
@[simp]
theorem piecesOf_enclosed (needed : Prop) [Decidable needed] (tokens : List Token) :
  piecesOf (enclosed needed tokens) = Piece.enclosed needed (piecesOf tokens)
  := by
  rw [enclosed, Piece.enclosed]
  split
  · simp [pieces]
  · rfl

end Token

/-- The pieces of a leaf. -/
def Operand.pieces (style : Style) (scope : Scope) (leaf : Operand) : List Piece :=
  Token.piecesOf (leaf.tokens style scope)

section

variable (style : Style) (scope : Scope)

namespace Operand

/-- A leaf that is one token has its pieces. -/
theorem pieces_of_tokens_eq {style : Style} {scope : Scope} {leaf : Operand} {ps : List Piece}
    (h : leaf.tokens style scope = [.atom ps]) :
  leaf.pieces style scope = ps
  := by
  rw [pieces, h, Token.piecesOf_cons, Token.piecesOf_nil, List.append_nil]
  rfl

/-- A floating point number is written as it is in a value. -/
theorem pieces_float (x : Binary64) :
  (float x).pieces style scope = x.pieces style
  := pieces_of_tokens_eq rfl

/-- A column is written as its names. -/
theorem pieces_column (c : Column) :
  (column c).pieces style scope = c.pieces style scope
  := pieces_of_tokens_eq rfl

/-- A type is written as its name, or leaves a fault. -/
theorem pieces_type (t : ColumnType) :
  (type t).pieces style scope = style.typePieces t
  := pieces_of_tokens_eq rfl

/-- A value to be written into the text is written as a literal. -/
theorem pieces_inline (value : Value) :
  (inline value).pieces style scope = value.pieces style
  := pieces_of_tokens_eq rfl

/-- A bound value is a marker, or a literal where there are no markers. -/
theorem pieces_bound (value : Value) :
  (bound value).pieces style scope
    = if scope.inline then value.pieces style else [.marker value]
  := pieces_of_tokens_eq rfl

end Operand

namespace Expr

/-- An operator stands in front of its operand, which has parentheses unless it binds stronger. -/
theorem pieces_unary (op : UnaryOp) (argument : Expr) :
  (unary op argument).pieces style scope
    = .plain op.text
      :: Piece.enclosed (argument.precedence ≤ op.precedence) (argument.pieces style scope)
  := by
  simp [pieces, tokens, Token.pieces]

/-- An operator stands between its operands; the right one has parentheses also when it binds alike.
-/
theorem pieces_binary (op : BinaryOp) (left right : Expr) :
  (binary op left right).pieces style scope
    = Piece.enclosed (left.precedence < op.precedence) (left.pieces style scope)
      ++ .plain op.text
        :: Piece.enclosed (right.precedence ≤ op.precedence) (right.pieces style scope)
  := by
  simp [pieces, tokens, Token.pieces]

/-- Inside of a conversion an expression stands in a part of the statement of its own. -/
theorem pieces_cast (argument target : Expr) :
  (cast argument target).pieces style scope
    = Piece.cast (argument.pieces style (scope.entering .casting))
        (target.pieces style (scope.entering .casting))
  := by
  simp [pieces, tokens, Token.pieces]

/-- A renaming is left out of an ORDER BY clause. -/
theorem pieces_labelled (argument label : Expr) :
  (labelled argument label).pieces style scope
    = if scope.clause = .selectOrderBy then argument.pieces style scope
      else
        Piece.enclosed (argument.precedence < labelPrecedence) (argument.pieces style scope)
          ++ .plain " AS "
            :: Piece.enclosed (label.precedence ≤ labelPrecedence) (label.pieces style scope)
  := by
  rw [pieces, tokens]
  split
  · rfl
  · simp [pieces, Token.pieces]

/-- Arguments are written one by one. -/
theorem argumentPieces_eq (arguments : List Expr) :
  argumentPieces style scope arguments = arguments.map (pieces style scope)
  := by
  induction arguments with
  | nil => rfl
  | cons e rest ih =>
    rw [argumentPieces, ih]
    rfl

/-- The arguments of a function stand in parentheses. -/
theorem pieces_call (name : String) (arguments : List Expr) :
  (call name arguments).pieces style scope
    = .plain name :: .plain "(" :: Piece.separated ", " (arguments.map (pieces style scope))
      ++ [.plain ")"]
  := by
  simp [pieces, tokens, Token.pieces, argumentPieces_eq]

/-- The next value of a sequence is written with its name. -/
theorem pieces_nextValue (sequence : Sequence) :
  (nextValue sequence).pieces style scope = sequence.nextValuePieces style
  := by
  simp [pieces, tokens, Token.pieces]

end Expr

end

end SqlDialect
