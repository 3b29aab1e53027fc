import SqlDialect.Proofs.Render.Literals
import SqlDialect.Proofs.Render.Woven
import SqlDialect.Proofs.Text.Scan

/-!
# Parted renderings

A rendering is parted when any two of its pieces that have a text are parted by a fixed
text.  The parts of a statement are texts of SQL, raw texts, quoted tokens and markers, and
places where something was left out.
-/

namespace SqlDialect

/-- The pieces are parts that are parted by fixed texts. -/
inductive Parted (Part : Piece → Prop) : List Piece → Prop
  | nil : Parted Part []
  | single {p : Piece} (h : Part p) : Parted Part [p]
  | join {text : String} {ps qs : List Piece} (h : isGlue text) (hps : Parted Part ps)
    (hqs : Parted Part qs) : Parted Part (ps ++ .plain text :: qs)
  | beside {ps qs : List Piece} (h : Piece.textOf ps = "" ∨ Piece.textOf qs = "")
    (hps : Parted Part ps) (hqs : Parted Part qs) : Parted Part (ps ++ qs)

/-- The parts of statements, with the given raw texts and the given values at markers. -/
inductive Piece.Usual (raw : String → Prop) (bound : Value → Prop) : Piece → Prop
  | text {text : String} (h : isSqlText text) : Usual raw bound (.plain text)
  | raw {text : String} (h : raw text) : Usual raw bound (.plain text)
  | quoted {mark : Char} (content : String) (h : Text.isMark mark) :
    Usual raw bound (.quoted mark content)
  | marker {value : Value} (h : bound value) : Usual raw bound (.marker value)
  | fault (failure : Failure) : Usual raw bound (.fault failure)
  | outsideCalendar (moment : Moment) : Usual raw bound (.outsideCalendar moment)

namespace Parted

variable {Part : Piece → Prop} {raw : String → Prop} {bound : Value → Prop}
  {ps qs : List Piece} {text : String}

theorem glue_cons (h : isGlue text) (hps : Parted Part ps) :
  Parted Part (.plain text :: ps)
  := join h nil hps

theorem append_glue (h : isGlue text) (hps : Parted Part ps) :
  Parted Part (ps ++ [.plain text])
  := join h hps nil

/-- What holds of the parts and of fixed texts holds of all pieces. -/
theorem forall_mem {P : Piece → Prop} (hpart : ∀ p, Part p → P p)
    (hglue : ∀ text, isGlue text → P (.plain text)) (h : Parted Part ps) :
  ∀ p ∈ ps, P p
  := by
  induction h with
  | nil => simp
  | single h => simpa using hpart _ h
  | join h _ _ ihps ihqs =>
    rw [List.forall_mem_append, List.forall_mem_cons]
    use ihps, hglue _ h, ihqs
  | beside _ _ _ ihps ihqs =>
    rw [List.forall_mem_append]
    use ihps, ihqs

/-! ## Leaves -/

theorem sqlText (h : isSqlText text) :
  Parted (Piece.Usual raw bound) [.plain text]
  := single (.text h)

theorem literal (content : String) :
  Parted (Piece.Usual raw bound) [.literal content]
  := single (.quoted content (by decide))

theorem typePieces (style : Style) (type : ColumnType) :
  Parted (Piece.Usual raw bound) (style.typePieces type)
  := by
  rw [Style.typePieces]
  split
  next name h => apply sqlText (isSqlText_of_isWording (isWording_typeName h))
  next fault _ => apply single (.fault _)

theorem literalForm {style : Style} (h : LiteralForm style ps) :
  Parted (Piece.Usual raw bound) ps
  := by
  cases h with
  | text h _ => apply sqlText h
  | string content => apply literal
  | conversion content =>
    apply append_glue (by decide)
    apply join (by decide) _ (typePieces style .double)
    apply glue_cons (by decide) (literal content)

theorem valuePieces (style : Style) (value : Value) :
  Parted (Piece.Usual raw bound) (value.pieces style)
  := by
  by_cases h : value.HasLiteral
  · apply literalForm (value.literalForm style h)
  · obtain ⟨moment, hmoment⟩ := Value.pieces_of_not_hasLiteral style h
    rw [hmoment]
    apply single (.outsideCalendar moment)

/-- What is woven from parted leaves is parted. -/
theorem of_woven {style : Style} {ls : List (Scope × Operand)} (h : Woven style ls ps)
    (hleaf : ∀ leaf ∈ ls, Parted (Piece.Usual raw bound) (leaf.2.pieces style leaf.1)) :
  Parted (Piece.Usual raw bound) ps
  := by
  induction h with
  | nil => apply nil
  | text h => apply sqlText h
  | name content => apply single (.quoted content (by decide))
  | leaf scope leaf => apply hleaf (scope, leaf) (List.mem_singleton_self _)
  | join h _ _ ihps ihqs =>
    obtain ⟨hls, hms⟩ := List.forall_mem_append.mp hleaf
    apply join h (ihps hls) (ihqs hms)
  | beside h _ _ ihps ihqs =>
    obtain ⟨hls, hms⟩ := List.forall_mem_append.mp hleaf
    apply beside h (ihps hls) (ihqs hms)

theorem columnPieces (style : Style) (scope : Scope) (c : Column) :
  Parted (Piece.Usual raw bound) (c.pieces style scope)
  := by
  apply of_woven (Woven.columnPieces style scope c)
  simp

theorem operandPieces (style : Style) (scope : Scope) (leaf : Operand)
    (hraw : ∀ text, leaf = .raw text → raw text)
    (hbound : ∀ value, leaf = .bound value → bound value) :
  Parted (Piece.Usual raw bound) (leaf.pieces style scope)
  := by
  cases leaf with
  | null => apply sqlText (by decide)
  | boolean x => apply sqlText (isSqlText_of_isWording (isWording_boolean style x))
  | float x =>
    rw [Operand.pieces_float]
    apply literalForm (x.literalForm style)
  | raw verbatim => apply single (.raw (hraw verbatim rfl))
  | int n =>
    rw [Operand.pieces, Operand.tokens, Token.ofInt]
    split
    · apply glue_cons (by decide)
      apply sqlText (isSqlText_integer _)
    · apply sqlText (isSqlText_integer n)
  | text content => apply literal
  | column c =>
    rw [Operand.pieces_column]
    apply columnPieces
  | type type =>
    rw [Operand.pieces_type]
    apply typePieces
  | inline value =>
    rw [Operand.pieces_inline]
    apply valuePieces
  | bound value =>
    rw [Operand.pieces_bound]
    split
    · apply valuePieces
    · apply single (.marker (hbound value rfl))
  | asterisk => apply sqlText (by decide)

end Parted

/-- Only bound values are written as markers. -/
theorem Operand.parameter?_pieces (style : Style) (scope : Scope) {leaf : Operand}
    (h : ∀ value, leaf ≠ .bound value) :
  ∀ p ∈ leaf.pieces style scope, p.parameter? = none
  := by
  have hparted : Parted (Piece.Usual (fun _ => True) (fun _ => False)) (leaf.pieces style scope) :=
    Parted.operandPieces style scope leaf (fun _ _ => trivial) h
  apply hparted.forall_mem (P := fun p => p.parameter? = none)
  · intro p hp
    cases hp with
    | marker h => cases h
    | _ => rfl
  · intro text _
    rfl

/-- A statement that is written as a whole is parted. -/
theorem Statement.parted {raw : String → Prop} {style : Style} {scope : Scope} {s : Statement}
    {ps : List Piece} (h : s.attempt style scope = .ok ps)
    (hraw : ∀ leaf ∈ s.leaves style scope, ∀ text, leaf.2 = .raw text → raw text) :
  Parted (Piece.Usual raw fun _ => True) ps
  := by
  apply Parted.of_woven (Statement.woven h)
  intro leaf hleaf
  apply Parted.operandPieces style leaf.1 leaf.2 (hraw leaf hleaf) (fun _ _ => trivial)

end SqlDialect
