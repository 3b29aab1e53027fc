import Mathlib.Algebra.Ring.Nat
import SqlDialect.Proofs.Render.Scan
import SqlDialect.Proofs.Text.Froms

/-!
# The sources in a rendering

How often the keyword FROM stands in a rendering of OpenEdge.  Names, values and raw words
bring none, and the next value of a sequence brings one wherever it stands.
-/

namespace SqlDialect

open Text

namespace Piece

/-- How often the keyword FROM stands in a rendering. -/
def froms (pieces : List Piece) : Nat := Text.froms (lexemesOf pieces)

/-- No word goes on into the text. -/
def startsApart (text : String) : Bool := text.toList.head?.any fun c => !isAnyWord c

/-- No word goes on from the text. -/
def endsApart (text : String) : Bool := text.toList.getLast?.any fun c => !isAnyWord c

/-- The text parts the words on its two sides, and the keyword FROM is not among its own. -/
def isJoint (text : String) : Bool :=
  startsApart text && endsApart text && froms [.plain text] = 0

variable {ps qs : List Piece} {text : String}

/-- Nothing brings no source. -/
@[simp]
theorem froms_nil :
  froms [] = 0
  := rfl

/-- The lexemes of a text by itself are its characters. -/
theorem lexemesOf_plain (text : String) :
  lexemesOf [.plain text] = text.toList.map .bare
  := by
  simp [lexemesOf, lexemes]

/-- A rendering stands apart in front when its first text does. -/
theorem startsApart_cons (h : startsApart text) (ps : List Piece) :
  StartsApart (lexemesOf (.plain text :: ps))
  := by
  obtain ⟨c, hc, hword⟩ := Option.any_eq_true _ _ |>.mp h
  obtain ⟨rest, hchars⟩ := List.head?_eq_some_iff.mp hc
  rw [lexemesOf_cons, lexemes, hchars]
  intro l hl
  obtain rfl := Option.some.inj hl
  simpa [Lexeme.isWord] using hword

/-- Renderings that stand apart in front may stand one after the other. -/
theorem startsApart_append (hps : StartsApart (lexemesOf ps)) (hqs : StartsApart (lexemesOf qs)) :
  StartsApart (lexemesOf (ps ++ qs))
  := by
  rw [lexemesOf_append]
  intro l hl
  rw [List.head?_append, Option.mem_def, Option.or_eq_some_iff] at hl
  obtain hl | ⟨-, hl⟩ := hl
  · apply hps l hl
  · apply hqs l hl

/-- A text by itself stands apart behind when its last character does. -/
theorem endsApart_plain (h : endsApart text) :
  EndsApart (lexemesOf [.plain text])
  := by
  obtain ⟨c, hc, hword⟩ := Option.any_eq_true _ _ |>.mp h
  intro l hl
  rw [lexemesOf_plain, List.getLast?_map, hc] at hl
  obtain rfl := Option.some.inj hl
  simpa [Lexeme.isWord] using hword

/-- A text from which no word goes on may stand in front. -/
theorem froms_cons (h : endsApart text) :
  froms (.plain text :: ps) = froms [.plain text] + froms ps
  := by
  rw [froms, froms, froms, ← froms_append_of_endsApart (endsApart_plain h), ← lexemesOf_append]
  rfl

/-- Something into which no word goes on may stand behind. -/
theorem froms_append (h : StartsApart (lexemesOf qs)) :
  froms (ps ++ qs) = froms ps + froms qs
  := by
  rw [froms, lexemesOf_append, froms_append_of_startsApart h]
  rfl

/-- A text that stands apart brings its sources behind any rendering. -/
theorem froms_append_plain (h : startsApart text) :
  froms (ps ++ [.plain text]) = froms ps + froms [.plain text]
  := froms_append (startsApart_cons h [])

/-- A text that joins two renderings brings no source, and both bring theirs. -/
theorem froms_join (h : isJoint text) :
  froms (ps ++ .plain text :: qs) = froms ps + froms qs
  := by
  simp only [isJoint, Bool.and_eq_true, decide_eq_true_eq] at h
  obtain ⟨⟨hstart, hend⟩, hnone⟩ := h
  rw [froms_append (startsApart_cons hstart qs), froms_cons hend, hnone, Nat.zero_add]

/-- Parentheses bring no source. -/
theorem froms_enclosed {needed : Prop} [Decidable needed] :
  froms (enclosed needed ps) = froms ps
  := by
  rw [enclosed]
  split
  · rw [froms_append_plain (by decide), froms_cons (by decide)]
    simp [show froms [.plain "("] = 0 from rfl, show froms [.plain ")"] = 0 from rfl]
  · rfl

/-- Renderings in a row bring what each of them brings. -/
theorem froms_separated {separator : String} (h : isJoint separator) (items : List (List Piece)) :
  froms (separated separator items) = (items.map froms).sum
  := by
  induction items with
  | nil => rfl
  | cons item rest ih =>
    cases rest with
    | nil => simp [separated]
    | cons next rest =>
      rw [List.map_cons, List.sum_cons, ← ih, separated]
      split
      next hempty =>
        have hnone : lexemesOf item = [] := lexemesOf_eq_nil hempty
        rw [List.append_nil, froms, lexemesOf_append, froms, hnone]
        simp [froms]
      next =>
        rw [List.append_assoc]
        apply froms_join h
      simp

/-- A quoted token brings no source, whatever is in it. -/
theorem froms_quoted (mark : Char) (content : String) :
  froms [.quoted mark content] = 0
  := Text.froms_cons rfl

/-- Without an O in it a text does not bring the keyword FROM. -/
theorem froms_plain_of_all (h : text.toList.all fun c => c.toUpper != 'O') :
  froms [.plain text] = 0
  := by
  apply Text.froms_eq_zero
  rw [lexemesOf_plain]
  intro l hl hupper
  obtain ⟨c, hc, rfl⟩ := List.mem_map.mp hl
  apply bne_iff_ne.mp (List.all_eq_true.mp h c hc)
  exact Lexeme.bare.inj hupper

/-- The letter in the middle of the keyword is in no numeral, in either case. -/
theorem toUpper_ne_of_isNumeral {c : Char} (h : isNumeral c) :
  c.toUpper ≠ 'O'
  := by
  rw [isNumeral, Bool.or_eq_true] at h
  obtain hdigit | hsign := h
  · have hupper : c.toUpper = c := by
      obtain ⟨-, hhigh⟩ := Char.isDigit_iff_toNat.mp hdigit
      apply dif_neg
      rintro ⟨hlow, -⟩
      have hletter : 'a'.toNat ≤ c.toNat := hlow
      exact absurd (hletter.trans hhigh) (by decide)
    rw [hupper]
    rintro rfl
    cases hdigit
  · have hsigns : ['-', '.', 'e', 'N', 'a', 'i', 'n', 'f'].all fun d => d.toUpper != 'O' := by
      decide
    apply bne_iff_ne.mp (List.all_eq_true.mp hsigns c (by simpa using hsign))

/-- The letter in the middle of the keyword is at no place in a numeral. -/
theorem all_toUpper_ne_of_all_isNumeral {chars : List Char} (h : chars.all isNumeral) :
  chars.all fun c => c.toUpper != 'O'
  := by
  apply List.all_eq_true.mpr
  intro c hc
  apply bne_iff_ne.mpr (toUpper_ne_of_isNumeral (List.all_eq_true.mp h c hc))

/-- A numeral brings no source. -/
theorem froms_plain_of_isNumeral (h : text.toList.all isNumeral) :
  froms [.plain text] = 0
  := froms_plain_of_all (all_toUpper_ne_of_all_isNumeral h)

end Piece

/-! ## Names and values -/

/-- The text is a word, and not the keyword FROM. -/
structure IsPlainWord (text : String) : Prop where
  word : ∀ c ∈ text.toList, isAnyWord c
  notFrom : text.map Char.toUpper ≠ "FROM"

/-- A word other than the keyword brings no source. -/
theorem IsPlainWord.froms {text : String} (h : IsPlainWord text) :
  Piece.froms [.plain text] = 0
  := by
  have hword : ∀ l ∈ text.toList.map Lexeme.bare, l.isWord := by
    intro l hl
    obtain ⟨c, hc, rfl⟩ := List.mem_map.mp hl
    apply h.word c hc
  rw [Piece.froms, Piece.lexemesOf_plain, froms_of_isWord hword, if_neg]
  intro hfrom
  apply h.notFrom
  have hspelled : (text.toList.map Lexeme.bare).map Lexeme.upper = "FROM".toList.map .bare := by
    simpa only [isFrom, decide_eq_true_eq] using hfrom
  have hbare : ∀ xs ys : List Char, xs.map Lexeme.bare = ys.map Lexeme.bare → xs = ys :=
    fun xs ys => (List.map_inj_right fun _ _ => Lexeme.bare.inj).mp
  apply String.toList_injective
  apply hbare
  rw [← hspelled, String.toList_map, List.map_map, List.map_map]
  rfl

namespace Style

/-- An identifier brings no source: the keyword is reserved, and stands quoted. -/
theorem froms_identifier (name : String) :
  Piece.froms [openEdge.identifier name] = 0
  := by
  rw [identifier]
  split
  · apply Piece.froms_quoted
  next h =>
    rw [Bool.not_eq_true] at h
    apply IsPlainWord.froms
    constructor
    · apply (isAnyWord_of_needsQuotes h).2
    · intro hfrom
      have hreserved : openEdge.isReserved name = true := by
        rw [isReserved, hfrom]
        decide +kernel
      rw [needsQuotes, hreserved, Bool.or_true] at h
      cases h

/-- The identifier of an owner brings no source. -/
theorem froms_qualifiedBy (owner : String) {ps : List Piece} (h : Piece.froms ps = 0) :
  Piece.froms (openEdge.qualifiedBy owner ps) = 0
  := by
  rw [qualifiedBy]
  split
  · apply h
  · change Piece.froms ([_] ++ .plain "." :: ps) = 0
    rw [Piece.froms_join (by decide), froms_identifier, h]

/-- A type brings no source. -/
theorem froms_typePieces (type : ColumnType) :
  Piece.froms (openEdge.typePieces type) = 0
  := by
  have hnumeral : ∀ n : Int, (Text.integer n).toList.all fun c => c.toUpper != 'O' := by
    intro n
    apply Piece.all_toUpper_ne_of_all_isNumeral (all_isNumeral_integer n)
  have hdecimal : ∀ precision scale, Piece.froms [.plain (ColumnType.decimalName precision scale)]
      = 0 := by
    intro precision scale
    rw [ColumnType.decimalName]
    split
    · rfl
    · apply Piece.froms_plain_of_all
      simp only [String.toList_append, List.all_append, Bool.and_eq_true]
      exact ⟨⟨⟨⟨by decide, hnumeral _⟩, by decide⟩, hnumeral _⟩, by decide⟩
  have hvarchar : ∀ length, Piece.froms [.plain (ColumnType.varcharName length)] = 0 := by
    intro length
    rw [ColumnType.varcharName]
    apply Piece.froms_plain_of_all
    simp only [String.toList_append, List.all_append, Bool.and_eq_true]
    exact ⟨⟨by decide, hnumeral _⟩, by decide⟩
  cases type with
  | decimal precision scale => apply hdecimal
  | varchar length =>
    cases length with
    | none => rfl
    | some length => apply hvarchar
  | _ => rfl

end Style

/-- A table brings no source by itself. -/
theorem Table.froms_pieces (scope : Scope) (t : Table) :
  Piece.froms (t.pieces .openEdge scope) = 0
  := by
  have hname := Style.froms_qualifiedBy t.schema (Style.froms_identifier t.name)
  rw [pieces]
  split
  · apply hname
  · split
    · change Piece.froms (_ ++ .plain " " :: [_]) = 0
      rw [Piece.froms_join (by decide), hname, Style.froms_identifier]
    · apply Style.froms_identifier

/-- A column brings no source. -/
theorem Column.froms_pieces (scope : Scope) (c : Column) :
  Piece.froms (c.pieces .openEdge scope) = 0
  := by
  have hname := Style.froms_identifier c.name
  rw [pieces]
  split
  · apply Style.froms_qualifiedBy
    apply Style.froms_qualifiedBy _ hname
  · apply hname

/-- The name of a sequence brings no source. -/
theorem Sequence.froms_namePieces (s : Sequence) :
  Piece.froms (s.namePieces .openEdge) = 0
  := Style.froms_qualifiedBy _ (Style.froms_identifier s.name)

/-- The next value of a sequence brings its source. -/
theorem Sequence.froms_nextValuePieces (s : Sequence) :
  Piece.froms (s.nextValuePieces .openEdge) = 1
  := by
  rw [nextValuePieces, Piece.froms_append_plain (by decide), froms_namePieces]
  rfl

/-- A floating point number brings no source, nor does its conversion. -/
theorem Binary64.froms_pieces (x : Binary64) :
  Piece.froms (x.pieces .openEdge) = 0
  := by
  rw [pieces]
  split
  · apply Piece.froms_plain_of_isNumeral (all_isNumeral_render sqlLayout x)
  · rfl

/-- A value brings no source. -/
theorem Value.froms_pieces (value : Value) :
  Piece.froms (value.pieces .openEdge) = 0
  := by
  have hinteger : ∀ n : Int, Piece.froms [.plain (Text.integer n)] = 0 := by
    intro n
    apply Piece.froms_plain_of_isNumeral (all_isNumeral_integer n)
  cases value with
  | null => rfl
  | boolean content =>
    cases content with
    | none => rfl
    | some x => cases x <;> rfl
  | smallint content =>
    cases content with
    | none => rfl
    | some n => apply hinteger
  | integer content =>
    cases content with
    | none => rfl
    | some n => apply hinteger
  | bigint content =>
    cases content with
    | none => rfl
    | some n => apply hinteger
  | double content =>
    cases content with
    | none => rfl
    | some x => apply x.froms_pieces
  | decimal content precision scale =>
    cases content with
    | none => rfl
    | some x => apply Piece.froms_plain_of_isNumeral (all_isNumeral_decimal x)
  | varchar content =>
    cases content with
    | none => rfl
    | some x => apply Piece.froms_quoted
  | date content =>
    cases content with
    | none => rfl
    | some x => apply Piece.froms_quoted
  | timestamp content =>
    cases content with
    | none => rfl
    | some x => apply Piece.froms_quoted
  | moment content =>
    cases content with
    | none => rfl
    | some x =>
      change Piece.froms x.pieces = 0
      rw [Moment.pieces]
      split
      · apply Piece.froms_quoted
      · rfl

/-- As raw text the leaf is a word, and not the keyword FROM. -/
def Operand.IsPlain (leaf : Operand) : Prop :=
  ∀ text, leaf = .raw text → IsPlainWord text

/-- A leaf brings no source when it is no raw text with the keyword in it. -/
theorem Operand.froms_pieces (scope : Scope) {leaf : Operand} (hplain : leaf.IsPlain) :
  Piece.froms (leaf.pieces .openEdge scope) = 0
  := by
  cases leaf with
  | null => rfl
  | boolean x => cases x <;> rfl
  | float x =>
    rw [pieces_float]
    apply x.froms_pieces
  | raw text => apply (hplain text rfl).froms
  | int n =>
    have hdigits : ∀ m, Piece.froms [.plain (Text.integer m)] = 0 := by
      intro m
      apply Piece.froms_plain_of_isNumeral (all_isNumeral_integer m)
    rw [pieces, tokens, Token.ofInt]
    split
    · change Piece.froms (.plain "-" :: [.plain _]) = 0
      rw [Piece.froms_cons (by decide), hdigits]
      rfl
    · apply hdigits
  | text content => apply Piece.froms_quoted
  | column c =>
    rw [pieces_column]
    apply c.froms_pieces
  | type t =>
    rw [pieces_type]
    apply Style.froms_typePieces
  | inline value =>
    rw [pieces_inline]
    apply value.froms_pieces
  | bound value =>
    rw [pieces_bound]
    split
    · apply value.froms_pieces
    · rfl
  | asterisk => rfl

/-! ## Expressions -/

namespace Expr

mutual

/-- How many next values of sequences are written of an expression, which the labels in an ORDER BY
clause are not. -/
def nextValues (ordering : Bool) : Expr → Nat
  | operand _ => 0
  | unary _ argument => argument.nextValues ordering
  | binary _ left right => left.nextValues ordering + right.nextValues ordering
  | cast argument target => argument.nextValues false + target.nextValues false
  | labelled argument label =>
    if ordering then argument.nextValues ordering
    else argument.nextValues ordering + label.nextValues ordering
  | currentTimestamp => 0
  | currentDate => 0
  | call _ arguments => nextValuesOf ordering arguments
  | nextValue _ => 1

/-- How many next values are written of the expressions. -/
def nextValuesOf (ordering : Bool) : List Expr → Nat
  | [] => 0
  | e :: rest => e.nextValues ordering + nextValuesOf ordering rest

end

/-- The next values of expressions are counted one by one. -/
theorem nextValuesOf_eq (ordering : Bool) (es : List Expr) :
  nextValuesOf ordering es = (es.map (nextValues ordering)).sum
  := by
  induction es with
  | nil => rfl
  | cons e rest ih => rw [nextValuesOf, ih, List.map_cons, List.sum_cons]

/-- The next values in both lists are counted together. -/
theorem nextValuesOf_append (ordering : Bool) (es es' : List Expr) :
  nextValuesOf ordering (es ++ es') = nextValuesOf ordering es + nextValuesOf ordering es'
  := by
  rw [nextValuesOf_eq, nextValuesOf_eq, nextValuesOf_eq, List.map_append, List.sum_append_nat]

/-- The raw texts of the expression are words, and none is the keyword FROM. -/
def IsPlain (e : Expr) : Prop :=
  ∀ leaf ∈ e.operands, leaf.IsPlain

/-- An expression brings as many sources as next values are written of it. -/
theorem froms_pieces {e : Expr} (hplain : e.IsPlain) (scope : Scope) :
  Piece.froms (e.pieces .openEdge scope) = e.nextValues (scope.clause = .selectOrderBy)
  := by
  induction e using induction generalizing scope with
  | operand leaf =>
    apply Operand.froms_pieces
    apply hplain leaf (List.mem_singleton_self _)
  | unary op argument ih =>
    have hend : Piece.endsApart op.text := by cases op <;> decide
    have hnone : Piece.froms [.plain op.text] = 0 := by cases op <;> rfl
    rw [pieces_unary, nextValues, Piece.froms_cons hend, hnone, Piece.froms_enclosed, ih hplain,
      Nat.zero_add]
  | binary op left right ihl ihr =>
    obtain ⟨hl, hr⟩ := List.forall_mem_append.mp hplain
    have hjoint : Piece.isJoint op.text := by cases op <;> decide
    rw [pieces_binary, nextValues, Piece.froms_join hjoint, Piece.froms_enclosed,
      Piece.froms_enclosed, ihl hl, ihr hr]
  | cast argument target iha iht =>
    obtain ⟨ha, ht⟩ := List.forall_mem_append.mp hplain
    have hopen : Piece.froms [.plain "CAST("] = 0 := rfl
    have hclose : Piece.froms [.plain ")"] = 0 := rfl
    rw [pieces_cast, nextValues, Piece.cast, Piece.froms_append_plain (by decide), hclose,
      Piece.froms_join (by decide), Piece.froms_cons (by decide), hopen, iha ha, iht ht]
    simp [Scope.entering]
  | labelled argument label iha ihl =>
    obtain ⟨ha, hl⟩ := List.forall_mem_append.mp hplain
    rw [pieces_labelled, nextValues]
    by_cases hclause : scope.clause = .selectOrderBy
    · rw [if_pos hclause, if_pos (by simpa using hclause), iha ha]
    · rw [if_neg hclause, if_neg (by simpa using hclause), Piece.froms_join (by decide),
        Piece.froms_enclosed, Piece.froms_enclosed, iha ha, ihl hl]
  | currentTimestamp => rfl
  | currentDate => rfl
  | call name arguments ih =>
    rw [IsPlain, operands, operandsOf_eq] at hplain
    obtain ⟨hname, harguments⟩ := List.forall_mem_cons.mp hplain
    have hclose : Piece.froms [.plain ")"] = 0 := rfl
    have hsame : (arguments.map (pieces .openEdge scope)).map Piece.froms
        = arguments.map (nextValues (scope.clause = .selectOrderBy)) := by
      rw [List.map_map]
      apply List.map_congr_left
      intro e he
      apply ih e he
      intro leaf hleaf
      apply harguments leaf (List.mem_flatMap.mpr ⟨e, he, hleaf⟩)
    rw [pieces_call, nextValues, nextValuesOf_eq, ← hsame]
    change Piece.froms ([.plain name] ++ .plain "(" :: (_ ++ [.plain ")"])) = _
    rw [Piece.froms_join (by decide), Piece.froms_append_plain (by decide), hclose,
      Piece.froms_separated (by decide), (hname name rfl).froms]
    simp
  | nextValue sequence =>
    rw [pieces_nextValue]
    apply sequence.froms_nextValuePieces

end Expr

end SqlDialect
