import SqlDialect.Proofs.Render.Scan

/-!
# Minus signs

Two minus signs that follow one another outside of quoted tokens open a comment.  Something
parted by phrases opens one just when one of its parts does.  A leaf starts with a minus sign
when it is a number that is written with one, and there is no other minus sign that could
follow it, so that no leaf opens a comment by itself.
-/

namespace SqlDialect

open Text

/-! ## Minus signs among lexemes -/

namespace Text

/-- No two minus signs follow one another outside of quoted tokens. -/
def Uncommented (lexemes : List Lexeme) : Prop :=
  ¬ [.bare '-', .bare '-'] <:+: lexemes

/-- There is no minus sign outside of quoted tokens. -/
def Unsubtracted (lexemes : List Lexeme) : Prop :=
  ∀ l ∈ lexemes, l ≠ .bare '-'

variable {xs ys : List Lexeme}

/-- Nothing opens no comment. -/
theorem uncommented_nil :
  Uncommented []
  := by
  rintro ⟨before, behind, h⟩
  simp at h

/-- A lexeme in front opens a comment just when it is a minus sign and another one follows it. -/
theorem uncommented_cons {l : Lexeme} :
  Uncommented (l :: xs) ↔ ¬ (l = .bare '-' ∧ xs.head? = some (.bare '-')) ∧ Uncommented xs
  := by
  rw [Uncommented, List.infix_cons_iff, not_or, List.cons_prefix_cons]
  cases xs with
  | nil => simp [Uncommented]
  | cons l' xs => simp [Uncommented, List.cons_prefix_cons, eq_comm]

/-- Behind something without a minus sign a comment is opened just when it is opened there. -/
theorem Unsubtracted.append_iff (h : Unsubtracted xs) :
  Uncommented (xs ++ ys) ↔ Uncommented ys
  := by
  induction xs with
  | nil => rfl
  | cons l xs ih =>
    obtain ⟨hl, hxs⟩ := List.forall_mem_cons.mp h
    rw [List.cons_append, uncommented_cons, ih hxs]
    simp [hl]

/-- Where there is no minus sign no comment is opened. -/
theorem Unsubtracted.uncommented (h : Unsubtracted xs) :
  Uncommented xs
  := by
  rw [← List.append_nil xs, h.append_iff]
  apply uncommented_nil

/-- What has no minus sign does not start with one. -/
theorem Unsubtracted.head?_ne (h : Unsubtracted xs) :
  xs.head? ≠ some (.bare '-')
  := by
  intro hhead
  apply h _ (List.mem_of_mem_head? hhead) rfl

/-- Something without a minus sign in front opens no comment behind. -/
theorem uncommented_append (h : ys.head? ≠ some (.bare '-')) :
  Uncommented (xs ++ ys) ↔ Uncommented xs ∧ Uncommented ys
  := by
  induction xs with
  | nil => simp [uncommented_nil]
  | cons l xs ih =>
    have hhead : (xs ++ ys).head? = some (.bare '-') ↔ xs.head? = some (.bare '-') := by
      cases xs with
      | nil => simp [h]
      | cons _ _ => simp
    rw [List.cons_append, uncommented_cons, uncommented_cons, ih, hhead, and_assoc]

end Text

/-! ## Minus signs in renderings -/

namespace Piece

/-- The rendering opens no comment. -/
def Uncommented (ps : List Piece) : Prop := Text.Uncommented (lexemesOf ps)

/-- There is no minus sign in the rendering outside of quoted tokens. -/
def Unsubtracted (ps : List Piece) : Prop := Text.Unsubtracted (lexemesOf ps)

/-- The rendering starts with a minus sign. -/
def Minus (ps : List Piece) : Prop := (lexemesOf ps).head? = some (.bare '-')

variable {ps qs : List Piece} {text : String}

/-- There is no minus sign in a text without the character. -/
theorem unsubtracted_plain (h : ∀ c ∈ text.toList, c ≠ '-') :
  Unsubtracted [.plain text]
  := by
  intro l hl
  simp only [lexemesOf, List.flatMap_singleton, lexemes, List.mem_map] at hl
  obtain ⟨c, hc, rfl⟩ := hl
  intro hminus
  apply h c hc (Lexeme.bare.inj hminus)

/-- There is no minus sign in wording. -/
theorem unsubtracted_of_isWording (h : isWording text) :
  Unsubtracted [.plain text]
  := by
  apply unsubtracted_plain
  intro c hc
  have hchar := List.all_eq_true.mp h c hc
  rw [Bool.and_eq_true, bne_iff_ne] at hchar
  apply hchar.2

/-- There is no minus sign outside of a quoted token. -/
theorem unsubtracted_quoted (mark : Char) (content : String) :
  Unsubtracted [.quoted mark content]
  := by
  simp [Unsubtracted, Text.Unsubtracted, lexemesOf, lexemes]

/-- There is no minus sign in renderings one after the other when there is none in each. -/
theorem Unsubtracted.append (hps : Unsubtracted ps) (hqs : Unsubtracted qs) :
  Unsubtracted (ps ++ qs)
  := by
  rw [Unsubtracted, lexemesOf_append]
  apply List.forall_mem_append.mpr ⟨hps, hqs⟩

/-- A rendering without a minus sign does not start with one. -/
theorem Unsubtracted.not_minus (h : Unsubtracted ps) :
  ¬ Minus ps
  := Text.Unsubtracted.head?_ne h

/-- A rendering without a minus sign opens no comment. -/
theorem Unsubtracted.uncommented (h : Unsubtracted ps) :
  Uncommented ps
  := Text.Unsubtracted.uncommented h

/-- Nothing opens no comment. -/
theorem uncommented_nil :
  Uncommented []
  := Text.uncommented_nil

/-- What is parted by a phrase opens a comment just when one of its parts does. -/
theorem uncommented_join (h : isPhrase text) :
  Uncommented (ps ++ .plain text :: qs) ↔ Uncommented ps ∧ Uncommented qs
  := by
  rw [isPhrase, Bool.and_eq_true, decide_eq_true_eq] at h
  obtain ⟨hne, hwording⟩ := h
  have hplain : Text.Unsubtracted (Piece.plain text).lexemes := by
    simpa [Unsubtracted, lexemesOf] using unsubtracted_of_isWording hwording
  have hhead : ((Piece.plain text).lexemes ++ lexemesOf qs).head? ≠ some (.bare '-') := by
    rw [List.head?_append_of_ne_nil]
    · apply hplain.head?_ne
    · simpa [lexemes] using hne
  rw [Uncommented, lexemesOf_append, lexemesOf_cons, uncommented_append hhead, hplain.append_iff]
  rfl

/-- A phrase in front opens no comment. -/
theorem uncommented_cons (h : isPhrase text) :
  Uncommented (.plain text :: qs) ↔ Uncommented qs
  := by
  rw [← List.nil_append (_ :: _), uncommented_join h]
  apply and_iff_right uncommented_nil

/-- A phrase behind opens no comment. -/
theorem uncommented_append_plain (h : isPhrase text) :
  Uncommented (ps ++ [.plain text]) ↔ Uncommented ps
  := by
  rw [uncommented_join h]
  apply and_iff_left uncommented_nil

/-- When one of them has no text, renderings one after the other open a comment just when one of
them does. -/
theorem uncommented_beside (h : textOf ps = "" ∨ textOf qs = "") :
  Uncommented (ps ++ qs) ↔ Uncommented ps ∧ Uncommented qs
  := by
  rw [Uncommented, Uncommented, Uncommented, lexemesOf_append]
  obtain h | h := h
  · simp [lexemesOf_eq_nil h, Text.uncommented_nil]
  · simp [lexemesOf_eq_nil h, Text.uncommented_nil]

/-- Parentheses open no comment. -/
theorem uncommented_enclosed {needed : Prop} [Decidable needed] :
  Uncommented (enclosed needed ps) ↔ Uncommented ps
  := by
  rw [enclosed]
  split
  · rw [uncommented_append_plain (by decide), uncommented_cons (by decide)]
  · rfl

/-- Renderings in a row open a comment just when one of them does. -/
theorem uncommented_separated {α : Type} {separator : String} (h : isPhrase separator)
    (pieces : α → List Piece) (items : List α) :
  Uncommented (separated separator (items.map pieces)) ↔ ∀ x ∈ items, Uncommented (pieces x)
  := by
  have hitem : ∀ x ∈ items, Uncommented (pieces x) ↔ ∀ y ∈ [x], Uncommented (pieces y) := by simp
  have hrow : Uncommented (separated separator (items.map pieces))
      ↔ ∀ x ∈ items.flatMap fun x => [x], Uncommented (pieces x) := separated_induction
    (P := fun xs ps => Uncommented ps ↔ ∀ x ∈ xs, Uncommented (pieces x))
    (by simpa using uncommented_nil)
    (fun hps hqs => by rw [uncommented_join h, List.forall_mem_append, hps, hqs])
    (fun hempty hps hqs => by
      rw [uncommented_beside (.inl hempty), List.forall_mem_append, hps, hqs])
    items hitem
  simpa using hrow

end Piece

/-- In what is composed of expressions no comment is opened when none of these opens one. -/
theorem Composed.uncommented_iff {style : Style} {places : List (Scope × Expr)} {ps : List Piece}
    (h : Composed style places ps) :
  Piece.Uncommented ps ↔ ∀ place ∈ places, Piece.Uncommented (place.2.pieces style place.1)
  := by
  induction h with
  | nil => simpa using Piece.uncommented_nil
  | text h => simpa using (Piece.unsubtracted_of_isWording h).uncommented
  | name content => simpa using (Piece.unsubtracted_quoted '"' content).uncommented
  | expr scope e => simp
  | join h _ _ ihps ihqs => rw [Piece.uncommented_join h, List.forall_mem_append, ihps, ihqs]
  | beside h _ _ ihps ihqs => rw [Piece.uncommented_beside h, List.forall_mem_append, ihps, ihqs]

/-- There is no minus sign in names. -/
theorem Composed.unsubtracted {style : Style} {places : List (Scope × Expr)} {ps : List Piece}
    (h : Composed style places ps) (hplaces : places = []) :
  Piece.Unsubtracted ps
  := by
  induction h with
  | nil => simp [Piece.Unsubtracted, Text.Unsubtracted, Piece.lexemesOf]
  | text h => apply Piece.unsubtracted_of_isWording h
  | name content => apply Piece.unsubtracted_quoted
  | expr scope e => cases hplaces
  | join h _ _ ihps ihqs =>
    obtain ⟨hls, hms⟩ := List.append_eq_nil_iff.mp hplaces
    rw [isPhrase, Bool.and_eq_true] at h
    rw [List.append_cons]
    apply ((ihps hls).append (Piece.unsubtracted_of_isWording h.2)).append (ihqs hms)
  | beside _ _ _ ihps ihqs =>
    obtain ⟨hls, hms⟩ := List.append_eq_nil_iff.mp hplaces
    apply (ihps hls).append (ihqs hms)

/-! ## Numbers -/

/-- The characters have a minus sign in front just when they are negative, and they open no
comment. -/
structure Text.SignedBy (negative : Prop) (chars : List Char) : Prop where
  head?_iff : chars.head? = some '-' ↔ negative
  uncommented : Uncommented (chars.map .bare)

/-- Characters without a minus sign may stand in front. -/
theorem Text.signedBy_append {front chars : List Char} (hfront : ∀ c ∈ front, c ≠ '-')
    (h : SignedBy False chars) :
  SignedBy False (front ++ chars)
  := by
  have hplain : Unsubtracted (front.map .bare) := by
    intro l hl
    obtain ⟨c, hc, rfl⟩ := List.mem_map.mp hl
    intro hminus
    apply hfront c hc (Lexeme.bare.inj hminus)
  constructor
  · cases front with
    | nil => apply h.head?_iff
    | cons c front => simpa using hfront c List.mem_cons_self
  · rw [List.map_append, hplain.append_iff]
    apply h.uncommented

/-- No characters are signed by nothing. -/
theorem Text.signedBy_nil :
  SignedBy False []
  := ⟨by simp, uncommented_nil⟩

/-- There is no minus sign among the places of a number. -/
theorem Text.ne_minus_of_isPlace {places : List Char} (h : places.all isPlace) :
  ∀ c ∈ places, c ≠ '-'
  := by
  rintro c hc rfl
  cases List.all_eq_true.mp h '-' hc

/-- A sign may be put in front of what starts with none. -/
theorem Text.SignedBy.sign {negative : Prop} [Decidable negative] {chars : List Char}
    (h : SignedBy False chars) :
  SignedBy negative ((if negative then ['-'] else []) ++ chars)
  := by
  have hhead : chars.head? ≠ some '-' := h.head?_iff.mp
  by_cases hnegative : negative
  · rw [if_pos hnegative]
    constructor
    · simp [hnegative]
    · rw [List.singleton_append, List.map_cons, uncommented_cons, List.head?_map]
      use by simpa using hhead
      apply h.uncommented
  · rw [if_neg hnegative, List.nil_append]
    exact ⟨iff_of_false hhead hnegative, h.uncommented⟩

/-- A number without a sign starts with none, and its exponent may have one. -/
theorem Unsigned.signedBy {chars : List Char} (h : Unsigned chars) :
  SignedBy False chars
  := by
  have hplaces : ∀ {places : List Char}, places.all isPlace → SignedBy False places := by
    intro places hplaces
    rw [← List.append_nil places]
    apply signedBy_append (ne_minus_of_isPlace hplaces) signedBy_nil
  cases h with
  | positional h => apply hplaces h
  | exponential h exponent =>
    have hexponent : SignedBy (exponent < 0) (Text.integer exponent).toList := by
      rw [Text.integer, String.toList_ofList]
      apply (hplaces (all_isPlace_digits _)).sign
    apply signedBy_append (ne_minus_of_isPlace h)
    constructor
    · simp
    · rw [List.map_cons, uncommented_cons]
      use by simp
      apply hexponent.uncommented

/-- A number starts with a minus sign just when it is negative. -/
theorem Signed.signedBy {negative : Prop} [Decidable negative] {chars : List Char}
    (h : Signed negative chars) :
  SignedBy negative chars
  := by
  obtain ⟨chars, hchars, rfl⟩ := h
  apply hchars.signedBy.sign

/-- The pieces start with a minus sign just when they are negative, and they open no comment. -/
structure Piece.SignedBy (negative : Prop) (ps : List Piece) : Prop where
  minus_iff : Minus ps ↔ negative
  uncommented : Uncommented ps

namespace Piece

variable {negative : Prop} {ps : List Piece} {text : String}

/-- A rendering without a minus sign does not start with one. -/
theorem Unsubtracted.signedBy (h : Unsubtracted ps) :
  SignedBy False ps
  := ⟨iff_of_false h.not_minus id, h.uncommented⟩

/-- A text by itself starts with a sign when its characters do. -/
theorem signedBy_plain (h : Text.SignedBy negative text.toList) :
  SignedBy negative [.plain text]
  := by
  constructor
  · rw [← h.head?_iff, Minus]
    simp [lexemesOf, lexemes]
  · simpa [Uncommented, lexemesOf, lexemes] using h.uncommented

/-- What starts with a phrase does not start with a minus sign. -/
theorem not_minus_cons (h : isPhrase text) (ps : List Piece) :
  ¬ Minus (.plain text :: ps)
  := by
  rw [isPhrase, Bool.and_eq_true, decide_eq_true_eq] at h
  rw [Minus, lexemesOf_cons, List.head?_append_of_ne_nil]
  · simpa [Minus, lexemesOf] using (unsubtracted_of_isWording h.2).not_minus
  · simpa [lexemes] using h.1

/-- Behind something without a minus sign. -/
theorem Unsubtracted.not_minus_append (hps : Unsubtracted ps) (hqs : ¬ Minus qs) :
  ¬ Minus (ps ++ qs)
  := by
  rw [Minus, lexemesOf_append, List.head?_append, Option.or_eq_some_iff]
  rintro (hminus | ⟨-, hminus⟩)
  · apply hps.not_minus hminus
  · apply hqs hminus

/-- Behind a sign nothing may start with another one. -/
theorem uncommented_sign :
  Uncommented (.plain UnaryOp.negative.text :: ps) ↔ ¬ Minus ps ∧ Uncommented ps
  := by
  have hsign : (plain UnaryOp.negative.text).lexemes = [.bare '-'] := rfl
  rw [Uncommented, lexemesOf_cons, hsign, List.singleton_append, Text.uncommented_cons,
    and_iff_right rfl]
  rfl

/-- An operator between two renderings opens no comment, since there are blanks around it. -/
theorem uncommented_operator (op : BinaryOp) :
  Uncommented (ps ++ .plain op.text :: qs) ↔ Uncommented ps ∧ Uncommented qs
  := by
  have hbehind : Text.Uncommented ((plain op.text).lexemes ++ lexemesOf qs)
      ↔ Text.Uncommented (lexemesOf qs) := by
    cases op <;> simp [lexemes, BinaryOp.text, Text.uncommented_cons]
  have hhead : ((plain op.text).lexemes ++ lexemesOf qs).head? ≠ some (.bare '-') := by
    cases op <;> simp [lexemes, BinaryOp.text]
  rw [Uncommented, lexemesOf_append, lexemesOf_cons, Text.uncommented_append hhead, hbehind]
  rfl

/-- A conversion opens a comment just when one of its two parts does. -/
theorem uncommented_cast (argument target : List Piece) :
  Uncommented (cast argument target) ↔ Uncommented argument ∧ Uncommented target
  := by
  change Uncommented (.plain "CAST(" :: (argument ++ .plain " AS " :: target) ++ [.plain ")"]) ↔ _
  rw [uncommented_append_plain (by decide), uncommented_cons (by decide),
    uncommented_join (by decide)]

end Piece

/-! ## Leaves -/

/-- The value is a number that is written with a minus sign. -/
def Value.IsSigned : Value → Prop
  | smallint (some n) => n.toInt < 0
  | integer (some n) => n.toInt < 0
  | bigint (some n) => n.toInt < 0
  | double (some x) => x.isFinite ∧ x.isNegative
  | decimal (some x) _ _ => x.isNegative
  | _ => False

/-- The leaf is a number that is written with a minus sign. -/
def Operand.IsSigned (scope : Scope) : Operand → Prop
  | float x => x.isFinite ∧ x.isNegative
  | int n => n < 0
  | inline value => value.IsSigned
  | bound value => scope.inline ∧ value.IsSigned
  | _ => False

/-- There are no marks and no minus signs in the leaf if it is raw text. -/
def Operand.IsHarmless (leaf : Operand) : Prop :=
  ∀ text, leaf = .raw text → ∀ c ∈ text.toList, isMark c = false ∧ c ≠ '-'

/-- There is no minus sign in what is written of a type. -/
theorem Style.unsubtracted_typePieces (style : Style) (type : ColumnType) :
  Piece.Unsubtracted (style.typePieces type)
  := by
  rw [typePieces]
  split
  next name h => apply Piece.unsubtracted_of_isWording (isWording_typeName h)
  · simp [Piece.Unsubtracted, Text.Unsubtracted, Piece.lexemesOf, Piece.lexemes]

/-- A floating point number starts with a minus sign when it is finite and negative; any other is
quoted. -/
theorem Binary64.signedBy (style : Style) (x : Binary64) :
  Piece.SignedBy (x.isFinite ∧ x.isNegative) (x.pieces style)
  := by
  rw [pieces]
  split
  next h =>
    simpa [h] using Piece.signedBy_plain (signed_render sqlLayout h).signedBy
  next h =>
    simp only [h, Bool.false_eq_true, false_and]
    use iff_of_false (Piece.not_minus_cons (by decide) _) id
    rw [castPieces, Piece.uncommented_cast]
    use (Piece.unsubtracted_quoted _ _).uncommented
    apply (style.unsubtracted_typePieces .double).uncommented

/-- A value starts with a minus sign just when it is a number that is written with one. -/
theorem Value.signedBy (style : Style) (value : Value) :
  Piece.SignedBy value.IsSigned (value.pieces style)
  := by
  have hwording : ∀ {text}, isWording text → Piece.SignedBy False [.plain text] :=
    fun hwording => (Piece.unsubtracted_of_isWording hwording).signedBy
  have hnull : Piece.SignedBy False [.plain "NULL"] := hwording (by decide)
  have hinteger : ∀ n : Int, Piece.SignedBy (n < 0) [.plain (Text.integer n)] := by
    intro n
    apply Piece.signedBy_plain (signed_integer n).signedBy
  have hquoted : ∀ content, Piece.SignedBy False [.literal content] := by
    intro content
    apply (Piece.unsubtracted_quoted _ content).signedBy
  cases value with
  | null => apply hnull
  | boolean content =>
    cases content with
    | none => apply hnull
    | some x => apply hwording (isWording_boolean style x)
  | smallint content =>
    cases content with
    | none => apply hnull
    | some n => apply hinteger
  | integer content =>
    cases content with
    | none => apply hnull
    | some n => apply hinteger
  | bigint content =>
    cases content with
    | none => apply hnull
    | some n => apply hinteger
  | double content =>
    cases content with
    | none => apply hnull
    | some x => apply x.signedBy
  | decimal content precision scale =>
    cases content with
    | none => apply hnull
    | some x => apply Piece.signedBy_plain (signed_decimal x).signedBy
  | varchar content =>
    cases content with
    | none => apply hnull
    | some x => apply hquoted
  | date content =>
    cases content with
    | none => apply hnull
    | some x => apply hquoted
  | timestamp content =>
    cases content with
    | none => apply hnull
    | some x => apply hquoted
  | moment content =>
    cases content with
    | none => apply hnull
    | some x =>
      change Piece.SignedBy False x.pieces
      rw [Moment.pieces]
      split
      · apply hquoted
      · apply Piece.Unsubtracted.signedBy
        simp [Piece.Unsubtracted, Text.Unsubtracted, Piece.lexemesOf, Piece.lexemes]

/-- Only signed numbers start with a minus sign, and no leaf opens a comment. -/
theorem Operand.signedBy (style : Style) (scope : Scope) {leaf : Operand} (h : leaf.IsHarmless) :
  Piece.SignedBy (leaf.IsSigned scope) (leaf.pieces style scope)
  := by
  have hwording : ∀ {text}, isWording text → Piece.SignedBy False [.plain text] :=
    fun hwording => (Piece.unsubtracted_of_isWording hwording).signedBy
  cases leaf with
  | null => apply hwording (by decide)
  | boolean x => apply hwording (isWording_boolean style x)
  | float x =>
    rw [pieces_float]
    apply x.signedBy
  | raw text =>
    apply (Piece.unsubtracted_plain fun c hc => (h text rfl c hc).2).signedBy
  | int n =>
    have hlexemes : Piece.lexemesOf ((int n).pieces style scope)
        = Piece.lexemesOf [.plain (Text.integer n)] := by
      rw [pieces, tokens, Token.ofInt]
      split
      next hneg =>
        have hsigned : (Text.integer n).toList = '-' :: (Text.integer n.natAbs).toList := by
          rw [toList_integer_natural, Text.integer, if_pos hneg, String.toList_ofList,
            List.singleton_append]
        change Piece.lexemesOf [.plain "-", .plain (Text.integer n.natAbs)] = _
        rw [Piece.lexemesOf_cons, Piece.lexemesOf_cons, Piece.lexemesOf_cons, Piece.lexemes,
          Piece.lexemes, Piece.lexemes, hsigned, List.map_cons]
        rfl
      · rfl
    have hsigned := Piece.signedBy_plain (signed_integer n).signedBy
    constructor
    · rw [Piece.Minus, hlexemes]
      apply hsigned.minus_iff
    · rw [Piece.Uncommented, hlexemes]
      apply hsigned.uncommented
  | text content => apply (Piece.unsubtracted_quoted _ content).signedBy
  | column c =>
    rw [pieces_column]
    apply ((Composed.columnPieces style scope c).unsubtracted rfl).signedBy
  | type t =>
    rw [pieces_type]
    apply (style.unsubtracted_typePieces t).signedBy
  | inline value =>
    rw [pieces_inline]
    apply value.signedBy
  | bound value =>
    rw [pieces_bound]
    split
    next hinline => simpa [IsSigned, hinline] using value.signedBy style
    next hinline =>
      simp only [IsSigned, hinline, Bool.false_eq_true, false_and]
      apply Piece.Unsubtracted.signedBy
      simp [Piece.Unsubtracted, Text.Unsubtracted, Piece.lexemesOf, Piece.lexemes]
  | asterisk => apply hwording (by decide)

end SqlDialect
