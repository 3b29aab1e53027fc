import Mathlib
import SqlDialect.Proofs.ColumnType.Respelling
import SqlDialect.Proofs.Identifier.Shown
import SqlDialect.Proofs.Render.Counts
import SqlDialect.Proofs.Text.Digits

/-!
# Columns and keywords

Whether a column can be read as something else: as a constant, as the asterisk, as a marker or as
the current time.  Literals start with a sign, with a digit or with a word that is reserved, so no
column has the text of one, whatever the case of the letters.  The words for the current time are
reserved in part only, and a column that stands alone under such a word has its text.
-/

namespace SqlDialect

/-! ## Letter case -/

/-- Texts are equal but for letter case when they are in small letters. -/
theorem equalIgnoringCase_iff {x y : String} :
  EqualIgnoringCase x y ↔ x.toList.map Char.toLower = y.toList.map Char.toLower
  := by
  rw [EqualIgnoringCase, ← String.toList_inj, String.toList_map, String.toList_map]

instance (x y : String) : Decidable (EqualIgnoringCase x y) :=
  decidable_of_iff _ equalIgnoringCase_iff.symm

/-- Only a letter becomes a letter. -/
theorem toLower_eq_iff {c d : Char} (hd : ¬ d.isAlpha) :
  c.toLower = d ↔ c = d
  := by
  by_cases hc : c.isUpper
  · constructor
    · rintro rfl
      simp [Char.isAlpha, hc] at hd
    · rintro rfl
      simp [Char.isAlpha, hc] at hd
  · rw [Char.toLower_eq_of_not_isUpper hc]

/-- The small letter of a character occurs in words just when the character does. -/
theorem isAnyWord_toLower (c : Char) :
  isAnyWord c.toLower = isAnyWord c
  := by
  by_cases hc : c.isUpper
  · simp [isAnyWord, Char.isAlphanum, Char.isAlpha, hc]
  · rw [Char.toLower_eq_of_not_isUpper hc]

/-- A word that ends there ends there in small letters. -/
theorem Text.EndsName.map_toLower {rest : List Char} (h : EndsName rest) :
  EndsName (rest.map Char.toLower)
  := by
  intro c hc
  rw [List.head?_map, Option.mem_map] at hc
  obtain ⟨c, hc, rfl⟩ := hc
  obtain ⟨hword, hquote⟩ := h c hc
  rw [isAnyWord_toLower]
  use hword
  rwa [Ne, toLower_eq_iff (by decide)]

/-- A word with something behind it that is not part of a name starts with no quotation mark. -/
theorem Text.head?_word_append_ne {word rest : List Char} (hword : ∀ d ∈ word, isAnyWord d)
    (hrest : EndsName rest) :
  ((word ++ rest).map Char.toLower).head? ≠ some '"'
  := by
  intro hfirst
  cases word with
  | nil => cases (hrest.map_toLower '"' hfirst).2 rfl
  | cons d word =>
    have hquote : d = '"' := (toLower_eq_iff (by decide)).mp (Option.some.inj hfirst)
    subst hquote
    cases hword '"' List.mem_cons_self

/-- The text starts with a digit. -/
def Text.StartsWithDigit (text : List Char) : Prop := ∃ d, text.head? = some d ∧ d.isDigit

/-! ## Columns in front of other texts -/

/-- Identifiers with dots between them start with the first one, and go on with a dot if at all. -/
theorem Style.toList_dotted_cons (style : Style) (name : String) (rest : List String) :
  ∃ tail, (Piece.textOf (style.dotted (name :: rest))).toList
      = (style.identifier name).text.toList ++ tail
    ∧ Text.EndsName tail ∧ (tail = [] ↔ rest = []) ∧ (rest ≠ [] → tail.head? = some '.')
  := by
  cases rest with
  | nil =>
    rw [toList_dotted_singleton]
    exact ⟨[], by simp, by simp [Text.EndsName], by simp, by simp⟩
  | cons next rest =>
    rw [toList_dotted_cons_cons]
    exact ⟨_, rfl, by simp [Text.EndsName, isAnyWord], by simp, by simp⟩

namespace Column

variable {style : Style} {scope : Scope} {c : Column}

/-- A column shows one name only when it is not qualified, and then its own. -/
theorem shown_eq_singleton_iff {name : String} :
  c.shown scope = [name] ↔ ¬ (scope.qualified ∧ c.table ≠ "") ∧ c.name = name
  := by
  rw [shown]
  split
  next h =>
    split <;> simp [h]
  next h => simp [h]

/-- A column has the text of a word, with something behind it that is not part of a name, only
when nothing is behind it and the column stands alone and bare under this word. -/
theorem alike_word_iff {word rest : List Char} (hword : ∀ d ∈ word, isAnyWord d)
    (hrest : Text.EndsName rest) (hdot : rest.head? ≠ some '.') :
  (Piece.textOf (c.pieces style scope)).toList.map Char.toLower
      = (word ++ rest).map Char.toLower
    ↔ rest = [] ∧ ¬ (scope.qualified ∧ c.table ≠ "") ∧ style.StandsBare c.name
      ∧ c.name.toList.map Char.toLower = word.map Char.toLower
  := by
  have hlower : ∀ {w : List Char}, (∀ d ∈ w, isAnyWord d) → ∀ d ∈ w.map Char.toLower,
      isAnyWord d := by
    intro w hw e he
    obtain ⟨d, hd, rfl⟩ := List.mem_map.mp he
    rw [isAnyWord_toLower]
    apply hw d hd
  rw [pieces_eq_dotted]
  constructor
  · intro h
    obtain ⟨x, xs, hshown⟩ := List.exists_cons_of_ne_nil (c.shown_ne_nil scope)
    obtain ⟨tail, htext, htail, hnil, hpoint⟩ := style.toList_dotted_cons x xs
    rw [hshown, htext] at h
    obtain hx | ⟨hx, hplain⟩ := style.identifier_cases x
    · cases Text.head?_word_append_ne hword hrest (by rw [← h, hx, Piece.text]; simp [Text.quote])
    · rw [hx, Piece.text, List.map_append, List.map_append] at h
      obtain ⟨hname, hbehind⟩ := Text.word_append_inj (hlower hplain) (hlower hword)
        htail.map_toLower hrest.map_toLower h
      have hxs : xs = [] := by
        by_contra hxs
        have hhead := congrArg List.head? hbehind
        rw [List.head?_map, List.head?_map, hpoint hxs] at hhead
        obtain ⟨d, hd, hlowered⟩ := Option.map_eq_some_iff.mp hhead.symm
        rw [(toLower_eq_iff (by decide)).mp hlowered] at hd
        apply hdot hd
      rw [hnil.mpr hxs] at hbehind
      subst hxs
      obtain ⟨halone, rfl⟩ := shown_eq_singleton_iff.mp hshown
      refine ⟨List.map_eq_nil_iff.mp hbehind.symm, halone, ?_, hname⟩
      apply Style.text_identifier_eq_iff.mp
      rw [hx]
      rfl
  · rintro ⟨rfl, halone, hbare, hname⟩
    rw [shown_eq_singleton_iff.mpr ⟨halone, rfl⟩, Style.toList_dotted_singleton,
      Style.text_identifier_eq_iff.mpr hbare, hname, List.append_nil]

/-- A column does not start with a digit. -/
theorem not_alike_of_startsWithDigit {text : List Char} (hdigit : Text.StartsWithDigit text) :
  (Piece.textOf (c.pieces style scope)).toList.map Char.toLower ≠ text.map Char.toLower
  := by
  intro h
  obtain ⟨d, hhead, hd⟩ := hdigit
  have halpha := ColumnType.not_isAlpha_of_isDigit hd
  have hfirst := congrArg List.head? h
  rw [List.head?_map, List.head?_map, hhead, Option.map_some,
    (toLower_eq_iff halpha).mpr rfl] at hfirst
  obtain ⟨e, he, hlowered⟩ := Option.map_eq_some_iff.mp hfirst
  obtain rfl := (toLower_eq_iff halpha).mp hlowered
  obtain ⟨x, xs, hshown⟩ := List.exists_cons_of_ne_nil (c.shown_ne_nil scope)
  obtain ⟨tail, htext, -⟩ := style.toList_dotted_cons x xs
  rw [pieces_eq_dotted, hshown, htext] at he
  by_cases hbare : style.StandsBare x
  · rw [Style.text_identifier_eq_iff.mpr hbare, List.head?_append_of_ne_nil] at he
    · apply hbare.start _ he hd
    · intro hempty
      apply hbare.nonempty (String.toList_eq_nil_iff.mp hempty)
  · rw [Style.toList_text_identifier hbare] at he
    obtain rfl := Option.some.inj he
    cases hd

end Column

/-! ## The texts of literals -/

/-- The forms of texts that no column has, in whatever case. -/
inductive LeafForm (style : Style) : List Char → Prop
  /-- A reserved word. -/
  | keyword {word : List Char} (reserved : String) (hreserved : reserved ∈ style.reserved)
    (h : word.map Char.toLower = reserved.toList.map Char.toLower)
    (hword : ∀ d ∈ word, isAnyWord d) : LeafForm style word
  /-- A text that starts with a digit. -/
  | number {text : List Char} (h : Text.StartsWithDigit text) : LeafForm style text
  /-- A text that starts with neither a name nor a dot. -/
  | sign {text : List Char} (h : Text.EndsName text) (hdot : text.head? ≠ some '.') :
    LeafForm style text
  /-- A conversion. -/
  | conversion (rest : List Char) : LeafForm style ("CAST(".toList ++ rest)

/-- No column has a text of these forms, in whatever case. -/
theorem LeafForm.not_alike {style : Style} {text : List Char} (h : LeafForm style text)
    (scope : Scope) (c : Column) :
  (Piece.textOf (c.pieces style scope)).toList.map Char.toLower ≠ text.map Char.toLower
  := by
  cases h with
  | keyword reserved hreserved h hword =>
    intro halike
    rw [← List.append_nil text, Column.alike_word_iff hword (by simp [Text.EndsName]) (by simp)]
      at halike
    obtain ⟨-, -, hbare, hname⟩ := halike
    apply hbare.unreserved _ hreserved
    rw [equalIgnoringCase_iff, hname, h]
  | number h => apply Column.not_alike_of_startsWithDigit h
  | sign h hdot =>
    intro halike
    rw [← List.nil_append text, Column.alike_word_iff (by simp) h hdot] at halike
    obtain ⟨-, -, hbare, hname⟩ := halike
    apply hbare.nonempty
    rwa [List.map_nil, List.map_eq_nil_iff, String.toList_eq_nil_iff] at hname
  | conversion rest =>
    intro halike
    have hword : ∀ d ∈ ['C', 'A', 'S', 'T'], isAnyWord d := by simp [isAnyWord]
    have hopening : Text.EndsName ('(' :: rest) := by simp [Text.EndsName, isAnyWord]
    cases ((Column.alike_word_iff hword hopening (by simp)).mp halike).1

/-! ## Numbers -/

namespace Text.StartsWithDigit

/-- Whatever stands behind a digit, the text starts with it. -/
theorem append {text : List Char} (h : StartsWithDigit text) (rest : List Char) :
  StartsWithDigit (text ++ rest)
  := by
  obtain ⟨d, hhead, hd⟩ := h
  exact ⟨d, by simp [hhead], hd⟩

/-- The first characters of a text that starts with a digit start with it. -/
theorem take {text : List Char} (h : StartsWithDigit text) {n : Nat} (hn : 0 < n) :
  StartsWithDigit (text.take n)
  := by
  obtain ⟨d, hhead, hd⟩ := h
  exact ⟨d, by rw [List.head?_take, if_neg (by omega), hhead], hd⟩

/-- A text of digits starts with one. -/
theorem of_digits {text : List Char} (hne : text ≠ []) (h : ∀ d ∈ text, d.isDigit) :
  StartsWithDigit text
  := by
  obtain ⟨d, rest, rfl⟩ := List.exists_cons_of_ne_nil hne
  exact ⟨d, rfl, h d List.mem_cons_self⟩

/-- A natural number starts with a digit. -/
theorem digits (n : Nat) :
  StartsWithDigit (Text.digits n)
  := of_digits Nat.toDigits_ne_nil fun _ => isDigit_of_mem_digits

/-- A padded number starts with a digit. -/
theorem paddedDigits (width n : Nat) :
  StartsWithDigit (Text.paddedDigits width n)
  := of_digits (paddedDigits_ne_nil width n) fun _ => isDigit_of_mem_paddedDigits

/-- A number that is written positionally starts with a digit. -/
theorem positional (d : Scientific) :
  StartsWithDigit (FloatLayout.positional d)
  := by
  rw [FloatLayout.positional]
  split
  · rw [List.append_assoc]
    apply (digits d.coefficient).append
  · dsimp only
    split
    next h => apply ((digits d.coefficient).take (by omega)).append
    next h => exact ⟨'0', rfl, rfl⟩

/-- A number that is written with an exponent starts with a digit. -/
theorem exponential (d : Scientific) :
  StartsWithDigit (FloatLayout.exponential d)
  := by
  have h := digits d.coefficient
  rw [FloatLayout.exponential]
  apply append
  split
  next first second rest hdigits =>
    rw [hdigits] at h
    exact h
  next => exact h

end Text.StartsWithDigit

namespace LeafForm

variable {style : Style}

/-- A number with its sign in front. -/
theorem signed (negative : Prop) [Decidable negative] {chars : List Char}
    (h : Text.StartsWithDigit chars) :
  LeafForm style ((if negative then ['-'] else []) ++ chars)
  := by
  split
  · apply sign <;> simp [Text.EndsName, isAnyWord]
  · apply number h

/-- An integer starts with its sign or a digit. -/
theorem integer (n : Int) :
  LeafForm style (Text.integer n).toList
  := by
  rw [Text.integer, String.toList_ofList]
  apply signed _ (.digits _)

/-- A decimal starts with its sign or a digit. -/
theorem decimal (x : Decimal) :
  LeafForm style x.text.toList
  := by
  rw [Decimal.text, String.toList_ofList, List.append_assoc]
  apply signed
  apply Text.StartsWithDigit.append
  apply (Text.StartsWithDigit.paddedDigits _ _).take
  rw [Text.paddedDigits, List.length_append, List.length_replicate]
  omega

/-- A finite number is written with its sign and its digits. -/
theorem render (layout : FloatLayout) {x : Binary64} (h : x.isFinite) :
  LeafForm style (layout.render x).toList
  := by
  have hnan : x.isNaN = false := by
    rw [Binary64.isFinite, decide_eq_true_eq] at h
    simp [Binary64.isNaN, h]
  simp only [FloatLayout.render, hnan, h, Bool.not_true, Bool.false_eq_true, if_false,
    String.toList_ofList]
  apply signed
  split
  · apply Text.StartsWithDigit.positional
  · apply Text.StartsWithDigit.exponential

end LeafForm

/-! ## Fixed texts -/

namespace LeafForm

variable {style : Style}

/-- The word for a null is no name for a column. -/
theorem null (style : Style) :
  LeafForm style "NULL".toList
  := by
  have hword : ∀ d ∈ "NULL".toList, isAnyWord d := by simp [isAnyWord]
  cases style with
  | standard needed =>
    apply keyword "null" _ (by decide +kernel) hword
    simp [Style.reserved, standardReserved]
  | openEdge =>
    apply keyword "NULL" _ rfl hword
    simp [Style.reserved, openEdgeReserved]

/-- The truth values are no names for columns, in either style. -/
theorem boolean (style : Style) (x : Bool) :
  LeafForm style (style.boolean x).toList
  := by
  cases style with
  | standard needed =>
    cases x with
    | false =>
      apply keyword "false" _ rfl (by simp [isAnyWord])
      simp [Style.reserved, standardReserved]
    | true =>
      apply keyword "true" _ rfl (by simp [isAnyWord])
      simp [Style.reserved, standardReserved]
  | openEdge =>
    cases x with
    | false => exact number ⟨'0', rfl, rfl⟩
    | true => exact number ⟨'1', rfl, rfl⟩

/-- What is not written at all is no name for a column. -/
theorem nil (style : Style) :
  LeafForm style []
  := by
  apply sign <;> simp [Text.EndsName]

/-- A text between apostrophes is no name for a column. -/
theorem literal (style : Style) (content : String) :
  LeafForm style (Piece.textOf [.literal content]).toList
  := by
  rw [Piece.toList_textOf_cons, Piece.literal, Piece.text, String.toList_ofList]
  apply sign <;> simp [Text.EndsName, isAnyWord, Text.quote]

/-- A floating point number starts with its sign or a digit, and its conversion with a keyword. -/
theorem float (style : Style) (x : Binary64) :
  LeafForm style (Piece.textOf (x.pieces style)).toList
  := by
  rw [Binary64.pieces]
  split
  next h => simpa [Piece.toList_textOf, Piece.text] using render sqlLayout h
  next h =>
    rw [Binary64.castPieces, Piece.cast, List.cons_append, List.cons_append,
      Piece.toList_textOf_cons]
    apply conversion

/-- A value has one of the forms of leaves. -/
theorem value (style : Style) (v : Value) :
  LeafForm style (Piece.textOf (v.pieces style)).toList
  := by
  have hplain : ∀ text : String, (Piece.textOf [.plain text]).toList = text.toList := by
    simp [Piece.toList_textOf, Piece.text]
  have hnull : LeafForm style (Piece.textOf [.plain "NULL"]).toList := by
    rw [hplain]
    apply null
  have hinteger : ∀ n, LeafForm style (Piece.textOf [.plain (Text.integer n)]).toList := by
    intro n
    rw [hplain]
    apply integer
  cases v with
  | null => apply hnull
  | boolean content =>
    cases content with
    | none => apply hnull
    | some x =>
      change LeafForm style (Piece.textOf [.plain (style.boolean x)]).toList
      rw [hplain]
      apply boolean
  | smallint content =>
    cases content with
    | none => apply hnull
    | some n => apply hinteger
  | integer content =>
    cases content with
    | none => apply hnull
    | some n => apply hinteger
  | bigint content =>
    cases content with
    | none => apply hnull
    | some n => apply hinteger
  | double content =>
    cases content with
    | none => apply hnull
    | some x => apply float
  | decimal content precision scale =>
    cases content with
    | none => apply hnull
    | some x =>
      change LeafForm style (Piece.textOf [.plain x.text]).toList
      rw [hplain]
      apply decimal
  | varchar content =>
    cases content with
    | none => apply hnull
    | some x => apply literal
  | date content =>
    cases content with
    | none => apply hnull
    | some x => apply literal
  | timestamp content =>
    cases content with
    | none => apply hnull
    | some x => apply literal
  | moment content =>
    cases content with
    | none => apply hnull
    | some x =>
      change LeafForm style (Piece.textOf x.pieces).toList
      rw [Moment.pieces]
      split
      · apply literal
      · simpa [Piece.toList_textOf, Piece.text] using nil style

end LeafForm

/-! ## Names in either case -/

namespace Style.StandsBare

/-- In standard SQL there are no capital letters in a bare name. -/
theorem map_toLower {needed : Bool} {name : String} (h : (standard needed).StandsBare name) :
  name.map Char.toLower = name
  := by
  rw [← String.toList_inj, String.toList_map]
  nth_rewrite 2 [← List.map_id name.toList]
  apply List.map_congr_left
  intro c hc
  obtain hlower | hdigit | rfl | ⟨hstyle, -⟩ := h.admitted c hc
  · apply Char.toLower_eq_of_not_isUpper (Char.not_isUpper_of_isLower hlower)
  · apply (toLower_eq_iff (ColumnType.not_isAlpha_of_isDigit hdigit)).mpr rfl
  · rfl
  · cases hstyle

/-- In OpenEdge the case of the letters does not matter for whether a name can stand bare. -/
theorem of_equalIgnoringCase {x y : String} (h : EqualIgnoringCase x y)
    (hy : openEdge.StandsBare y) :
  openEdge.StandsBare x
  := by
  have hlower := equalIgnoringCase_iff.mp h
  constructor
  · rintro rfl
    apply hy.nonempty
    rw [← String.toList_eq_nil_iff]
    apply List.map_eq_nil_iff.mp hlower.symm
  · intro c hc
    have hmem : c.toLower ∈ y.toList.map Char.toLower := by
      rw [← hlower]
      apply List.mem_map_of_mem hc
    obtain ⟨d, hd, hcd⟩ := List.mem_map.mp hmem
    rw [← isAnyWord_iff, ← isAnyWord_toLower, ← hcd, isAnyWord_toLower, isAnyWord_iff]
    apply hy.admitted d hd
  · intro c hc hdigit
    have halpha := ColumnType.not_isAlpha_of_isDigit hdigit
    have hhead := congrArg List.head? hlower
    rw [List.head?_map, List.head?_map, Option.mem_def.mp hc, Option.map_some,
      (toLower_eq_iff halpha).mpr rfl] at hhead
    obtain ⟨d, hd, hcd⟩ := Option.map_eq_some_iff.mp hhead.symm
    rw [(toLower_eq_iff halpha).mp hcd] at hd
    apply hy.start c hd hdigit
  · intro word hword hx
    apply hy.unreserved word hword
    rw [EqualIgnoringCase, ← h, hx]

end Style.StandsBare

/-! ## Columns and leaves -/

/-- The expression has the same text whatever the tables are: it is a constant, an asterisk, or the
current time. -/
def Expr.IsFixed : Expr → Prop
  | operand leaf => leaf.IsConstant ∨ leaf = .asterisk
  | currentTimestamp => True
  | currentDate => True
  | _ => False

/-- The text of a constant or of an asterisk is that of no column. -/
theorem Operand.leafForm {leaf : Operand} (h : leaf.IsConstant ∨ leaf = .asterisk) (style : Style)
    (scope : Scope) :
  LeafForm style (Piece.textOf (leaf.pieces style scope)).toList
  := by
  have hatom : ∀ p : Piece, (Piece.textOf (Token.piecesOf [.atom [p]])).toList = p.text.toList := by
    simp [Piece.toList_textOf, Token.pieces]
  cases leaf with
  | null =>
    rw [pieces, tokens, hatom]
    apply LeafForm.null
  | boolean x =>
    rw [pieces, tokens, hatom]
    apply LeafForm.boolean
  | float x =>
    rw [pieces_float]
    apply LeafForm.float
  | raw text => simp [IsConstant] at h
  | int n =>
    rw [pieces, tokens, Token.ofInt]
    split
    · apply LeafForm.sign <;>
        simp [Text.EndsName, isAnyWord, Piece.toList_textOf, Token.pieces, UnaryOp.text, Piece.text]
    · rw [hatom]
      apply LeafForm.integer
  | text content =>
    rw [pieces, tokens, hatom, ← hatom]
    apply LeafForm.literal
  | column c => simp [IsConstant] at h
  | type t => simp [IsConstant] at h
  | inline value =>
    rw [pieces_inline]
    apply LeafForm.value
  | bound value =>
    rw [pieces_bound]
    split
    · apply LeafForm.value
    · apply LeafForm.sign <;> simp [Text.EndsName, isAnyWord, Piece.toList_textOf, Piece.text]
  | asterisk =>
    rw [pieces, tokens, hatom]
    apply LeafForm.sign <;> simp [Text.EndsName, isAnyWord, Piece.text]

/-- The bare name is also how the style writes the current time. -/
def Style.Mistakes (style : Style) (name : String) (e : Expr) : Prop :=
  match style, e with
  | .standard _, .currentDate => name = "current_date"
  | .standard _, .currentTimestamp => name = "current_timestamp"
  | .openEdge, .currentDate => EqualIgnoringCase name "CURRENT_DATE"
  | _, _ => False

/-- The current date is written as one word. -/
theorem Expr.textOf_currentDate (style : Style) (scope : Scope) :
  Piece.textOf (currentDate.pieces style scope) = "CURRENT_DATE"
  := by
  simp [pieces, tokens, Token.pieces, Piece.textOf_cons, Piece.text]

/-- The current timestamp is written as one word. -/
theorem Expr.textOf_currentTimestamp (style : Style) (scope : Scope) :
  Piece.textOf (currentTimestamp.pieces style scope) = style.currentTimestamp
  := by
  simp [pieces, tokens, Token.pieces, Piece.textOf_cons, Piece.text]

/-- Of the bare names of standard SQL the one in lower case is the only one that equals a word up to
case. -/
theorem Style.eq_iff_standsBare {needed : Bool} {name lower word : String}
    (hlower : word.map Char.toLower = lower) (h : (standard needed).needsQuotes lower = false) :
  name = lower ↔ (standard needed).StandsBare name ∧ EqualIgnoringCase name word
  := by
  have hbare := needsQuotes_eq_false_iff.mp h
  constructor
  · rintro rfl
    use hbare
    rw [EqualIgnoringCase, hbare.map_toLower, hlower]
  · rintro ⟨hname, hword⟩
    rw [← hlower, ← hword, hname.map_toLower]

/-- A bare name is read as the current time when it equals the word for it up to case. -/
theorem Style.mistakes_iff {style : Style} {name : String} {e : Expr} (scope : Scope)
    (h : e = .currentTimestamp ∨ e = .currentDate) :
  style.Mistakes name e
    ↔ style.StandsBare name ∧ EqualIgnoringCase name (Piece.textOf (e.pieces style scope))
  := by
  obtain rfl | rfl := h
  · rw [Expr.textOf_currentTimestamp]
    cases style with
    | standard needed =>
      apply eq_iff_standsBare
      · change "CURRENT_TIMESTAMP".map Char.toLower = "current_timestamp"
        decide +kernel
      · cases needed <;> decide +kernel
    | openEdge =>
      have hreserved : "SYSDATE" ∈ openEdge.reserved := by simp [reserved, openEdgeReserved]
      constructor
      · intro h
        cases h
      · rintro ⟨hbare, hname⟩
        cases hbare.unreserved _ hreserved hname
  · rw [Expr.textOf_currentDate]
    cases style with
    | standard needed =>
      apply eq_iff_standsBare
      · decide +kernel
      · cases needed <;> decide +kernel
    | openEdge =>
      have hword : openEdge.StandsBare "CURRENT_DATE" := by
        apply needsQuotes_eq_false_iff.mp
        decide +kernel
      constructor
      · intro h
        use .of_equalIgnoringCase h hword, h
      · rintro ⟨-, h⟩
        apply h

/-- A column has the text of something else, up to case, exactly when it stands alone under a bare
name that is how the current time is written. -/
theorem Column.mistaken_iff {style : Style} {scope scope' : Scope} {c : Column} {e : Expr}
    (h : e.IsFixed) :
  EqualIgnoringCase (Piece.textOf (c.pieces style scope)) (Piece.textOf (e.pieces style scope'))
    ↔ ¬ (scope.qualified ∧ c.table ≠ "") ∧ style.Mistakes c.name e
  := by
  -- the words for the current time are words, with nothing behind them
  have htime : ∀ {e : Expr}, e = .currentTimestamp ∨ e = .currentDate →
      (EqualIgnoringCase (Piece.textOf (c.pieces style scope))
          (Piece.textOf (e.pieces style scope'))
        ↔ ¬ (scope.qualified ∧ c.table ≠ "") ∧ style.Mistakes c.name e) := by
    intro e he
    have hword : ∀ d ∈ (Piece.textOf (e.pieces style scope')).toList, isAnyWord d := by
      obtain rfl | rfl := he
      · rw [Expr.textOf_currentTimestamp]
        cases style <;> simp [Style.currentTimestamp, isAnyWord]
      · rw [Expr.textOf_currentDate]
        simp [isAnyWord]
    have hend : Text.EndsName [] := by simp [Text.EndsName]
    rw [equalIgnoringCase_iff, ← List.append_nil (Piece.textOf (e.pieces style scope')).toList,
      alike_word_iff hword hend (by simp), Style.mistakes_iff scope' he, equalIgnoringCase_iff]
    simp
  cases e with
  | operand leaf =>
    constructor
    · intro halike
      cases (Operand.leafForm h style scope').not_alike scope c (equalIgnoringCase_iff.mp halike)
    · rintro ⟨-, hname⟩
      cases style <;> cases hname
  | currentTimestamp => apply htime (.inl rfl)
  | currentDate => apply htime (.inr rfl)
  | _ => cases h

/-- The name of the current timestamp of OpenEdge is quoted as a column. -/
theorem Column.mistaken_iff_sysdate :
  Expr.currentTimestamp.IsFixed
    ∧ ¬ EqualIgnoringCase (Piece.textOf (pieces .openEdge {} { name := "sysdate" }))
      (Piece.textOf (Expr.currentTimestamp.pieces .openEdge {}))
  := by
  have hfixed : Expr.currentTimestamp.IsFixed := trivial
  use hfixed
  rw [mistaken_iff hfixed]
  rintro ⟨-, hname⟩
  cases hname

/-- A column for the date that something was current on is read as the current date. -/
theorem Column.mistaken_currentDate :
  EqualIgnoringCase (Piece.textOf (pieces .openEdge {} { name := "current_date" }))
    (Piece.textOf (Expr.currentDate.pieces .openEdge {}))
  := by
  decide +kernel

end SqlDialect
