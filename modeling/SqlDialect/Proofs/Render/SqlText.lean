import SqlDialect.Proofs.Expr.Operands
import SqlDialect.Proofs.Text.Digits
import SqlDialect.Render.Token

/-!
# The characters of SQL

Outside of quoted tokens SQL consists of letters, digits, blanks and a few signs.  Numbers,
truth values, the names of column types and identifiers that stand bare are such texts; in
particular there are no marks and no question marks in them.  A wording is such a text
without a minus sign.
-/

namespace SqlDialect

/-- The characters of SQL outside of quoted tokens. -/
def isSqlChar (c : Char) : Bool :=
  c.isAlphanum
    || ['_', ' ', '\n', '.', ',', '(', ')', '*', '+', '-', '/', '%', '<', '>', '='].contains c

/-- The text consists of the characters of SQL. -/
def isSqlText (text : String) : Bool :=
  text.toList.all isSqlChar

/-- The text consists of the characters of SQL other than the minus sign. -/
def isWording (text : String) : Bool :=
  text.toList.all fun c => isSqlChar c && c != '-'

/-- Words and what parts them are text of SQL. -/
theorem isSqlText_of_isWording {text : String} (h : isWording text) :
  isSqlText text
  := by
  apply List.all_eq_true.mpr
  intro c hc
  have hchar := List.all_eq_true.mp h c hc
  rw [Bool.and_eq_true] at hchar
  apply hchar.1

/-- Letters and digits occur in the text of SQL. -/
theorem isSqlChar_of_isAlphanum {c : Char} (h : c.isAlphanum) :
  isSqlChar c
  := by
  simp [isSqlChar, h]

/-- Digits occur in the text of SQL. -/
theorem isSqlChar_of_isDigit {c : Char} (h : c.isDigit) :
  isSqlChar c
  := by
  apply isSqlChar_of_isAlphanum
  simp [Char.isAlphanum, h]

/-- A text put together is wording just when both of its parts are. -/
theorem isWording_append (x y : String) :
  isWording (x ++ y) = (isWording x && isWording y)
  := by
  simp [isWording]

/-! ## Numbers -/

/-- The characters of numbers without a sign and without an exponent. -/
def isPlace (c : Char) : Bool := c.isDigit || c = '.'

/-- A digit has a place in a number that is written positionally. -/
theorem isPlace_of_isDigit {c : Char} (h : c.isDigit) :
  isPlace c
  := by
  simp [isPlace, h]

/-- The digits of a natural number are places. -/
theorem all_isPlace_digits (n : Nat) :
  (Text.digits n).all isPlace
  := by
  apply List.all_eq_true.mpr
  intro c hc
  apply isPlace_of_isDigit
  apply Text.isDigit_of_mem_digits hc

/-- Zeros are places. -/
theorem all_isPlace_zeros (n : Nat) :
  (List.replicate n '0').all isPlace
  := by
  apply List.all_eq_true.mpr
  intro c hc
  obtain rfl := List.eq_of_mem_replicate hc
  rfl

/-- The first places of a number are places. -/
theorem all_isPlace_take {chars : List Char} (n : Nat) (h : chars.all isPlace) :
  (chars.take n).all isPlace
  := by
  apply List.all_eq_true.mpr
  intro c hc
  apply List.all_eq_true.mp h c (List.mem_of_mem_take hc)

/-- The last places of a number are places. -/
theorem all_isPlace_drop {chars : List Char} (n : Nat) (h : chars.all isPlace) :
  (chars.drop n).all isPlace
  := by
  apply List.all_eq_true.mpr
  intro c hc
  apply List.all_eq_true.mp h c (List.mem_of_mem_drop hc)

/-- Padded digits are places. -/
theorem all_isPlace_paddedDigits (width n : Nat) :
  (Text.paddedDigits width n).all isPlace
  := by
  rw [Text.paddedDigits, List.all_append, all_isPlace_zeros, all_isPlace_digits]
  rfl

/-- A number that is written positionally consists of places. -/
theorem all_isPlace_positional (d : Scientific) :
  (FloatLayout.positional d).all isPlace
  := by
  have hdigits := all_isPlace_digits d.coefficient
  rw [FloatLayout.positional]
  split
  · rw [List.all_append, List.all_append, hdigits, all_isPlace_zeros]
    rfl
  · dsimp only
    split
    · rw [List.all_append, List.all_cons, all_isPlace_take _ hdigits,
        all_isPlace_drop _ hdigits]
      rfl
    · rw [List.cons_append, List.cons_append, List.all_cons, List.all_cons, List.all_append,
        all_isPlace_zeros, hdigits]
      rfl

/-- A number without its sign: digits and points, possibly with an exponent behind them. -/
inductive Unsigned : List Char → Prop
  | positional {places : List Char} (h : places.all isPlace) : Unsigned places
  | exponential {places : List Char} (h : places.all isPlace) (exponent : Int) :
    Unsigned (places ++ 'e' :: (Text.integer exponent).toList)

/-- The text of a number that has a minus sign in front when it is negative. -/
def Signed (negative : Prop) [Decidable negative] (text : List Char) : Prop :=
  ∃ chars, Unsigned chars ∧ text = (if negative then ['-'] else []) ++ chars

/-- An integer is written with its sign in front of its digits. -/
theorem signed_integer (n : Int) :
  Signed (n < 0) (Text.integer n).toList
  := by
  use Text.digits n.natAbs, .positional (all_isPlace_digits _)
  rw [Text.integer, String.toList_ofList]

/-- A decimal is written with its sign in front of its digits. -/
theorem signed_decimal (x : Decimal) :
  Signed (x.isNegative) x.text.toList
  := by
  have hdigits := all_isPlace_paddedDigits (x.places + 1) x.magnitude
  rw [Decimal.text, String.toList_ofList, List.append_assoc]
  refine ⟨_, .positional ?_, rfl⟩
  rw [List.all_append, all_isPlace_take _ hdigits]
  split
  · rfl
  · rw [List.all_cons, all_isPlace_drop _ hdigits]
    rfl

/-- A number that is written with an exponent has no sign in front. -/
theorem unsigned_exponential (d : Scientific) :
  Unsigned (FloatLayout.exponential d)
  := by
  have hdigits := all_isPlace_digits d.coefficient
  rw [FloatLayout.exponential]
  apply Unsigned.exponential
  cases hcoefficient : Text.digits d.coefficient with
  | nil => rfl
  | cons first rest =>
    rw [hcoefficient] at hdigits
    cases rest with
    | nil => apply hdigits
    | cons second rest =>
      rw [List.all_cons, Bool.and_eq_true] at hdigits
      rw [List.all_cons, List.all_cons, hdigits.1, hdigits.2]
      rfl

/-- A finite number has a sign when its sign bit is set. -/
theorem signed_render (layout : FloatLayout) {x : Binary64} (h : x.isFinite) :
  Signed x.isNegative (layout.render x).toList
  := by
  have hnan : x.isNaN = false := by
    rw [Binary64.isFinite, decide_eq_true_eq] at h
    simp [Binary64.isNaN, h]
  simp only [FloatLayout.render, hnan, h, Bool.not_true, Bool.false_eq_true, if_false,
    String.toList_ofList]
  refine ⟨_, ?_, rfl⟩
  split
  · apply Unsigned.positional (all_isPlace_positional _)
  · apply unsigned_exponential

/-- The characters of numbers, of a NaN and of the infinities among them. -/
def isNumeral (c : Char) : Bool :=
  c.isDigit || ['-', '.', 'e', 'N', 'a', 'i', 'n', 'f'].contains c

/-- Places occur in numerals. -/
theorem all_isNumeral_of_isPlace {chars : List Char} (h : chars.all isPlace) :
  chars.all isNumeral
  := by
  apply List.all_eq_true.mpr
  intro c hc
  have hplace := List.all_eq_true.mp h c hc
  rw [isPlace, Bool.or_eq_true, decide_eq_true_eq] at hplace
  obtain hdigit | rfl := hplace
  · simp [isNumeral, hdigit]
  · rfl

/-- A sign, if there is one, occurs in numerals. -/
theorem all_isNumeral_sign (negative : Prop) [Decidable negative] :
  (if negative then ['-'] else []).all isNumeral
  := by
  split <;> rfl

/-- An integer is a numeral. -/
theorem all_isNumeral_integer (n : Int) :
  (Text.integer n).toList.all isNumeral
  := by
  rw [Text.integer, String.toList_ofList, List.all_append, all_isNumeral_sign,
    all_isNumeral_of_isPlace (all_isPlace_digits _)]
  rfl

/-- A number with its sign in front is a numeral. -/
theorem Signed.all_isNumeral {negative : Prop} [Decidable negative] {text : List Char}
    (h : Signed negative text) :
  text.all isNumeral
  := by
  obtain ⟨chars, hchars, rfl⟩ := h
  rw [List.all_append, all_isNumeral_sign, Bool.true_and]
  cases hchars with
  | positional h => apply all_isNumeral_of_isPlace h
  | exponential h exponent =>
    rw [List.all_append, List.all_cons, all_isNumeral_of_isPlace h, all_isNumeral_integer]
    rfl

/-- A decimal is a numeral. -/
theorem all_isNumeral_decimal (x : Decimal) :
  x.text.toList.all isNumeral
  := (signed_decimal x).all_isNumeral

/-- A floating point number is written as a numeral, those that are not finite among them. -/
theorem all_isNumeral_render (layout : FloatLayout) (x : Binary64) :
  (layout.render x).toList.all isNumeral
  := by
  by_cases h : x.isFinite
  · apply (signed_render layout h).all_isNumeral
  · rw [FloatLayout.render]
    split
    · rfl
    · simp only [h, Bool.not_false, if_true, String.toList_ofList, List.all_append,
        all_isNumeral_sign]
      rfl

/-- A numeral is text of SQL. -/
theorem isSqlText_of_all_isNumeral {text : String} (h : text.toList.all isNumeral) :
  isSqlText text
  := by
  apply List.all_eq_true.mpr
  intro c hc
  have hnumeral := List.all_eq_true.mp h c hc
  rw [isNumeral, Bool.or_eq_true] at hnumeral
  obtain hdigit | hsign := hnumeral
  · apply isSqlChar_of_isDigit hdigit
  · have hsigns : ['-', '.', 'e', 'N', 'a', 'i', 'n', 'f'].all isSqlChar := by decide
    apply List.all_eq_true.mp hsigns c (by simpa using hsign)

/-- An integer is text of SQL. -/
theorem isSqlText_integer (n : Int) :
  isSqlText (Text.integer n)
  := isSqlText_of_all_isNumeral (all_isNumeral_integer n)

/-- A decimal is text of SQL. -/
theorem isSqlText_decimal (x : Decimal) :
  isSqlText x.text
  := isSqlText_of_all_isNumeral (all_isNumeral_decimal x)

/-- A floating point number is text of SQL. -/
theorem isSqlText_render (layout : FloatLayout) (x : Binary64) :
  isSqlText (layout.render x)
  := isSqlText_of_all_isNumeral (all_isNumeral_render layout x)

/-! ## Words and names -/

/-- The names of the truth values are wording. -/
theorem isWording_boolean (style : Style) (x : Bool) :
  isWording (style.boolean x)
  := by
  cases style <;> cases x <;> rw [Style.boolean] <;> rfl

/-- The name of the current timestamp is wording. -/
theorem isWording_currentTimestamp (style : Style) :
  isWording style.currentTimestamp
  := by
  cases style <;> rw [Style.currentTimestamp] <;> rfl

/-- A natural number is written as its digits, without a sign. -/
theorem toList_integer_natural (n : Nat) :
  (Text.integer n).toList = Text.digits n
  := by
  rw [Text.integer_natCast, String.toList_ofList]

/-- A natural number is wording. -/
theorem isWording_natural (n : Nat) :
  isWording (Text.integer n)
  := by
  rw [isWording, toList_integer_natural]
  apply List.all_eq_true.mpr
  intro c hc
  have hdigit : c.isDigit := Text.isDigit_of_mem_digits hc
  rw [isSqlChar_of_isDigit hdigit, Bool.true_and, bne_iff_ne]
  rintro rfl
  cases hdigit

/-- The name of a decimal type is wording, its precision and scale included. -/
theorem isWording_decimalName (precision scale : UInt8) :
  isWording (ColumnType.decimalName precision scale)
  := by
  rw [ColumnType.decimalName]
  split
  · rfl
  · simp only [isWording_append, isWording_natural]
    rfl

/-- The name of a VARCHAR type is wording, its length included. -/
theorem isWording_varcharName (length : UInt32) :
  isWording (ColumnType.varcharName length)
  := by
  simp only [ColumnType.varcharName, isWording_append, isWording_natural]
  rfl

/-- The name of a type is wording. -/
theorem isWording_typeName {style : Style} {type : ColumnType} {name : String}
    (h : style.typeName type = .ok name) :
  isWording name
  := by
  have hdecimal := isWording_decimalName
  have hvarchar := isWording_varcharName
  cases style with
  | standard needed =>
    obtain rfl := Except.ok.inj h
    cases type with
    | decimal precision scale => apply hdecimal
    | varchar length =>
      cases length with
      | none => rfl
      | some length => apply hvarchar
    | _ => rfl
  | openEdge =>
    cases type with
    | decimal precision scale =>
      obtain rfl := Except.ok.inj h
      apply hdecimal
    | varchar length =>
      cases length with
      | none => cases h
      | some length =>
        obtain rfl := Except.ok.inj h
        apply hvarchar
    | _ =>
      obtain rfl := Except.ok.inj h
      rfl

/-- The characters of a word in lower case are letters, digits and underscores. -/
theorem isAlphanum_or_eq_underscore_of_isLowerWord {c : Char} (h : isLowerWord c) :
  c.isAlphanum ∨ c = '_'
  := by
  rw [isLowerWord, isLowerStart] at h
  simp only [Bool.or_eq_true, decide_eq_true_eq] at h
  obtain (h | h) | h := h
  · left
    have halpha : c.isAlpha = (c.isUpper || c.isLower) := rfl
    simp [Char.isAlphanum, halpha, h]
  · right
    apply h
  · left
    simp [Char.isAlphanum, h]

/-- A name that can stand bare consists of letters, digits and underscores. -/
theorem isAnyWord_of_isWord {style : Style} {name : List Char} (h : style.isWord name) :
  ∀ c ∈ name, isAnyWord c
  := by
  have hlower : ∀ {c : Char}, isLowerWord c → isAnyWord c := by
    intro c hc
    simpa [isAnyWord] using isAlphanum_or_eq_underscore_of_isLowerWord hc
  cases name with
  | nil => cases style <;> cases h
  | cons first rest =>
    cases style with
    | standard needed =>
      rw [Style.isWord, Bool.and_eq_true] at h
      intro c hc
      obtain rfl | hc := List.mem_cons.mp hc
      · apply hlower
        rw [isLowerWord, h.1]
        rfl
      · apply hlower (List.all_eq_true.mp h.2 c hc)
    | openEdge =>
      rw [Style.isWord, Bool.and_eq_true] at h
      apply List.all_eq_true.mp h.2

/-- The characters of words occur in the text of SQL. -/
theorem isSqlChar_of_isAnyWord {c : Char} (h : isAnyWord c) :
  isSqlChar c
  := by
  rw [isAnyWord, Bool.or_eq_true, decide_eq_true_eq] at h
  obtain h | rfl := h
  · apply isSqlChar_of_isAlphanum h
  · rfl

/-- No word has a minus sign in it. -/
theorem ne_minus_of_isAnyWord {c : Char} (h : isAnyWord c) :
  c ≠ '-'
  := by
  rintro rfl
  cases h

/-- A name that needs no quotes is a word. -/
theorem isAnyWord_of_needsQuotes {style : Style} {name : String}
    (h : style.needsQuotes name = false) :
  name ≠ "" ∧ ∀ c ∈ name.toList, isAnyWord c
  := by
  have hword : style.isWord name.toList := by
    rw [Style.needsQuotes, Bool.or_eq_false_iff] at h
    simpa using h.1
  constructor
  · rintro rfl
    cases style <;> cases hword
  · apply isAnyWord_of_isWord hword

/-- A name that needs no quotes is a wording. -/
theorem isWording_of_needsQuotes {style : Style} {name : String}
    (h : style.needsQuotes name = false) :
  isWording name
  := by
  apply List.all_eq_true.mpr
  intro c hc
  have hword := (isAnyWord_of_needsQuotes h).2 c hc
  rw [isSqlChar_of_isAnyWord hword, Bool.true_and, bne_iff_ne]
  apply ne_minus_of_isAnyWord hword

end SqlDialect
