import Mathlib.Data.List.TakeWhile
import SqlDialect.Proofs.Render.Pieces
import SqlDialect.Proofs.Render.SqlText
import SqlDialect.Proofs.Text.Scan

/-!
# Reading identifiers back

An identifier determines the name that it spells and what follows, as long as no letter, no
digit, no underscore and no quotation mark follows.  So do identifiers with dots between
them, as long as no dot follows either.
-/

namespace SqlDialect

/-- The text does not go on with the identifier in front of it. -/
def Text.EndsName (rest : List Char) : Prop :=
  ∀ c ∈ rest.head?, isAnyWord c = false ∧ c ≠ '"'

/-- Words that no word character follows are determined. -/
theorem Text.word_append_inj {x y rest rest' : List Char} (hx : ∀ c ∈ x, isAnyWord c)
    (hy : ∀ c ∈ y, isAnyWord c) (hrest : EndsName rest) (hrest' : EndsName rest')
    (h : x ++ rest = y ++ rest') :
  x = y ∧ rest = rest'
  := by
  have htake : ∀ {z s : List Char}, (∀ c ∈ z, isAnyWord c) → EndsName s →
      (z ++ s).takeWhile isAnyWord = z := by
    intro z s hz hs
    rw [List.takeWhile_append_of_pos hz]
    cases s with
    | nil => simp
    | cons c s => simp [(hs c rfl).1]
  have hword : x = y := by rw [← htake hx hrest, h, htake hy hrest']
  subst hword
  exact ⟨rfl, List.append_cancel_left h⟩

namespace Style

variable {style : Style}

/-- An identifier is a quoted token or a word. -/
theorem text_identifier_cases (style : Style) (name : String) :
  (style.identifier name).text.toList = Text.quote '"' name.toList
    ∨ (style.identifier name).text = name ∧ name ≠ "" ∧ ∀ c ∈ name.toList, isAnyWord c
  := by
  rw [identifier]
  split
  · left
    simp [Piece.text]
  next h =>
    right
    use rfl
    apply isAnyWord_of_needsQuotes
    simpa using h

/-- A word does not start like a quoted token. -/
theorem word_append_ne_quote {x : String} {y rest rest' : List Char} (hne : x ≠ "")
    (hx : ∀ c ∈ x.toList, isAnyWord c) :
  x.toList ++ rest ≠ Text.quote '"' y ++ rest'
  := by
  intro h
  cases hchars : x.toList with
  | nil => exact hne (String.toList_eq_nil_iff.mp hchars)
  | cons c chars =>
    rw [hchars] at h hx
    obtain rfl : c = '"' := (List.cons.inj h).1
    cases hx _ List.mem_cons_self

/-- An identifier determines its name and what follows. -/
theorem identifier_append_inj {x y : String} {rest rest' : List Char}
    (hrest : Text.EndsName rest) (hrest' : Text.EndsName rest')
    (h : (style.identifier x).text.toList ++ rest = (style.identifier y).text.toList ++ rest') :
  x = y ∧ rest = rest'
  := by
  have hmark : ∀ {s : List Char}, Text.EndsName s → s.head? ≠ some '"' := by
    intro s hs hhead
    exact (hs '"' hhead).2 rfl
  obtain hx | ⟨hx, hxne, hxword⟩ := style.text_identifier_cases x
  · obtain hy | ⟨hy, hyne, hyword⟩ := style.text_identifier_cases y
    · rw [hx, hy] at h
      obtain ⟨hname, hrests⟩ := Text.quote_append_inj (hmark hrest) (hmark hrest') h
      exact ⟨String.toList_injective hname, hrests⟩
    · rw [hx, hy] at h
      cases word_append_ne_quote hyne hyword h.symm
  · obtain hy | ⟨hy, hyne, hyword⟩ := style.text_identifier_cases y
    · rw [hx, hy] at h
      cases word_append_ne_quote hxne hxword h
    · rw [hx, hy] at h
      obtain ⟨hname, hrests⟩ := Text.word_append_inj hxword hyword hrest hrest' h
      exact ⟨String.toList_injective hname, hrests⟩

/-- Identifiers with dots between them. -/
def dotted (style : Style) : List String → List Piece
  | [] => []
  | [name] => [style.identifier name]
  | name :: rest => style.identifier name :: .plain "." :: style.dotted rest

theorem toList_dotted_singleton (style : Style) (name : String) :
  (Piece.textOf (style.dotted [name])).toList = (style.identifier name).text.toList
  := by
  simp [dotted, Piece.toList_textOf]

theorem toList_dotted_cons_cons (style : Style) (x y : String) (rest : List String) :
  (Piece.textOf (style.dotted (x :: y :: rest))).toList
    = (style.identifier x).text.toList ++ '.' :: (Piece.textOf (style.dotted (y :: rest))).toList
  := by
  rw [dotted, Piece.toList_textOf_cons, Piece.toList_textOf_cons]
  · rfl
  · simp

/-- Identifiers with dots between them determine their names and what follows. -/
theorem dotted_append_inj {x y : String} {xs ys : List String} {rest rest' : List Char}
    (hrest : Text.EndsName rest) (hdot : rest.head? ≠ some '.')
    (hrest' : Text.EndsName rest') (hdot' : rest'.head? ≠ some '.')
    (h : (Piece.textOf (style.dotted (x :: xs))).toList ++ rest
      = (Piece.textOf (style.dotted (y :: ys))).toList ++ rest') :
  x :: xs = y :: ys ∧ rest = rest'
  := by
  have hpoint : ∀ s : List Char, Text.EndsName ('.' :: s) := by
    intro s c hc
    obtain rfl := Option.some.inj hc
    decide
  induction xs generalizing x y ys with
  | nil =>
    rw [toList_dotted_singleton] at h
    cases ys with
    | nil =>
      rw [toList_dotted_singleton] at h
      obtain ⟨rfl, rfl⟩ := identifier_append_inj hrest hrest' h
      exact ⟨rfl, rfl⟩
    | cons y' ys =>
      rw [toList_dotted_cons_cons, List.append_assoc] at h
      obtain ⟨-, rfl⟩ := identifier_append_inj hrest (hpoint _) h
      cases hdot rfl
  | cons x' xs ih =>
    rw [toList_dotted_cons_cons, List.append_assoc] at h
    cases ys with
    | nil =>
      rw [toList_dotted_singleton] at h
      obtain ⟨-, rfl⟩ := identifier_append_inj (hpoint _) hrest' h
      cases hdot' rfl
    | cons y' ys =>
      rw [toList_dotted_cons_cons, List.append_assoc] at h
      obtain ⟨rfl, hrests⟩ := identifier_append_inj (hpoint _) (hpoint _) h
      obtain ⟨hnames, rfl⟩ := ih (List.cons.inj hrests).2
      exact ⟨congrArg _ hnames, rfl⟩

end Style

end SqlDialect
