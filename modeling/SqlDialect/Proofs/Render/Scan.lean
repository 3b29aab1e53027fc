import SqlDialect.Proofs.Render.Parted
import SqlDialect.Proofs.Text.Scan

/-!
# Scanning renderings

The text of a rendering is scanned into the lexemes of its pieces: the characters of plain
pieces, one quoted token for each quoted piece, and one question mark for each marker.
This holds of every rendering of usual parts whose raw texts have no marks in them.
-/

namespace SqlDialect

open Text

namespace Piece

/-- The lexemes of a piece. -/
def lexemes : Piece → List Lexeme
  | plain text => text.toList.map .bare
  | quoted mark content => [.quoted mark content.toList]
  | marker _ => [.bare '?']
  | fault _ => []
  | outsideCalendar _ => []

/-- The lexemes of a rendering. -/
def lexemesOf (pieces : List Piece) : List Lexeme := pieces.flatMap lexemes

/-- The tokens of pieces stand one after the other. -/
theorem lexemesOf_append (ps qs : List Piece) :
  lexemesOf (ps ++ qs) = lexemesOf ps ++ lexemesOf qs
  := List.flatMap_append

/-- The tokens of the first piece stand in front of those of the others. -/
theorem lexemesOf_cons (p : Piece) (ps : List Piece) :
  lexemesOf (p :: ps) = p.lexemes ++ lexemesOf ps
  := List.flatMap_cons

/-- A rendering without a text has no lexemes. -/
theorem lexemesOf_eq_nil {ps : List Piece} (h : textOf ps = "") :
  lexemesOf ps = []
  := by
  rw [lexemesOf, List.flatMap_eq_nil_iff]
  intro p hp
  have htext := textOf_eq_empty_iff.mp h p hp
  cases p with
  | plain text => simpa [lexemes, Piece.text] using htext
  | quoted mark content => simp [Piece.text, quote] at htext
  | marker value => simp [Piece.text] at htext
  | fault failure => rfl
  | outsideCalendar moment => rfl

/-- The text of the rendering is scanned into its lexemes, whatever follows without a mark in
front. -/
def Scanned (pieces : List Piece) : Prop :=
  ∀ rest : List Char, (∀ c ∈ rest.head?, isMark c = false) →
    scan ((textOf pieces).toList ++ rest) = (scan rest).map (lexemesOf pieces ++ ·)

namespace Scanned

variable {ps qs : List Piece} {text : String}

/-- No pieces are scanned as no tokens. -/
theorem nil :
  Scanned []
  := by
  intro rest _
  simp [lexemesOf]

/-- A text without marks is scanned as its characters. -/
theorem plain (h : ∀ c ∈ text.toList, isMark c = false) :
  Scanned [.plain text]
  := by
  intro rest _
  simp [toList_textOf, Piece.text, scan_bare rest h, lexemesOf, lexemes]

/-- A quoted piece is scanned as one token, unless its mark follows. -/
theorem quoted {mark : Char} (content : String) (h : isMark mark) :
  Scanned [.quoted mark content]
  := by
  intro rest hrest
  have hmark : rest.head? ≠ some mark := by
    intro hhead
    rw [hrest mark hhead] at h
    cases h
  simp [toList_textOf, Piece.text, scan_quote content.toList h hmark, lexemesOf, lexemes]

/-- A marker is scanned as a question mark. -/
theorem marker (value : Value) :
  Scanned [.marker value]
  := by
  intro rest _
  have hmark : ∀ c ∈ ['?'], isMark c = false := by simp [isMark]
  have h := scan_bare rest hmark
  simpa [toList_textOf, Piece.text, lexemesOf, lexemes] using h

/-- A recorded failure has no text to scan. -/
theorem fault (failure : Failure) :
  Scanned [.fault failure]
  := by
  intro rest _
  simp [toList_textOf, Piece.text, lexemesOf, lexemes]

/-- A lost moment has no text to scan. -/
theorem outsideCalendar (moment : Moment) :
  Scanned [.outsideCalendar moment]
  := by
  intro rest _
  simp [toList_textOf, Piece.text, lexemesOf, lexemes]

/-- Pieces are scanned beside others if either of them has no text. -/
theorem beside (hps : Scanned ps) (hqs : Scanned qs) (h : textOf ps = "" ∨ textOf qs = "") :
  Scanned (ps ++ qs)
  := by
  intro rest hrest
  rw [toList_textOf_append, lexemesOf_append]
  obtain h | h := h
  · rw [lexemesOf_eq_nil h, h]
    apply hqs rest hrest
  · rw [lexemesOf_eq_nil h, h]
    simpa using hps rest hrest

/-- Glue without marks joins pieces that are scanned. -/
theorem join (hps : Scanned ps) (hqs : Scanned qs) (h : isGlue text)
    (htext : ∀ c ∈ text.toList, isMark c = false) :
  Scanned (ps ++ .plain text :: qs)
  := by
  intro rest hrest
  have hhead : ∀ c ∈ (text.toList ++ ((textOf qs).toList ++ rest)).head?, isMark c = false := by
    cases hchars : text.toList with
    | nil =>
      rw [String.toList_eq_nil_iff] at hchars
      subst hchars
      cases h
    | cons first chars =>
      rw [hchars] at htext
      simpa using htext first List.mem_cons_self
  rw [toList_textOf_append, toList_textOf_cons, List.append_assoc, Piece.text, List.append_assoc,
    hps _ hhead, scan_bare _ htext, hqs rest hrest, lexemesOf_append, lexemesOf_cons]
  simp [Function.comp_def, lexemes]

end Scanned

end Piece

/-! ## Parted renderings -/

/-- The characters of SQL are no marks. -/
theorem isMark_eq_false_of_isSqlChar {c : Char} (h : isSqlChar c) :
  isMark c = false
  := by
  by_contra hmark
  rw [Bool.not_eq_false, isMark, Bool.or_eq_true, decide_eq_true_eq, decide_eq_true_eq] at hmark
  obtain rfl | rfl := hmark
  · cases h
  · cases h

/-- There are no marks in the text of SQL. -/
theorem isMark_eq_false_of_isSqlText {text : String} (h : isSqlText text) :
  ∀ c ∈ text.toList, isMark c = false
  := by
  intro c hc
  apply isMark_eq_false_of_isSqlChar (List.all_eq_true.mp h c hc)

/-- A rendering of usual parts is scanned into its lexemes when there are no marks in raw texts. -/
theorem Parted.scanned {raw : String → Prop} {bound : Value → Prop} {ps : List Piece}
    (h : Parted (Piece.Usual raw bound) ps)
    (hraw : ∀ text, raw text → ∀ c ∈ text.toList, isMark c = false) :
  Piece.Scanned ps
  := by
  induction h with
  | nil => apply Piece.Scanned.nil
  | single hp =>
    cases hp with
    | text h => apply Piece.Scanned.plain (isMark_eq_false_of_isSqlText h)
    | raw h => apply Piece.Scanned.plain (hraw _ h)
    | quoted content h => apply Piece.Scanned.quoted content h
    | marker h => apply Piece.Scanned.marker
    | fault failure => apply Piece.Scanned.fault
    | outsideCalendar moment => apply Piece.Scanned.outsideCalendar
  | join h _ _ ihps ihqs =>
    have htext := h
    rw [isGlue, Bool.and_eq_true] at htext
    apply ihps.join ihqs h (isMark_eq_false_of_isSqlText htext.2)
  | beside h _ _ ihps ihqs => apply ihps.beside ihqs h

/-- The text of a rendering of usual parts is scanned into its lexemes. -/
theorem Parted.scan_textOf {raw : String → Prop} {bound : Value → Prop} {ps : List Piece}
    (h : Parted (Piece.Usual raw bound) ps)
    (hraw : ∀ text, raw text → ∀ c ∈ text.toList, isMark c = false) :
  scan (Piece.textOf ps).toList = some (Piece.lexemesOf ps)
  := by
  have hscan := h.scanned hraw [] (by simp)
  simpa using hscan

end SqlDialect
