import SqlDialect.Proofs.Render.Replacement
import SqlDialect.Proofs.Render.Scan

/-!
# The contents of strings

The contents of strings do not change the structure of a statement.  A scanner reads every
string that is written back as one token between apostrophes, and statements that differ
only in the contents of strings fail alike or have texts with the same lexemes, up to the
contents of these tokens.
-/

namespace SqlDialect

open Text

/-! ## The literals between apostrophes -/

/-- What is written between apostrophes: the content of a string, or a text computed from a date, a
timestamp, or a floating point number that is not finite. -/
inductive Literal
  | string (content : String)
  | computed (text : String)
deriving DecidableEq

namespace Literal

/-- What a scanner reads the literal back as. -/
def content : Literal → List Char
  | string content => content.toList
  | computed text => text.toList

/-- The literal with its content forgotten if it is a string. -/
def blanked : Literal → Literal
  | string _ => string ""
  | computed text => computed text

end Literal

/-- The literal of a number that is not finite. -/
def Binary64.literals (x : Binary64) : List Literal :=
  if x.isFinite then [] else [.computed (sqlLayout.render x)]

/-- The literals between apostrophes that a value is written with. -/
def Value.literals : Value → List Literal
  | double (some x) => x.literals
  | varchar (some x) => [.string x]
  | date (some x) => [.computed x.text]
  | timestamp (some x) => [.computed x.text]
  | moment (some x) => x.utc?.toList.map fun t => .computed t.text
  | _ => []

/-- The literals between apostrophes that a leaf is written with.  A value bound to a marker is
not written. -/
def Operand.literals (scope : Scope) : Operand → List Literal
  | float x => x.literals
  | text content => [.string content]
  | inline value => value.literals
  | bound value => if scope.inline then value.literals else []
  | _ => []

/-- The literals between apostrophes that a statement is written with, in order. -/
def Statement.literals (style : Style) (s : Statement) : List Literal :=
  (s.leaves style {}).flatMap fun leaf => leaf.2.literals leaf.1

/-! ## Reading literals back -/

/-- The content of a token between apostrophes. -/
def Text.Lexeme.string? : Lexeme → Option (List Char)
  | quoted mark content => if mark = '\'' then some content else none
  | bare _ => none

/-- The content of a piece between apostrophes. -/
def Piece.string? : Piece → Option (List Char)
  | quoted mark content => if mark = '\'' then some content.toList else none
  | _ => none

/-- The tokens between apostrophes are those of the literals among the pieces. -/
theorem Piece.filterMap_string?_lexemesOf (ps : List Piece) :
  (lexemesOf ps).filterMap Lexeme.string? = ps.filterMap string?
  := by
  induction ps with
  | nil => rfl
  | cons p ps ih =>
    rw [lexemesOf_cons, List.filterMap_append, ih, List.filterMap_cons]
    cases p with
    | plain text => simp [lexemes, string?, Lexeme.string?]
    | quoted mark content =>
      by_cases h : mark = '\''
      · simp [lexemes, string?, Lexeme.string?, h]
      · simp [lexemes, string?, Lexeme.string?, h]
    | marker value => rfl
    | fault failure => rfl
    | outsideCalendar moment => rfl

/-- There is no literal in the name of a type. -/
theorem Style.filterMap_string?_typePieces (style : Style) (type : ColumnType) :
  (style.typePieces type).filterMap Piece.string? = []
  := by
  rw [typePieces]
  split <;> rfl

/-- The literals of a floating point number are those of its conversion, if it is written as one. -/
theorem Binary64.filterMap_string?_pieces (style : Style) (x : Binary64) :
  (x.pieces style).filterMap Piece.string? = x.literals.map Literal.content
  := by
  rw [pieces, literals]
  split
  · rfl
  · change (sqlLayout.render x).toList
        :: (style.typePieces .double ++ [Piece.plain ")"]).filterMap Piece.string? = _
    rw [List.filterMap_append, style.filterMap_string?_typePieces]
    rfl

/-- The literals of a value are the ones in its pieces. -/
theorem Value.filterMap_string?_pieces (style : Style) (value : Value) :
  (value.pieces style).filterMap Piece.string? = value.literals.map Literal.content
  := by
  cases value with
  | null => rfl
  | double content =>
    cases content with
    | none => rfl
    | some x => apply x.filterMap_string?_pieces
  | moment content =>
    cases content with
    | none => rfl
    | some x =>
      change x.pieces.filterMap _ = (x.utc?.toList.map _).map _
      rw [Moment.pieces]
      cases x.utc? <;> rfl
  | _ content => cases content <;> rfl

/-- The literals of a leaf are the ones in its pieces. -/
theorem Operand.filterMap_string?_pieces (style : Style) (scope : Scope) (leaf : Operand) :
  (leaf.pieces style scope).filterMap Piece.string? = (leaf.literals scope).map Literal.content
  := by
  cases leaf with
  | null => rfl
  | boolean x => rfl
  | float x =>
    rw [pieces_float]
    apply x.filterMap_string?_pieces
  | raw verbatim => rfl
  | int n =>
    rw [pieces, tokens, Token.ofInt]
    split <;> rfl
  | text content => rfl
  | column c =>
    rw [pieces_column]
    apply (Woven.columnPieces style scope c).filterMap_eq
    · intro text
      rfl
    · intro content
      rfl
  | type type =>
    rw [pieces_type]
    apply style.filterMap_string?_typePieces
  | inline value =>
    rw [pieces_inline]
    apply value.filterMap_string?_pieces
  | bound value =>
    rw [pieces_bound, literals]
    split
    · apply value.filterMap_string?_pieces
    · rfl
  | asterisk => rfl

/-- No raw text of the statement has a mark in it. -/
def Statement.NoMarks (s : Statement) : Prop :=
  ∀ text, .raw text ∈ s.operands → ∀ c ∈ text.toList, isMark c = false

/-- A scanner reads what is written of the statement as the given lexemes, and among them the
literals of the statement, in order, as the tokens between apostrophes. -/
structure ReadBack (style : Style) (s : Statement) (query : CompiledQuery)
    (lexemes : List Lexeme) : Prop where
  scan : scan query.sql.toList = some lexemes
  strings : lexemes.filterMap Lexeme.string? = (s.literals style).map Literal.content

/-- Every literal is read back. -/
theorem Statement.readBack {style : Style} {s : Statement} {ps : List Piece} (hs : s.NoMarks)
    (h : s.attempt style {} = .ok ps) :
  ReadBack style s ⟨Piece.textOf ps, Piece.parametersOf ps⟩ (Piece.lexemesOf ps)
  := by
  constructor
  · have hparted : Parted (Piece.Usual (.raw · ∈ s.operands) fun _ => True) ps := by
      apply parted h
      intro leaf hleaf text htext
      rw [← htext]
      apply mem_operands_of_mem_leaves hleaf
    apply hparted.scan_textOf hs
  · rw [Piece.filterMap_string?_lexemesOf, literals, List.map_flatMap,
      (woven h).filterMap_eq (fun _ => rfl) (fun _ => rfl)]
    simp only [Operand.filterMap_string?_pieces]

/-! ## Statements that differ in strings -/

/-- The value with its content forgotten if it is a text. -/
def Value.blanked : Value → Value
  | varchar (some _) => varchar (some "")
  | value => value

/-- The leaf with its content forgotten if it is a string. -/
def Operand.blanked : Operand → Operand
  | text _ => text ""
  | inline value => inline value.blanked
  | bound value => bound value.blanked
  | leaf => leaf

/-- The statement with the contents of its strings forgotten. -/
def Statement.blanked (s : Statement) : Statement :=
  s.mapOperands Operand.blanked

/-- The lexeme with its content forgotten if it stands between apostrophes. -/
def Text.Lexeme.blanked : Lexeme → Lexeme
  | quoted mark content => if mark = '\'' then quoted mark [] else quoted mark content
  | bare c => bare c

/-- A string is exchanged for another, and a marker for one whose value has its content
forgotten. -/
inductive OtherString : List Piece → List Piece → Prop
  | string (content content' : String) : OtherString [.literal content] [.literal content']
  | marker (value : Value) : OtherString [.marker value] [.marker value.blanked]

/-- Strings may be exchanged for others, and so may markers. -/
theorem OtherString.exchangeable :
  Exchangeable OtherString
  := by
  constructor
  · rintro _ _ (⟨content, content'⟩ | ⟨value⟩)
    · constructor
      · apply Piece.Visible.literal
      · apply Piece.Visible.literal
    · constructor
      · apply Piece.Visible.marker
      · apply Piece.Visible.marker
  · rintro _ _ (⟨content, content'⟩ | ⟨value⟩) <;> simp [Piece.literal, Piece.failure?]
  · rintro _ _ (⟨content, content'⟩ | ⟨value⟩) <;> simp [Piece.literal, Piece.moment?]

/-- Exchanging strings keeps the lexemes, up to the contents of strings. -/
theorem Exchanged.map_blanked_lexemesOf {ps qs : List Piece} (h : Exchanged OtherString ps qs) :
  (Piece.lexemesOf ps).map Lexeme.blanked = (Piece.lexemesOf qs).map Lexeme.blanked
  := by
  induction h with
  | nil => rfl
  | same _ => rfl
  | part h => cases h <;> rfl
  | append _ _ ih ih' =>
    rw [Piece.lexemesOf_append, Piece.lexemesOf_append, List.map_append, List.map_append, ih, ih']

/-- A value is written with another string in the place of its own. -/
theorem Value.blanked_pieces (style : Style) (value : Value) :
  Exchanged OtherString (value.pieces style) (value.blanked.pieces style)
  := by
  have hrefl : Exchanged OtherString (value.pieces style) (value.pieces style) := by
    rw [← Operand.pieces_inline style {}]
    apply Exchanged.refl
    apply Operand.parameter?_pieces
    simp
  cases value with
  | varchar content =>
    cases content with
    | none => apply hrefl
    | some x => apply Exchanged.part (.string x "")
  | _ => apply hrefl

/-- A leaf is written with other strings in the place of its own. -/
theorem Operand.blanked_pieces (style : Style) (scope : Scope) (leaf : Operand) :
  Exchanged OtherString (leaf.pieces style scope) (leaf.blanked.pieces style scope)
  := by
  cases leaf with
  | text content => apply Exchanged.part (.string content "")
  | inline value =>
    rw [blanked, pieces_inline, pieces_inline]
    apply value.blanked_pieces
  | bound value =>
    rw [blanked, pieces_bound, pieces_bound]
    split
    · apply value.blanked_pieces
    · apply Exchanged.part (.marker value)
  | _ =>
    apply Exchanged.refl
    apply parameter?_pieces
    simp

/-- Whether a value counts rows does not depend on strings. -/
theorem Value.countFault?_blanked (clause : String) (value : Value) :
  value.blanked.countFault? clause = value.countFault? clause
  := by
  cases value with
  | varchar content => cases content <;> rfl
  | _ => rfl

/-- Forgetting the contents of strings in an expression. -/
theorem Expr.replaced_blanked (style : Style) (e : Expr) :
  Expr.Replaced style OtherString e (e.mapOperands Operand.blanked)
  where
  pieces := by
    apply pieces_mapOperands OtherString.exchangeable
    · intro leaf
      cases leaf <;> rfl
    · intro leaf _ scope
      apply Operand.blanked_pieces
  countFault := by
    intro clause
    cases e with
    | operand leaf =>
      cases leaf with
      | inline value => apply Value.countFault?_blanked
      | bound value => apply Value.countFault?_blanked
      | _ => rfl
    | _ => rfl
  isNextValue := isNextValue_mapOperands Operand.blanked e

/-- A statement is written with other strings in the place of its own, and stops where it did. -/
theorem Statement.attempt_blanked (style : Style) (s : Statement) :
  (s.attempt style {}).Exchanged OtherString (s.blanked.attempt style {})
  := by
  apply attempt_mapExprs OtherString.exchangeable
  intro e _
  apply Expr.replaced_blanked

/-- The literals of a floating point number are the same without their content. -/
theorem Binary64.literals_blanked (x : Binary64) :
  x.literals = x.literals.map Literal.blanked
  := by
  rw [literals]
  split <;> rfl

/-- Literals are blanked as their value is. -/
theorem Value.literals_blanked (value : Value) :
  value.blanked.literals = value.literals.map Literal.blanked
  := by
  cases value with
  | null => rfl
  | double content =>
    cases content with
    | none => rfl
    | some x => apply x.literals_blanked
  | moment content =>
    cases content with
    | none => rfl
    | some x =>
      change x.utc?.toList.map _ = (x.utc?.toList.map _).map _
      rw [List.map_map]
      rfl
  | _ content => cases content <;> rfl

/-- Literals are blanked as their leaf is. -/
theorem Operand.literals_blanked (scope : Scope) (leaf : Operand) :
  leaf.blanked.literals scope = (leaf.literals scope).map Literal.blanked
  := by
  cases leaf with
  | float x => apply x.literals_blanked
  | inline value => apply value.literals_blanked
  | bound value =>
    rw [blanked, literals, literals]
    split
    · apply value.literals_blanked
    · rfl
  | _ => rfl

/-- The literals of a statement with the contents of its strings forgotten. -/
theorem Statement.literals_blanked (style : Style) (s : Statement) :
  s.blanked.literals style = (s.literals style).map Literal.blanked
  := by
  rw [blanked, literals, literals, leaves_mapOperands (fun _ => rfl), List.flatMap_map,
    List.map_flatMap]
  apply List.flatMap_congr
  intro leaf _
  apply Operand.literals_blanked

/-- Tokens that are the same once blanked are the same, or both strings. -/
theorem Text.Lexeme.eq_or_string {x y : Lexeme} (h : x.blanked = y.blanked) :
  (x = y ∧ x.string? = none)
    ∨ ∃ content content', x = quoted '\'' content ∧ y = quoted '\'' content'
  := by
  cases x with
  | bare c =>
    cases y with
    | bare d => apply Or.inl ⟨h, rfl⟩
    | quoted mark content => by_cases hmark : mark = '\'' <;> simp [blanked, hmark] at h
  | quoted mark content =>
    by_cases hmark : mark = '\''
    · subst hmark
      right
      cases y with
      | bare d => cases h
      | quoted mark' content' =>
        by_cases hmark' : mark' = '\''
        · subst hmark'
          use content, content'
        · simp [blanked, hmark', eq_comm] at h
    · left
      cases y with
      | bare d => simp [blanked, hmark] at h
      | quoted mark' content' =>
        by_cases hmark' : mark' = '\''
        · simp [blanked, hmark, hmark'] at h
        · simpa [blanked, string?, hmark, hmark'] using h

/-- Lexemes are determined by their strings and by what is left when these are forgotten. -/
theorem Text.eq_of_map_blanked_eq {xs ys : List Lexeme}
    (h : xs.map Lexeme.blanked = ys.map Lexeme.blanked)
    (hstrings : xs.filterMap Lexeme.string? = ys.filterMap Lexeme.string?) :
  xs = ys
  := by
  induction xs generalizing ys with
  | nil =>
    rw [List.map_nil, eq_comm, List.map_eq_nil_iff] at h
    rw [h]
  | cons x xs ih =>
    cases ys with
    | nil => cases h
    | cons y ys =>
      obtain ⟨hhead, htail⟩ := List.cons.inj h
      obtain ⟨rfl, hnone⟩ | ⟨content, content', rfl, rfl⟩ := Lexeme.eq_or_string hhead
      · rw [List.filterMap_cons_none hnone, List.filterMap_cons_none hnone] at hstrings
        rw [ih htail hstrings]
      · obtain ⟨rfl, hrest⟩ := List.cons.inj hstrings
        rw [ih htail hrest]

/-- Blanking a value twice comes to the same as blanking it once. -/
theorem Value.blanked_blanked (value : Value) :
  value.blanked.blanked = value.blanked
  := by
  cases value with
  | null => rfl
  | _ content => cases content <;> rfl

/-- Exchanging strings keeps the parameters, up to the contents of strings. -/
theorem Exchanged.map_blanked_parametersOf {ps qs : List Piece} (h : Exchanged OtherString ps qs) :
  (Piece.parametersOf ps).map Value.blanked = (Piece.parametersOf qs).map Value.blanked
  := by
  induction h with
  | nil => rfl
  | same _ => rfl
  | part h =>
    cases h with
    | string content content' => rfl
    | marker value =>
      change [value.blanked] = [value.blanked.blanked]
      rw [value.blanked_blanked]
  | append _ _ ih ih' =>
    simp only [Piece.parametersOf, List.filterMap_append, List.map_append] at ih ih' ⊢
    rw [ih, ih']

/-- The queries written of the statements have the same lexemes and the same parameters up to the
contents of strings, and the same text when the literals that are written are the same. -/
structure SameStructure (style : Style) (s t : Statement) (query query' : CompiledQuery) :
    Prop where
  lexemes : ∃ xs ys, ReadBack style s query xs ∧ ReadBack style t query' ys
    ∧ xs.map Lexeme.blanked = ys.map Lexeme.blanked
  parameters : query.parameters.map Value.blanked = query'.parameters.map Value.blanked
  sql : s.literals style = t.literals style → query.sql = query'.sql

/-- Two queries that are read back as the same tokens, up to strings, have the same structure. -/
theorem ReadBack.sameStructure {style : Style} {s t : Statement} {query query' : CompiledQuery}
    {xs ys : List Lexeme} (hs : ReadBack style s query xs) (ht : ReadBack style t query' ys)
    (hlexemes : xs.map Lexeme.blanked = ys.map Lexeme.blanked)
    (hparameters : query.parameters.map Value.blanked = query'.parameters.map Value.blanked) :
  SameStructure style s t query query'
  where
  lexemes := ⟨xs, ys, hs, ht, hlexemes⟩
  parameters := hparameters
  sql := by
    intro hliterals
    have heq : xs = ys := by
      apply eq_of_map_blanked_eq hlexemes
      rw [hs.strings, ht.strings, hliterals]
    apply String.toList_injective
    rw [← text_scan hs.scan, ← text_scan ht.scan, heq]

/-- The contents of strings do not change the structure of a statement.  When it compiles a scanner
reads its literals back.  A statement that differs only in the contents of strings has the same
literals up to these, fails for the same reason, and has the same structure otherwise. -/
theorem strings_keep_structure (style : Style) {s : Statement} (hs : s.NoMarks) :
  (∀ query, (style.compile s).result = .ok query → ∃ lexemes, ReadBack style s query lexemes)
    ∧ ∀ t : Statement, t.NoMarks → s.blanked = t.blanked →
      (s.literals style).map Literal.blanked = (t.literals style).map Literal.blanked
        ∧ ((∃ f, (style.compile s).result = .error f ∧ (style.compile t).result = .error f)
          ∨ ∃ query query', (style.compile s).result = .ok query
            ∧ (style.compile t).result = .ok query' ∧ SameStructure style s t query query')
  := by
  constructor
  · intro query hquery
    obtain ⟨ps, hps, -, -, rfl⟩ := Attempt.result_compiled_eq_ok.mp hquery
    use Piece.lexemesOf ps
    apply s.readBack hs hps
  · intro t ht h
    constructor
    · rw [← s.literals_blanked, ← t.literals_blanked, h]
    · have hattempt := t.attempt_blanked style
      rw [← h] at hattempt
      obtain ⟨f, hf, hzf⟩ | ⟨ps, zs, hps, hsok, hzok, hsquery, hzquery⟩ :=
        (s.attempt_blanked style).compiled OtherString.exchangeable
      · obtain ⟨g, hg, hzg⟩ | ⟨qs, zs', -, -, -, -, hzquery'⟩ :=
          hattempt.compiled OtherString.exchangeable
        · left
          rw [hzf] at hzg
          obtain rfl := Except.error.inj hzg
          use f, hf, hg
        · rw [hzf] at hzquery'
          cases hzquery'
      · obtain ⟨g, -, hzg⟩ | ⟨qs, zs', hqs, htok, hzok', htquery, -⟩ :=
          hattempt.compiled OtherString.exchangeable
        · rw [hzquery] at hzg
          cases hzg
        · right
          rw [hzok, Attempt.ok_inj] at hzok'
          subst hzok'
          use ⟨Piece.textOf ps, Piece.parametersOf ps⟩, ⟨Piece.textOf qs, Piece.parametersOf qs⟩,
            hsquery, htquery
          apply ReadBack.sameStructure (s.readBack hs hsok) (t.readBack ht htok)
          · rw [hps.map_blanked_lexemesOf, hqs.map_blanked_lexemesOf]
          · apply Eq.trans hps.map_blanked_parametersOf hqs.map_blanked_parametersOf.symm

/-- The rows of a table that have the given title. -/
def rowsTitled (title : String) : Statement :=
  .select {
    columns := [.operand .asterisk]
    source := some { name := "notes" }
    condition := some (.binary .equal (.operand (.column { name := "title" }))
      (.operand (.text title))) }

/-- There is no text in the query that is written as it stands. -/
theorem rowsTitled_noMarks (title : String) :
  (rowsTitled title).NoMarks
  := by
  have hoperands : (rowsTitled title).operands
      = [.asterisk, .column { name := "title" }, .text title] := rfl
  intro text htext
  rw [hoperands] at htext
  simp at htext

/-- A title with an apostrophe, a statement and a comment in it stays a title. -/
theorem strings_keep_structure_rowsTitled :
  SameStructure .generic (rowsTitled "a") (rowsTitled "'; DELETE FROM \"notes\"; --?")
    ⟨"SELECT *\nFROM notes\nWHERE title = 'a'", []⟩
    ⟨"SELECT *\nFROM notes\nWHERE title = '''; DELETE FROM \"notes\"; --?'", []⟩
  := by
  have hs : (Style.generic.compile (rowsTitled "a")).result
      = .ok ⟨"SELECT *\nFROM notes\nWHERE title = 'a'", []⟩ := by decide +kernel
  have ht : (Style.generic.compile (rowsTitled "'; DELETE FROM \"notes\"; --?")).result
      = .ok ⟨"SELECT *\nFROM notes\nWHERE title = '''; DELETE FROM \"notes\"; --?'", []⟩ := by
    decide +kernel
  obtain ⟨-, htwo⟩ := strings_keep_structure .generic (rowsTitled_noMarks "a")
  obtain ⟨-, ⟨f, hf, -⟩ | ⟨query, query', hquery, hquery', hsame⟩⟩ :=
    htwo (rowsTitled "'; DELETE FROM \"notes\"; --?") (rowsTitled_noMarks _) rfl
  · rw [hs] at hf
    cases hf
  · rw [hs] at hquery
    rw [ht] at hquery'
    obtain rfl := Except.ok.inj hquery
    obtain rfl := Except.ok.inj hquery'
    apply hsame

end SqlDialect
