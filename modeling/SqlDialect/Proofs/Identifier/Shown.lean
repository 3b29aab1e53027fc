import SqlDialect.Proofs.Identifier.Bare
import SqlDialect.Proofs.Identifier.Reading
import SqlDialect.Proofs.Render.Scan

/-!
# The names that SQL shows

Identifiers with dots between them are read back by a reader that knows no style: it scans for
quoted tokens, parts the text at the dots outside of them, and takes each part for a quoted name
or for a bare one.  So the texts of tables, of columns and of sequences show exactly the names
that they are written with.
-/

namespace SqlDialect

/-! ## Reading names -/

namespace Text

/-- The character that a lexeme is, outside of quoted tokens. -/
def Lexeme.character? : Lexeme → Option Char
  | bare c => some c
  | quoted _ _ => none

/-- The name that lexemes spell: the content of a single quoted identifier, or bare characters. -/
def spelledName? : List Lexeme → Option String
  | [.quoted '"' content] => some (String.ofList content)
  | lexemes => (lexemes.mapM Lexeme.character?).map String.ofList

/-- The names that a text shows with dots between them. -/
def dottedNames? (text : String) : Option (List String) :=
  (scan text.toList).bind fun lexemes => (lexemes.splitOn (Lexeme.bare '.')).mapM spelledName?

/-- A word outside of quotes spells itself. -/
theorem spelledName?_bare (chars : List Char) :
  spelledName? (chars.map .bare) = some (String.ofList chars)
  := by
  rw [spelledName?]
  · have hchars : (chars.map Lexeme.bare).mapM Lexeme.character? = some chars := by
      induction chars with
      | nil => rfl
      | cons c rest ih =>
        rw [List.map_cons, List.mapM_cons, ih]
        rfl
    rw [hchars, Option.map_some]
  · cases chars with
    | nil => simp
    | cons c rest => simp

end Text

namespace Style

variable {style : Style} {name : String}

/-- An identifier is quoted, or bare with the characters of a word only. -/
theorem identifier_cases (style : Style) (name : String) :
  style.identifier name = .quoted '"' name
    ∨ style.identifier name = .plain name ∧ ∀ c ∈ name.toList, isAnyWord c
  := by
  rw [identifier]
  split
  next h => exact .inl rfl
  next h => exact .inr ⟨rfl, (isAnyWord_of_needsQuotes (by simpa using h)).2⟩

/-- An identifier spells the name that it stands for. -/
theorem spelledName?_identifier (style : Style) (name : String) :
  Text.spelledName? (style.identifier name).lexemes = some name
  := by
  obtain h | ⟨h, -⟩ := style.identifier_cases name
  · rw [h]
    simp [Piece.lexemes, Text.spelledName?]
  · rw [h, Piece.lexemes, Text.spelledName?_bare, String.ofList_toList]

/-- There is no dot outside of quotes in an identifier. -/
theorem dot_not_mem_lexemes (style : Style) (name : String) :
  .bare '.' ∉ (style.identifier name).lexemes
  := by
  obtain h | ⟨h, hword⟩ := style.identifier_cases name
  · simp [h, Piece.lexemes]
  · simp only [h, Piece.lexemes, List.mem_map, Text.Lexeme.bare.injEq, exists_eq_right]
    intro hdot
    cases hword '.' hdot

/-- An identifier is scanned as its tokens, whatever follows it. -/
theorem scanned_identifier (style : Style) (name : String) :
  Piece.Scanned [style.identifier name]
  := by
  obtain h | ⟨h, hword⟩ := style.identifier_cases name
  · rw [h]
    apply Piece.Scanned.quoted name rfl
  · rw [h]
    apply Piece.Scanned.plain
    intro c hc
    apply isMark_eq_false_of_isSqlChar (isSqlChar_of_isAnyWord (hword c hc))

/-- The first name of a row stands in front of a dot and the others. -/
theorem dotted_cons_cons (style : Style) (x y : String) (rest : List String) :
  style.dotted (x :: y :: rest) = style.identifier x :: .plain "." :: style.dotted (y :: rest)
  := by
  rw [dotted]
  simp

/-- Identifiers with dots between them are scanned as their tokens. -/
theorem scanned_dotted (style : Style) (names : List String) :
  Piece.Scanned (style.dotted names)
  := by
  induction names with
  | nil => apply Piece.Scanned.nil
  | cons name rest ih =>
    cases rest with
    | nil => apply scanned_identifier
    | cons next rest =>
      have hdot : isSqlText "." := by decide
      apply (scanned_identifier style name).join ih (by decide) (isMark_eq_false_of_isSqlText hdot)

/-- Identifiers with dots between them are read back as their names. -/
theorem dottedNames?_dotted (style : Style) (name : String) (rest : List String) :
  Text.dottedNames? (Piece.textOf (style.dotted (name :: rest))) = some (name :: rest)
  := by
  have hscan := style.scanned_dotted (name :: rest) [] (by simp)
  rw [List.append_nil, Text.scan_nil, Option.map_some, List.append_nil] at hscan
  rw [Text.dottedNames?, hscan, Option.bind_some]
  clear hscan
  induction rest generalizing name with
  | nil =>
    rw [dotted, Piece.lexemesOf_cons, Piece.lexemesOf, List.flatMap_nil, List.append_nil,
      List.splitOn_eq_singleton (dot_not_mem_lexemes style name)]
    simp [spelledName?_identifier]
  | cons next rest ih =>
    rw [dotted_cons_cons, Piece.lexemesOf_cons, Piece.lexemesOf_cons]
    have hdot : (Piece.plain ".").lexemes = [.bare '.'] := rfl
    rw [hdot, List.singleton_append,
      List.splitOn_append_cons_self_of_not_mem (dot_not_mem_lexemes style name), List.mapM_cons,
      spelledName?_identifier, ih]
    rfl

/-- A dot in quotes parts no names. -/
example : Text.dottedNames? "rolls.\"a.\"\"b\"" = some ["rolls", "a.\"b"] := by decide +kernel

/-- Texts of identifiers with dots between them are the text of the row. -/
theorem text_intercalate (style : Style) (name : String) (rest : List String) :
  ".".intercalate ((name :: rest).map fun n => (style.identifier n).text)
    = Piece.textOf (style.dotted (name :: rest))
  := by
  induction rest generalizing name with
  | nil => simp [dotted, Piece.textOf_cons]
  | cons next rest ih =>
    have hrest := ih next
    rw [List.map_cons] at hrest
    rw [List.map_cons, List.map_cons, String.intercalate_cons_cons, hrest, dotted_cons_cons,
      Piece.textOf_cons, Piece.textOf_cons, String.append_assoc]
    rfl

/-- Identifiers with dots between them have the same text exactly when their names are the same. -/
theorem textOf_dotted_eq_iff {names names' : List String} (h : names ≠ []) (h' : names' ≠ []) :
  Piece.textOf (style.dotted names) = Piece.textOf (style.dotted names') ↔ names = names'
  := by
  obtain ⟨x, xs, rfl⟩ := List.exists_cons_of_ne_nil h
  obtain ⟨y, ys, rfl⟩ := List.exists_cons_of_ne_nil h'
  constructor
  · intro htext
    have hnames := congrArg Text.dottedNames? htext
    rw [dottedNames?_dotted, dottedNames?_dotted] at hnames
    apply Option.some.inj hnames
  · intro hnames
    rw [hnames]

end Style

variable {style : Style} {scope scope' : Scope}

/-! ## Columns -/

/-- The names that a column shows. -/
def Column.shown (scope : Scope) (c : Column) : List String :=
  if scope.qualified ∧ c.table ≠ "" then
    if c.schema = "" then [c.table, c.name] else [c.schema, c.table, c.name]
  else [c.name]

/-- A column is shown by at least one name. -/
theorem Column.shown_ne_nil (scope : Scope) (c : Column) :
  c.shown scope ≠ []
  := by
  rw [shown]
  split
  · split <;> simp
  · simp

/-- A column is written as the names that it is shown by. -/
theorem Column.pieces_eq_dotted (style : Style) (scope : Scope) (c : Column) :
  c.pieces style scope = style.dotted (c.shown scope)
  := by
  rw [pieces, shown]
  split
  next h =>
    rw [Style.qualifiedBy, Style.qualifiedBy, if_neg h.2]
    split <;> simp [Style.dotted]
  next h => rfl

/-- Columns have the same text exactly when they show the same names. -/
theorem Column.textOf_pieces_eq_iff {c c' : Column} :
  Piece.textOf (c.pieces style scope) = Piece.textOf (c'.pieces style scope')
    ↔ c.shown scope = c'.shown scope'
  := by
  rw [pieces_eq_dotted, pieces_eq_dotted]
  apply Style.textOf_dotted_eq_iff (c.shown_ne_nil scope) (c'.shown_ne_nil scope')

/-! ## Sequences -/

/-- The names that a sequence shows. -/
def Sequence.shown (style : Style) (s : Sequence) : List String :=
  let schema := s.schema.getD ""
  if schema ≠ "" then [schema, s.name]
  else match style with
    | .standard _ => [s.name]
    | .openEdge => ["PUB", s.name]

/-- A sequence is shown by at least one name. -/
theorem Sequence.shown_ne_nil (style : Style) (s : Sequence) :
  s.shown style ≠ []
  := by
  by_cases hschema : s.schema.getD "" = ""
  · cases style <;> simp [shown, hschema]
  · simp [shown, hschema]

/-- A sequence is written as the names that it is shown by. -/
theorem Sequence.namePieces_eq_dotted (style : Style) (s : Sequence) :
  s.namePieces style = style.dotted (s.shown style)
  := by
  unfold namePieces shown
  by_cases hschema : s.schema.getD "" = ""
  · cases style <;> simp [hschema, Style.qualifiedBy, Style.dotted, OpenEdge.userSchema]
  · cases style <;> simp [hschema, Style.qualifiedBy, Style.dotted]

/-- The names of sequences have the same text exactly when they show the same names. -/
theorem Sequence.textOf_namePieces_eq_iff {s s' : Sequence} :
  Piece.textOf (s.namePieces style) = Piece.textOf (s'.namePieces style)
    ↔ s.shown style = s'.shown style
  := by
  rw [namePieces_eq_dotted, namePieces_eq_dotted]
  apply Style.textOf_dotted_eq_iff (s.shown_ne_nil style) (s'.shown_ne_nil style)

/-! ## Tables -/

/-- The names that a table shows, and the alias that it shows behind them. -/
def Table.shown (clause : Clause) (t : Table) : List String × Option String :=
  let path := if t.schema = "" then [t.name] else [t.schema, t.name]
  if t.label = "" then (path, none)
  else if clause = .selectFrom then (path, some t.label)
  else ([t.label], none)

/-- The text of the alias behind a name. -/
def Style.aliasText (style : Style) : Option String → List Char
  | none => []
  | some label => ' ' :: (style.identifier label).text.toList

/-- The text of an alias ends the name in front of it, and does not start with a dot. -/
theorem Style.aliasText_endsName (style : Style) (label : Option String) :
  Text.EndsName (style.aliasText label) ∧ (style.aliasText label).head? ≠ some '.'
  := by
  cases label with
  | none => simp [aliasText, Text.EndsName]
  | some label => simp [aliasText, Text.EndsName, isAnyWord]

/-- An alias is determined by its text. -/
theorem Style.aliasText_injective (style : Style) :
  Function.Injective style.aliasText
  := by
  intro x y h
  cases x with
  | none =>
    cases y with
    | none => rfl
    | some y => cases h
  | some x =>
    cases y with
    | none => cases h
    | some y =>
      have htext := (List.cons.inj h).2
      have hend : Text.EndsName [] := (style.aliasText_endsName none).1
      rw [← List.append_nil (style.identifier x).text.toList,
        ← List.append_nil (style.identifier y).text.toList] at htext
      rw [(identifier_append_inj hend hend htext).1]

namespace Table

/-- A table is shown by at least one name. -/
theorem shown_ne_nil (clause : Clause) (t : Table) :
  (t.shown clause).1 ≠ []
  := by
  rw [shown]
  split
  · dsimp only
    split <;> simp
  · split
    · dsimp only
      split <;> simp
    · simp

/-- A table is written as the names that it is shown by, and its alias behind them. -/
theorem toList_textOf_pieces (style : Style) (scope : Scope) (t : Table) :
  (Piece.textOf (t.pieces style scope)).toList
    = (Piece.textOf (style.dotted (t.shown scope.clause).1)).toList
      ++ style.aliasText (t.shown scope.clause).2
  := by
  have hpath : style.qualifiedBy t.schema [style.identifier t.name]
      = style.dotted (if t.schema = "" then [t.name] else [t.schema, t.name]) := by
    rw [Style.qualifiedBy]
    split <;> simp [Style.dotted]
  rw [pieces, shown, hpath]
  by_cases hlabel : t.label = ""
  · simp [hlabel, Style.aliasText]
  · by_cases hclause : scope.clause = .selectFrom
    · simp [hlabel, hclause, Style.aliasText, Piece.toList_textOf_append, Piece.toList_textOf_cons,
        Piece.text]
    · simp [hlabel, hclause, Style.aliasText, Style.dotted]

/-- Tables have the same text exactly when they show the same names and the same alias. -/
theorem textOf_pieces_eq_iff {t t' : Table} :
  Piece.textOf (t.pieces style scope) = Piece.textOf (t'.pieces style scope')
    ↔ t.shown scope.clause = t'.shown scope'.clause
  := by
  rw [← String.toList_inj, toList_textOf_pieces, toList_textOf_pieces]
  constructor
  · intro h
    obtain ⟨x, xs, hnames⟩ := List.exists_cons_of_ne_nil (t.shown_ne_nil scope.clause)
    obtain ⟨y, ys, hnames'⟩ := List.exists_cons_of_ne_nil (t'.shown_ne_nil scope'.clause)
    rw [hnames, hnames'] at h
    obtain ⟨hend, hdot⟩ := style.aliasText_endsName (t.shown scope.clause).2
    obtain ⟨hend', hdot'⟩ := style.aliasText_endsName (t'.shown scope'.clause).2
    obtain ⟨heq, halias⟩ := Style.dotted_append_inj hend hdot hend' hdot' h
    apply Prod.ext
    · rw [hnames, hnames', heq]
    · apply style.aliasText_injective halias
  · intro h
    rw [h]

end Table

/-! ## Reading back -/

/-- Identifiers read back as themselves.  A name is written bare exactly when it can stand bare and
equals no reserved word up to case, and in quotes it is read back by undoubling; names with dots
between them are read back as the list of them; and tables, columns and sequences have the same
text exactly when they show the same. -/
theorem Style.identifiers_read_back (style : Style) :
  (∀ name,
      (style.isReserved name ↔ ∃ word ∈ style.reserved, EqualIgnoringCase name word)
        ∧ ((style.identifier name).text = name ↔ style.StandsBare name)
        ∧ (style.StandsBare name
          ∨ ∃ inner, (style.identifier name).text.toList = '"' :: inner ++ ['"']
            ∧ Text.undouble? '"' inner = some name.toList))
    ∧ (∀ name rest,
      Text.dottedNames? (".".intercalate ((name :: rest).map fun n => (style.identifier n).text))
        = some (name :: rest))
    ∧ (∀ (scope scope' : Scope) (t t' : Table),
      Piece.textOf (t.pieces style scope) = Piece.textOf (t'.pieces style scope')
        ↔ t.shown scope.clause = t'.shown scope'.clause)
    ∧ (∀ (scope scope' : Scope) (c c' : Column),
      Piece.textOf (c.pieces style scope) = Piece.textOf (c'.pieces style scope')
        ↔ c.shown scope = c'.shown scope')
    ∧ ∀ s s' : Sequence,
      Piece.textOf (s.namePieces style) = Piece.textOf (s'.namePieces style)
        ↔ s.shown style = s'.shown style
  := by
  refine ⟨?_, ?_, ?_, ?_, ?_⟩
  · intro name
    use style.isReserved_iff name, text_identifier_eq_iff
    by_cases h : style.StandsBare name
    · left
      apply h
    · right
      use Text.double '"' name.toList, toList_text_identifier h
      apply Text.undouble?_double
  · intro name rest
    rw [text_intercalate]
    apply dottedNames?_dotted
  · intro scope scope' t t'
    apply Table.textOf_pieces_eq_iff
  · intro scope scope' c c'
    apply Column.textOf_pieces_eq_iff
  · intro s s'
    apply Sequence.textOf_namePieces_eq_iff

end SqlDialect
