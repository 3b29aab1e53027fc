import SqlDialect.Dialect
import SqlDialect.Proofs.Render.Replacement
import SqlDialect.Proofs.Render.Scan

/-!
# Binding and inlining

Binding values to markers agrees with writing them as literals.  The question marks outside
of quoted tokens are the markers of the parameters, in order, and putting the literals of
the parameters in their place gives the text in which all values are written as literals.
OpenEdge sends booleans as integers, which are written like the booleans.
-/

namespace SqlDialect

open Text

/-- The literal of a value. -/
def Style.literal (style : Style) (value : Value) : List Char :=
  (Piece.textOf (value.pieces style)).toList

/-- The leaf, with a value written as a literal where one was bound. -/
def Operand.inlined : Operand → Operand
  | bound value => inline value
  | leaf => leaf

/-- The statement with all values written as literals. -/
def Statement.inlined (s : Statement) : Statement :=
  s.mapOperands Operand.inlined

/-- The text that the lexemes spell when the question marks outside of quoted tokens are replaced by
the given texts, in order. -/
def Text.fill : List (List Char) → List Lexeme → List Char
  | _, [] => []
  | [], lexeme :: rest => lexeme.text ++ fill [] rest
  | text :: texts, lexeme :: rest =>
    if lexeme = .bare '?' then text ++ fill texts rest
    else lexeme.text ++ fill (text :: texts) rest

/-- The compilation succeeds on the statement whenever it does with all values written as literals,
and then the literals of the parameters fill the markers of its text to give the other one. -/
structure BindsLikeInlining (style : Style) (compile : Statement → Report CompiledQuery)
    (s : Statement) : Prop where
  succeeds : (∃ query, (compile s).result = .ok query)
    ↔ ∃ query, (compile s.inlined).result = .ok query
  fills : ∀ query, (compile s).result = .ok query → ∃ lexemes,
    scan query.sql.toList = some lexemes
      ∧ lexemes.count (.bare '?') = query.parameters.length
      ∧ (compile s.inlined).result
        = .ok ⟨String.ofList (fill (query.parameters.map style.literal) lexemes), []⟩

/-! ## Filling markers -/

theorem Text.fill_append {lexemes : List Lexeme} (h : .bare '?' ∉ lexemes)
    (texts : List (List Char)) (rest : List Lexeme) :
  fill texts (lexemes ++ rest) = lexemes.flatMap Lexeme.text ++ fill texts rest
  := by
  induction lexemes with
  | nil => rfl
  | cons lexeme lexemes ih =>
    rw [List.mem_cons, not_or] at h
    rw [List.flatMap_cons, List.append_assoc, ← ih h.2]
    cases texts with
    | nil => rfl
    | cons text texts => rw [List.cons_append, fill, if_neg (Ne.symm h.1)]

namespace Piece

/-- The pieces that a piece becomes when values are written as literals. -/
def inlined (style : Style) : Piece → List Piece
  | marker value => value.pieces style
  | p => [p]

/-- The piece has a question mark in a text without quotes. -/
def Asks (p : Piece) : Prop :=
  ∃ text, p = plain text ∧ '?' ∈ text.toList

variable {style : Style} {ps : List Piece}

/-- The lexemes of a piece spell its text. -/
theorem text_lexemes (p : Piece) :
  p.lexemes.flatMap Lexeme.text = p.text.toList
  := by
  cases p with
  | plain text => simp [lexemes, Piece.text, List.flatMap_map, Lexeme.text]
  | quoted mark content => simp [lexemes, Piece.text, Lexeme.text]
  | marker value => simp [lexemes, Piece.text, Lexeme.text]
  | fault failure => simp [lexemes, Piece.text]
  | outsideCalendar moment => simp [lexemes, Piece.text]

/-- Among the lexemes of a piece that is no marker there is no question mark. -/
theorem not_mem_lexemes {p : Piece} (h : p.parameter? = none) (hasks : ¬ p.Asks) :
  .bare '?' ∉ p.lexemes
  := by
  cases p with
  | plain text =>
    intro hmem
    obtain ⟨c, hc, heq⟩ := List.mem_map.mp hmem
    obtain rfl := Lexeme.bare.inj heq
    apply hasks ⟨text, rfl, hc⟩
  | quoted mark content => simp [lexemes]
  | marker value => cases h
  | fault failure => simp [lexemes]
  | outsideCalendar moment => simp [lexemes]

theorem inlined_of_parameter?_eq_none {p : Piece} (h : p.parameter? = none) :
  p.inlined style = [p]
  := by
  cases p with
  | marker value => cases h
  | _ => rfl

theorem parametersOf_cons {p : Piece} (h : p.parameter? = none) :
  parametersOf (p :: ps) = parametersOf ps
  := List.filterMap_cons_none h

/-- The question marks outside of quoted tokens are the markers. -/
theorem count_lexemesOf (h : ∀ p ∈ ps, ¬ p.Asks) :
  (lexemesOf ps).count (.bare '?') = (parametersOf ps).length
  := by
  induction ps with
  | nil => rfl
  | cons p ps ih =>
    obtain ⟨hp, hps⟩ := List.forall_mem_cons.mp h
    rw [lexemesOf_cons, List.count_append, ih hps]
    cases hparameter : p.parameter? with
    | none =>
      rw [List.count_eq_zero.mpr (not_mem_lexemes hparameter hp), parametersOf_cons hparameter,
        Nat.zero_add]
    | some value =>
      cases p with
      | marker value =>
        change 1 + _ = (value :: parametersOf ps).length
        rw [List.length_cons, Nat.add_comm]
      | _ => cases hparameter

/-- Filling the markers of a rendering with the literals of its parameters gives the text with all
values written as literals. -/
theorem fill_lexemesOf (h : ∀ p ∈ ps, ¬ p.Asks) :
  fill ((parametersOf ps).map style.literal) (lexemesOf ps)
    = (textOf (ps.flatMap (inlined style))).toList
  := by
  induction ps with
  | nil => rfl
  | cons p ps ih =>
    obtain ⟨hp, hps⟩ := List.forall_mem_cons.mp h
    rw [List.flatMap_cons, toList_textOf_append, ← ih hps, lexemesOf_cons]
    cases hparameter : p.parameter? with
    | none =>
      rw [parametersOf_cons hparameter, inlined_of_parameter?_eq_none hparameter,
        fill_append (not_mem_lexemes hparameter hp), text_lexemes, toList_textOf_cons]
      simp
    | some value =>
      cases p with
      | marker value => rfl
      | _ => cases hparameter

end Piece

/-! ## Replacing markers by literals -/

/-- A marker is exchanged for the literal of its value. -/
inductive MarkerToLiteral (style : Style) : List Piece → List Piece → Prop
  | intro {value : Value} (h : value.HasLiteral) :
    MarkerToLiteral style [.marker value] (value.pieces style)

theorem MarkerToLiteral.exchangeable (style : Style) :
  Exchangeable (MarkerToLiteral style)
  := by
  constructor
  · rintro _ _ ⟨h⟩
    constructor
    · apply Piece.Visible.marker
    · apply (Value.literalForm style h).visible
  · rintro _ _ ⟨h⟩
    rw [List.singleton_append, List.forall_mem_cons]
    use rfl
    intro p hp
    apply ((Value.literalForm style h).unrecorded p hp).1
  · rintro _ _ ⟨h⟩
    rw [List.singleton_append, List.forall_mem_cons]
    use rfl
    intro p hp
    apply ((Value.literalForm style h).unrecorded p hp).2.1

namespace Exchanged

variable {style : Style} {ps qs : List Piece}

theorem eq_flatMap_inlined (h : Exchanged (MarkerToLiteral style) ps qs) :
  qs = ps.flatMap (Piece.inlined style)
  := by
  induction h with
  | nil => rfl
  | same h => simp [Piece.inlined_of_parameter?_eq_none h]
  | part h =>
    obtain ⟨-⟩ := h
    simp [Piece.inlined]
  | append _ _ ih ih' => rw [List.flatMap_append, ← ih, ← ih']

/-- No parameters are left. -/
theorem parametersOf_eq_nil (h : Exchanged (MarkerToLiteral style) ps qs) :
  Piece.parametersOf qs = []
  := by
  induction h with
  | nil => rfl
  | same h => rw [Piece.parametersOf_cons h]; rfl
  | part h =>
    obtain ⟨h⟩ := h
    apply List.filterMap_eq_nil_iff.mpr
    intro p hp
    apply ((Value.literalForm style h).unrecorded p hp).2.2
  | append _ _ ih ih' =>
    rw [Piece.parametersOf, List.filterMap_append]
    apply List.append_eq_nil_iff.mpr ⟨ih, ih'⟩

end Exchanged

/-- Exchanging the markers of bound values that have literals. -/
theorem Operand.pieces_inlined (style : Style) {leaf : Operand}
    (h : ∀ value, leaf = .bound value → value.HasLiteral) (scope : Scope) :
  Exchanged (MarkerToLiteral style) (leaf.pieces style scope) (leaf.inlined.pieces style scope)
  := by
  have hrefl : ∀ leaf : Operand, (∀ value, leaf ≠ .bound value) →
      Exchanged (MarkerToLiteral style) (leaf.pieces style scope) (leaf.pieces style scope) := by
    intro leaf hleaf
    apply Exchanged.refl (Operand.parameter?_pieces style scope hleaf)
  cases leaf with
  | bound value =>
    rw [inlined, pieces_bound]
    split
    · rw [← pieces_inline style scope]
      apply hrefl
      simp
    · rw [pieces_inline]
      apply Exchanged.part (.intro (h value rfl))
  | _ =>
    apply hrefl
    simp

theorem Operand.precedence_inlined (leaf : Operand) :
  (Expr.operand leaf.inlined).precedence = (Expr.operand leaf).precedence
  := by
  cases leaf <;> rfl

/-- Writing the bound values of an expression as literals. -/
theorem Expr.replaced_inlined (style : Style) {e : Expr}
    (h : ∀ value, .bound value ∈ e.operands → value.HasLiteral) :
  Expr.Replaced style (MarkerToLiteral style) e (e.mapOperands Operand.inlined)
  where
  pieces := by
    apply pieces_mapOperands (MarkerToLiteral.exchangeable style) Operand.precedence_inlined
    intro leaf hleaf
    apply Operand.pieces_inlined
    rintro value rfl
    apply h value hleaf
  countFault := by
    intro clause
    cases e with
    | operand leaf => cases leaf <;> rfl
    | _ => rfl
  isNextValue := isNextValue_mapOperands Operand.inlined e

/-! ## Statements -/

theorem Statement.attempt_inlined (style : Style) {s : Statement}
    (h : ∀ value, .bound value ∈ s.operands → value.HasLiteral) (scope : Scope) :
  (s.attempt style scope).Exchanged (MarkerToLiteral style) (s.inlined.attempt style scope)
  := by
  apply attempt_mapExprs (MarkerToLiteral.exchangeable style)
  intro e he
  apply Expr.replaced_inlined
  intro value hvalue
  apply h value (List.mem_flatMap.mpr ⟨e, he, hvalue⟩)

theorem not_mem_of_isSqlText {text : String} (h : isSqlText text) :
  '?' ∉ text.toList
  := by
  intro hmem
  have hchar := List.all_eq_true.mp h '?' hmem
  cases hchar

/-- No text without quotes has a question mark in it. -/
theorem Parted.not_asks {raw : String → Prop} {bound : Value → Prop} {ps : List Piece}
    (h : Parted (Piece.Usual raw bound) ps) (hraw : ∀ text, raw text → '?' ∉ text.toList) :
  ∀ p ∈ ps, ¬ p.Asks
  := by
  apply h.forall_mem (P := fun p => ¬ p.Asks)
  · rintro p hp ⟨text, rfl, hmem⟩
    cases hp with
    | text h => apply not_mem_of_isSqlText h hmem
    | raw h => apply hraw text h hmem
  · rintro text hglue ⟨_, heq, hmem⟩
    obtain rfl := Piece.plain.inj heq
    rw [isGlue, Bool.and_eq_true] at hglue
    apply not_mem_of_isSqlText hglue.2 hmem

/-- In any style, binding values agrees with writing them as literals. -/
theorem Style.bindsLikeInlining (style : Style) {s : Statement}
    (hraw : ∀ text, .raw text ∈ s.operands → ∀ c ∈ text.toList, c ≠ '?' ∧ isMark c = false)
    (hbound : ∀ value, .bound value ∈ s.operands → value.HasLiteral) :
  BindsLikeInlining style style.compile s
  := by
  obtain ⟨f, hfail, hfail'⟩ | ⟨ps, qs, hexchanged, hps, -, hok, hok'⟩ :=
    (Statement.attempt_inlined style hbound {}).compiled (MarkerToLiteral.exchangeable style)
  · constructor
    · simp [Style.compile, hfail, hfail']
    · simp [Style.compile, hfail]
  · have hparted : Parted (Piece.Usual (.raw · ∈ s.operands) fun _ => True) ps := by
      apply Statement.parted hps
      intro leaf hleaf text htext
      rw [← htext]
      apply Statement.mem_operands_of_mem_leaves hleaf
    have hscan := hparted.scan_textOf fun text htext c hc => (hraw text htext c hc).2
    have hasks := hparted.not_asks fun text htext hmem => (hraw text htext '?' hmem).1 rfl
    constructor
    · simp [Style.compile, hok, hok']
    · intro query hquery
      rw [Style.compile, hok] at hquery
      obtain rfl := Except.ok.inj hquery
      use Piece.lexemesOf ps, hscan, Piece.count_lexemesOf hasks
      rw [Style.compile, hok', Piece.fill_lexemesOf hasks, hexchanged.parametersOf_eq_nil,
        ← hexchanged.eq_flatMap_inlined, String.ofList_toList]

/-! ## Dialects -/

/-- An encoded boolean is written like the boolean. -/
theorem Value.literal_encodeBit (value : Value) :
  Style.openEdge.literal value.encodeBit = Style.openEdge.literal value
  := by
  cases value with
  | boolean content =>
    cases content with
    | none => rfl
    | some x =>
      cases x with
      | false => decide
      | true => decide
  | _ => rfl

theorem Dialect.result_compile (d : Dialect) (s : Statement) :
  (d.compile s).result
    = (d.style.compile s).result.map fun query =>
      { query with parameters := d.bind query.parameters }
  := by
  change (Report.bind (d.style.compile s) _).result = _
  rw [Report.bind]
  cases (d.style.compile s).result <;> rfl

theorem Dialect.succeeds_compile (d : Dialect) (s : Statement) :
  (∃ query, (d.compile s).result = .ok query) ↔ ∃ query, (d.style.compile s).result = .ok query
  := by
  rw [result_compile]
  cases (d.style.compile s).result <;> simp [Except.map]

/-- A dialect that encodes its parameters to values with the same literals binds like its style. -/
theorem Dialect.bindsLikeInlining {d : Dialect} {s : Statement}
    (hencode : ∀ value, d.style.literal (d.encode value) = d.style.literal value)
    (h : BindsLikeInlining d.style d.style.compile s) :
  BindsLikeInlining d.style d.compile s
  := by
  have hliterals : ∀ values : List Value,
      (d.bind values).map d.style.literal = values.map d.style.literal := by
    intro values
    simp [bind, Function.comp_def, hencode]
  constructor
  · rw [d.succeeds_compile, d.succeeds_compile, h.succeeds]
  · intro query hquery
    rw [result_compile] at hquery
    cases hresult : (d.style.compile s).result with
    | error f =>
      rw [hresult] at hquery
      cases hquery
    | ok bare =>
      rw [hresult] at hquery
      obtain rfl := Except.ok.inj hquery
      obtain ⟨lexemes, hscan, hcount, hinlined⟩ := h.fills bare hresult
      use lexemes, hscan
      constructor
      · simpa [bind] using hcount
      · rw [result_compile, hinlined, hliterals]
        rfl

/-- In every style, and for OpenEdge with its parameters as they travel, binding values agrees with
writing them as literals. -/
theorem bindsLikeInlining_compile {s : Statement}
    (hraw : ∀ text, .raw text ∈ s.operands → ∀ c ∈ text.toList, c ≠ '?' ∧ isMark c = false)
    (hbound : ∀ value, .bound value ∈ s.operands → value.HasLiteral) :
  (∀ style, BindsLikeInlining style style.compile s)
    ∧ ∀ driver, BindsLikeInlining .openEdge (Dialect.openEdge driver).compile s
  := by
  constructor
  · intro style
    apply style.bindsLikeInlining hraw hbound
  · intro driver
    have hstyle := Style.openEdge.bindsLikeInlining hraw hbound
    apply Dialect.bindsLikeInlining (d := .openEdge driver) Value.literal_encodeBit hstyle

/-- A count of rows whose condition has question marks in a text and in a parameter. -/
def questions : Statement :=
  .select {
    columns := [.call "COUNT" [.operand .asterisk]]
    source := some { schema := "PUB", name := "notes" }
    condition := some (.binary .and
      (.binary .equal (.operand (.text "who's \"?\"")) (.operand (.bound (.varchar (some "me?")))))
      (.operand (.bound (.boolean (some true))))) }

theorem bindsLikeInlining_questions :
  (Dialect.odbc.compile questions).result
      = .ok ⟨"SELECT COUNT(*)\nFROM PUB.notes\nWHERE 'who''s \"?\"' = ? AND ?",
        [.varchar (some "me?"), .integer (some 1)]⟩
    ∧ BindsLikeInlining .openEdge Dialect.odbc.compile questions
  := by
  have hoperands : questions.operands = [.raw "COUNT", .asterisk, .text "who's \"?\"",
      .bound (.varchar (some "me?")), .bound (.boolean (some true))] := rfl
  constructor
  · decide +kernel
  · have hbinds := bindsLikeInlining_compile (s := questions) ?_ ?_
    · apply hbinds.2 "odbc"
    · intro text htext
      rw [hoperands] at htext
      obtain rfl : text = "COUNT" := by simpa using htext
      simp [isMark]
    · intro value hvalue
      rw [hoperands] at hvalue
      obtain rfl | rfl : value = .varchar (some "me?") ∨ value = .boolean (some true) := by
        simpa using hvalue
      · intro moment h
        cases h
      · intro moment h
        cases h

end SqlDialect
