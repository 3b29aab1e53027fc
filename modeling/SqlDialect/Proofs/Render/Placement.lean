import SqlDialect.Proofs.Render.FromClauses

/-!
# The place of FROM clauses

A statement fits when it has the FROM clauses that its kind calls for: a query one, behind
all of its columns, a deletion one, and any other statement none.  A statement of OpenEdge
fits when no next value of a sequence is written of it, and otherwise only as a query
without a source whose last column is a next value by itself, and the only one.
-/

namespace SqlDialect

open Text

/-! ## What fits -/

/-- The pieces of a column as a value: of the next value of a sequence, what stands before the
source that it brings. -/
def Expr.valuePieces (scope : Scope) : Expr → List Piece
  | nextValue sequence => sequence.namePieces .openEdge ++ [.plain ".NEXTVAL"]
  | labelled argument label =>
    Piece.enclosed (argument.precedence < labelPrecedence) (argument.valuePieces scope)
      ++ .plain " AS "
        :: Piece.enclosed (label.precedence ≤ labelPrecedence) (label.pieces .openEdge scope)
  | e => e.pieces .openEdge scope

/-- The scope of the columns of a query. -/
def Scope.ofColumns : Scope := (qualifying {}).entering .select

namespace Statement

/-- How many FROM clauses the kind of a statement calls for. -/
def calledFroms : Statement → Nat
  | select _ => 1
  | delete _ => 1
  | _ => 0

/-- The text has the FROM clauses that the kind of the statement calls for: in a query the only one
stands behind all columns. -/
structure FromsFit (s : Statement) (lexemes : List Lexeme) : Prop where
  number : froms lexemes = s.calledFroms
  behind : ∀ q, s = select q → ∃ blank rest, isBlank blank
    ∧ lexemes = Piece.lexemesOf (.plain "SELECT "
        :: Piece.separated ", " (q.columns.map (Expr.valuePieces .ofColumns)))
      ++ .bare blank :: "FROM ".toList.map .bare ++ rest

/-- The statement is a query without a source, its last column is the next value of a sequence, and
no other next value is written of it. -/
def EndsInNextValue (s : Statement) : Prop :=
  s.nextValues = 1 ∧ ∃ q init sequence, s = select q ∧ q.source = none
    ∧ q.columns = init ++ [.nextValue sequence]

end Statement

/-! ## Columns -/

namespace Expr

/-- A next value needs no parentheses under an alias. -/
theorem labelPrecedence_le_of_isNextValue {e : Expr} (h : e.isNextValue) :
  ¬ e.precedence < labelPrecedence
  := by
  cases e with
  | labelled argument label => simp [precedence]
  | nextValue sequence =>
    rw [precedence]
    · decide
    all_goals simp
  | _ => cases h

/-- The expression is the next value of a sequence with labels behind it, which its source parts
from it. -/
structure BringsSource (e : Expr) (sequence : Sequence) (labels : List Piece) : Prop where
  values : e.valuePieces .ofColumns
    = sequence.namePieces .openEdge ++ [.plain ".NEXTVAL"] ++ labels
  pieces : e.pieces .openEdge .ofColumns = sequence.nextValuePieces .openEdge ++ labels

/-- A next value brings its source, and no labels. -/
theorem bringsSource_nextValue (sequence : Sequence) :
  (nextValue sequence).BringsSource sequence []
  where
  values := (List.append_nil _).symm
  pieces := by rw [pieces_nextValue, List.append_nil]

/-- A column with a next value brings a source: by itself, or in front of its labels. -/
theorem exists_bringsSource {e : Expr} (h : e.isNextValue) :
  ∃ (sequence : Sequence) (labels : List Piece), e.BringsSource sequence labels
    ∧ (labels = [] ∧ e = nextValue sequence ∨ ∃ rest, labels = .plain " AS " :: rest)
  := by
  induction e using induction with
  | labelled argument label ih _ =>
    obtain ⟨sequence, labels, hbrings, hlabels⟩ := ih h
    have hbare := labelPrecedence_le_of_isNextValue (e := argument) h
    refine ⟨sequence, labels ++ .plain " AS "
      :: Piece.enclosed (label.precedence ≤ labelPrecedence) (label.pieces .openEdge .ofColumns),
      ⟨?_, ?_⟩, .inr ?_⟩
    · rw [valuePieces, hbrings.values, Piece.enclosed, if_neg hbare, List.append_assoc]
    · rw [pieces_labelled, if_neg (by decide), hbrings.pieces, Piece.enclosed, if_neg hbare,
        List.append_assoc]
    · obtain ⟨rfl, -⟩ | ⟨rest, rfl⟩ := hlabels
      · exact ⟨_, rfl⟩
      · exact ⟨_, rfl⟩
  | nextValue sequence => exact ⟨sequence, [], bringsSource_nextValue sequence, .inl ⟨rfl, rfl⟩⟩
  | _ => cases h

/-- A column without a next value is written as its value. -/
theorem valuePieces_of_not_isNextValue {e : Expr} (h : e.isNextValue = false) :
  e.valuePieces .ofColumns = e.pieces .openEdge .ofColumns
  := by
  induction e using induction with
  | labelled argument label ih _ =>
    rw [valuePieces, ih h, pieces_labelled, if_neg (by decide)]
  | nextValue sequence => cases h
  | _ => rfl

/-- A next value is counted. -/
theorem nextValues_pos {e : Expr} (h : e.isNextValue) :
  1 ≤ e.nextValues false
  := by
  induction e using induction with
  | labelled argument label ih _ =>
    have hargument := ih h
    rw [nextValues, if_neg Bool.false_ne_true]
    omega
  | nextValue sequence => rfl
  | _ => cases h

end Expr

/-- Where no next values are written, no column is one. -/
theorem Expr.isNextValue_eq_false {es : List Expr} (h : nextValuesOf false es = 0) :
  ∀ e ∈ es, e.isNextValue = false
  := by
  intro e he
  rw [nextValuesOf_eq, List.sum_eq_zero_iff_forall_eq_nat] at h
  have hnone : e.nextValues false = 0 := h _ (List.mem_map_of_mem he)
  rw [← Bool.not_eq_true]
  intro hnext
  have hpos := nextValues_pos hnext
  omega

/-- Renderings in a row up to one of them: each is followed by a separator unless it has no text. -/
theorem Piece.separated_append_cons (separator : String) (items rest : List (List Piece))
    (item : List Piece) :
  separated separator (items ++ item :: rest)
    = (items.flatMap fun item => item ++ if textOf item = "" then [] else [.plain separator])
      ++ separated separator (item :: rest)
  := by
  induction items with
  | nil => rfl
  | cons first items ih =>
    rw [List.flatMap_cons, List.append_assoc, ← ih]
    cases items with
    | nil => rfl
    | cons second items => rfl

/-- The renderings behind one with a text: with a separator in front, if there are any. -/
def Piece.separatedAfter (separator : String) : List (List Piece) → List Piece
  | [] => []
  | items => .plain separator :: separated separator items

/-- Items behind one that is not empty stand behind separators. -/
theorem Piece.separated_cons_of_ne (separator : String) {item : List Piece}
    (h : textOf item ≠ "") (rest : List (List Piece)) :
  separated separator (item :: rest) = item ++ separatedAfter separator rest
  := by
  cases rest with
  | nil => simp [separated, separatedAfter]
  | cons next rest => simp [separated, separatedAfter, h]

/-! ## Queries -/

namespace SelectQuery

variable {q : SelectQuery} {ps : List Piece}

/-- A query starts with its columns and its source. -/
theorem attempt_columns (h : q.attempt .openEdge {} = .ok ps) :
  ∃ rest, ps = .plain "SELECT " :: Piece.separated ", "
      (q.columns.map (Expr.pieces .openEdge .ofColumns))
    ++ (q.sourcePieces .openEdge (Scope.qualifying {}) ++ rest)
  := by
  obtain ⟨-, h⟩ := Attempt.checked_eq_ok.mp h
  obtain ⟨tail, -, rfl⟩ := Attempt.ok_append_eq_ok.mp h
  use wherePieces .openEdge ((Scope.qualifying {}).entering .selectWhere) q.condition
    ++ (q.orderPieces .openEdge (Scope.qualifying {}) ++ tail)
  rw [bodyPieces, List.append_assoc, List.append_assoc, List.append_assoc]
  rfl

/-- The source that a query has of its own starts with the keyword FROM. -/
theorem lexemesOf_sourcePieces (scope : Scope) (h : (Statement.select q).ownFroms = 1) :
  ∃ rest, Piece.lexemesOf (q.sourcePieces .openEdge scope)
    = .bare '\n' :: "FROM ".toList.map .bare ++ rest
  := by
  rw [Statement.ownFroms] at h
  rw [sourcePieces]
  cases htable : q.source with
  | some table => exact ⟨_, rfl⟩
  | none =>
    have hnext : ¬ q.columns.any Expr.isNextValue := by
      intro hnext
      rw [if_pos ⟨htable, hnext⟩] at h
      cases h
    simp only [withoutSourcePieces, if_neg hnext]
    exact ⟨OpenEdge.calcTable.toList.map .bare, rfl⟩

/-- Columns without next values are written as their values. -/
theorem valuePieces_map {columns : List Expr} (h : ∀ e ∈ columns, e.isNextValue = false) :
  columns.map (Expr.valuePieces .ofColumns) = columns.map (Expr.pieces .openEdge .ofColumns)
  := by
  apply List.map_congr_left
  intro e he
  apply Expr.valuePieces_of_not_isNextValue (h e he)

/-- A query that has its own source fits when no next value is written of it. -/
theorem fits_of_ownFroms (hown : (Statement.select q).ownFroms = 1) (hps : Piece.froms ps = 1)
    (hcolumns : ∀ e ∈ q.columns, e.isNextValue = false) (h : q.attempt .openEdge {} = .ok ps) :
  (Statement.select q).FromsFit (Piece.lexemesOf ps)
  where
  number := hps
  behind := by
    rintro q' hq
    obtain rfl := Statement.select.inj hq
    obtain ⟨rest, rfl⟩ := attempt_columns h
    obtain ⟨source, hsource⟩ := lexemesOf_sourcePieces (Scope.qualifying {}) hown
    refine ⟨'\n', source ++ Piece.lexemesOf rest, by decide, ?_⟩
    rw [valuePieces_map hcolumns, Piece.lexemesOf_append, Piece.lexemesOf_append, hsource]
    simp only [List.append_assoc, List.cons_append]

/-- The columns of a query up to one of them. -/
def columnsBefore (init : List Expr) : List Piece :=
  .plain "SELECT " :: (init.map (Expr.pieces .openEdge .ofColumns)).flatMap fun item =>
    item ++ if Piece.textOf item = "" then [] else [.plain ", "]

/-- The columns before one that is not empty, that column, and those behind it are written one after
the other. -/
theorem columns_eq (pieces : Expr → List Piece) {init after : List Expr} {e : Expr}
    (hinit : init.map pieces = init.map (Expr.pieces .openEdge .ofColumns))
    (he : Piece.textOf (pieces e) ≠ "") :
  .plain "SELECT " :: Piece.separated ", " ((init ++ e :: after).map pieces)
    = columnsBefore init ++ (pieces e ++ Piece.separatedAfter ", " (after.map pieces))
  := by
  rw [List.map_append, List.map_cons, Piece.separated_append_cons, hinit,
    Piece.separated_cons_of_ne _ he]
  rfl

/-- The columns of a query up to the source that one of them brings. -/
def columnsUpTo (init : List Expr) (sequence : Sequence) : List Piece :=
  columnsBefore init ++ (sequence.namePieces .openEdge ++ [.plain ".NEXTVAL"])

section

variable {init : List Expr} {e : Expr} {sequence : Sequence} {labels : List Piece}
  (hbrings : e.BringsSource sequence labels) (after : List Expr)
include hbrings

/-- A next value among the columns of a query brings its source in front of its labels and of the
columns behind it. -/
theorem lexemesOf_columns :
  Piece.lexemesOf (.plain "SELECT " :: Piece.separated ", "
      ((init ++ e :: after).map (Expr.pieces .openEdge .ofColumns)))
    = Piece.lexemesOf (columnsUpTo init sequence)
      ++ ((" FROM ".toList ++ OpenEdge.calcTable.toList).map .bare
        ++ Piece.lexemesOf (labels ++ Piece.separatedAfter ", "
          (after.map (Expr.pieces .openEdge .ofColumns))))
  := by
  have hsource : Piece.lexemesOf [.plain (".NEXTVAL FROM " ++ OpenEdge.calcTable)]
      = Piece.lexemesOf [.plain ".NEXTVAL"]
        ++ (" FROM ".toList ++ OpenEdge.calcTable.toList).map .bare := rfl
  rw [columns_eq _ rfl, columnsUpTo, hbrings.pieces, Sequence.nextValuePieces]
  · simp only [Piece.lexemesOf_append, hsource, List.append_assoc]
  · rw [hbrings.pieces, Sequence.nextValuePieces, Ne, Piece.textOf_eq_empty_iff]
    intro h
    have htext := h (.plain (".NEXTVAL FROM " ++ OpenEdge.calcTable)) (by simp)
    simp [Piece.text] at htext

/-- The values of columns up to a next value stand in front of its labels and of the columns behind
it. -/
theorem lexemesOf_columnValues (hinit : ∀ e ∈ init, e.isNextValue = false) :
  Piece.lexemesOf (.plain "SELECT " :: Piece.separated ", "
      ((init ++ e :: after).map (Expr.valuePieces .ofColumns)))
    = Piece.lexemesOf (columnsUpTo init sequence)
      ++ Piece.lexemesOf (labels ++ Piece.separatedAfter ", "
        (after.map (Expr.valuePieces .ofColumns)))
  := by
  rw [columns_eq _ (valuePieces_map hinit), columnsUpTo, hbrings.values]
  · simp only [Piece.lexemesOf_append, List.append_assoc]
  · rw [hbrings.values, Ne, Piece.textOf_eq_empty_iff]
    intro h
    have htext := h (.plain ".NEXTVAL") (by simp)
    simp [Piece.text] at htext

end

/-- A query without a source fits when its last column is its only next value. -/
theorem fits_of_last {init : List Expr} {sequence : Sequence}
    (hcolumns : q.columns = init ++ [.nextValue sequence]) (hps : Piece.froms ps = 1)
    (hinit : ∀ e ∈ init, e.isNextValue = false) (h : q.attempt .openEdge {} = .ok ps) :
  (Statement.select q).FromsFit (Piece.lexemesOf ps)
  where
  number := hps
  behind := by
    rintro q' hq
    obtain rfl := Statement.select.inj hq
    obtain ⟨rest, rfl⟩ := attempt_columns h
    have hbrings := Expr.bringsSource_nextValue sequence
    refine ⟨' ', OpenEdge.calcTable.toList.map .bare ++ Piece.lexemesOf (q.sourcePieces .openEdge
      (Scope.qualifying {}) ++ rest), by decide, ?_⟩
    rw [hcolumns, Piece.lexemesOf_append, lexemesOf_columns hbrings,
      lexemesOf_columnValues hbrings _ hinit]
    simp [Piece.separatedAfter, Piece.lexemesOf]

/-- When a column is a next value and the query fits, the column is the last one. -/
theorem last_of_fits {init after : List Expr} {e : Expr} (hnext : e.isNextValue)
    (hcolumns : q.columns = init ++ e :: after)
    (hinit : ∀ e ∈ init, e.isNextValue = false)
    (h : q.attempt .openEdge {} = .ok ps)
    (hfits : (Statement.select q).FromsFit (Piece.lexemesOf ps)) :
  after = [] ∧ ∃ sequence, e = .nextValue sequence
  := by
  obtain ⟨sequence, labels, hbrings, hlabels⟩ := Expr.exists_bringsSource hnext
  obtain ⟨rest, rfl⟩ := attempt_columns h
  obtain ⟨blank, rest', -, hbehind⟩ := hfits.behind q rfl
  rw [hcolumns, Piece.lexemesOf_append, lexemesOf_columns hbrings,
    lexemesOf_columnValues hbrings _ hinit] at hbehind
  simp only [List.append_assoc, List.append_cancel_left_eq] at hbehind
  obtain ⟨rfl, hsequence⟩ | ⟨labels, rfl⟩ := hlabels
  · cases after with
    | nil => exact ⟨rfl, sequence, hsequence⟩
    | cons next after =>
      -- a source starts with a blank, and what follows a column with a comma
      have hhead := congrArg List.head? hbehind
      simp [Piece.separatedAfter, Piece.lexemesOf, Piece.lexemes] at hhead
  · have hsecond := congrArg (·[1]?) hbehind
    simp [Piece.lexemesOf, Piece.lexemes] at hsecond

/-- The first next value among the columns of a query. -/
theorem exists_first_isNextValue (h : q.columns.any Expr.isNextValue) :
  ∃ init e after, q.columns = init ++ e :: after ∧ Expr.isNextValue e
    ∧ ∀ e ∈ init, Expr.isNextValue e = false
  := by
  obtain ⟨e, he⟩ := Option.isSome_iff_exists.mp (List.find?_isSome.mpr (List.any_eq_true.mp h))
  obtain ⟨hnext, init, after, hsplit, hinit⟩ := List.find?_eq_some_iff_append.mp he
  use init, e, after, hsplit, hnext
  simpa using hinit

/-- A query without a column that is a next value has one FROM clause of its own. -/
theorem ownFroms_of_not_isNextValue (h : ∀ e ∈ q.columns, e.isNextValue = false) :
  (Statement.select q).ownFroms = 1
  := by
  apply if_neg
  rintro ⟨-, hnext⟩
  obtain ⟨e, he, hnext⟩ := List.any_eq_true.mp hnext
  rw [h e he] at hnext
  cases hnext

/-- The FROM clauses of a query fit just when it has no next value, or ends in its only one. -/
theorem fits_iff (hps : Piece.froms ps = (Statement.select q).ownFroms + q.nextValues)
    (h : q.attempt .openEdge {} = .ok ps) :
  (Statement.select q).FromsFit (Piece.lexemesOf ps)
    ↔ q.nextValues = 0 ∨ (Statement.select q).EndsInNextValue
  := by
  have hcolumns : Expr.nextValuesOf false q.columns ≤ q.nextValues := by
    rw [nextValues]
    omega
  constructor
  · intro hfits
    have hnumber : Piece.froms ps = 1 := hfits.number
    by_cases hsource : q.source = none ∧ q.columns.any Expr.isNextValue
    · have hown : (Statement.select q).ownFroms = 0 := if_pos hsource
      obtain ⟨init, e, after, hsplit, hnext, hinit⟩ := exists_first_isNextValue hsource.2
      obtain ⟨rfl, sequence, rfl⟩ := last_of_fits hnext hsplit hinit h hfits
      have hone : q.nextValues = 1 := by omega
      exact .inr ⟨hone, q, init, sequence, rfl, hsource.1, hsplit⟩
    · have hown : (Statement.select q).ownFroms = 1 := if_neg hsource
      left
      omega
  · rintro (hnone | ⟨hone, q', init, sequence, hq, hsource, hsplit⟩)
    · have hnot : ∀ e ∈ q.columns, e.isNextValue = false := by
        apply Expr.isNextValue_eq_false
        omega
      have hown := ownFroms_of_not_isNextValue hnot
      apply fits_of_ownFroms hown (by omega) hnot h
    · obtain rfl := Statement.select.inj hq
      have hone : q.nextValues = 1 := hone
      have hown : (Statement.select q).ownFroms = 0 := by
        apply if_pos
        simp [hsource, hsplit, Expr.isNextValue]
      have hinit : ∀ e ∈ init, e.isNextValue = false := by
        apply Expr.isNextValue_eq_false
        rw [hsplit, Expr.nextValuesOf_append, Expr.nextValuesOf, Expr.nextValues] at hcolumns
        omega
      apply fits_of_last hsplit (by omega) hinit h

end SelectQuery

/-! ## Statements -/

namespace Statement

/-- The FROM clauses of any other statement fit just when it has no next value. -/
theorem fits_iff_of_ne_select {s : Statement} (hs : ∀ q, s ≠ select q) {lexemes : List Lexeme}
    (hlexemes : froms lexemes = s.ownFroms + s.nextValues) :
  s.FromsFit lexemes ↔ s.nextValues = 0 ∨ s.EndsInNextValue
  := by
  have hown : s.ownFroms = s.calledFroms := by
    cases s with
    | select q => cases hs q rfl
    | _ => rfl
  constructor
  · intro hfits
    have hnumber := hfits.number
    left
    omega
  · rintro (hnone | ⟨-, q, init, sequence, hq, -⟩)
    · constructor
      · omega
      · intro q hq
        cases hs q hq
    · cases hs q hq

/-- A statement of OpenEdge has its own FROM clauses and another one for each next value of a
sequence that is written of it.  So it fits exactly when no next value is written of it, or it is
a query without a source that ends its columns in its only one. -/
theorem fromClauses_fit_iff {s : Statement} (hplain : s.IsPlain) {query : CompiledQuery}
    (h : (Style.openEdge.compile s).result = .ok query) :
  ∃ lexemes, scan query.sql.toList = some lexemes
    ∧ froms lexemes = s.ownFroms + s.nextValues
    ∧ (s.FromsFit lexemes ↔ s.nextValues = 0 ∨ s.EndsInNextValue)
  := by
  obtain ⟨ps, hps, -, -, rfl⟩ := Attempt.result_compiled_eq_ok.mp h
  have hnumber := attempt_froms hplain hps
  have hparted : Parted (Piece.Usual IsPlainWord fun _ => True) ps := by
    apply Statement.parted hps
    intro leaf hleaf text htext
    apply hplain leaf.2 (mem_operands_of_mem_leaves hleaf) text htext
  have hscan := hparted.scan_textOf fun text htext c hc =>
    isMark_eq_false_of_isSqlChar (isSqlChar_of_isAnyWord (htext.word c hc))
  refine ⟨Piece.lexemesOf ps, hscan, hnumber, ?_⟩
  cases s with
  | select q => apply SelectQuery.fits_iff hnumber hps
  | _ => apply fits_iff_of_ne_select (fun q hq => by cases hq) hnumber

/-- A query for the number of an order within a shipment. -/
def orderNumber : Statement :=
  select { columns := [.operand (.int 7), .nextValue { name := "orders" }] }

/-- A query that ends in the next value of a sequence has its FROM clause in place. -/
theorem fromClauses_fit_iff_orderNumber :
  ∃ query lexemes, (Style.openEdge.compile orderNumber).result = .ok query
    ∧ scan query.sql.toList = some lexemes ∧ orderNumber.FromsFit lexemes
  := by
  have hplain : orderNumber.IsPlain := by
    have hoperands : orderNumber.operands = [.int 7] := rfl
    intro leaf hleaf text htext
    rw [hoperands, List.mem_singleton] at hleaf
    rw [hleaf] at htext
    cases htext
  have hcompiled : (Style.openEdge.compile orderNumber).result
      = .ok ⟨"SELECT 7, PUB.orders.NEXTVAL FROM SYSPROGRESS.SYSCALCTABLE", []⟩ := by
    decide +kernel
  have hends : orderNumber.EndsInNextValue :=
    ⟨rfl, _, [.operand (.int 7)], { name := "orders" }, rfl, rfl, rfl⟩
  obtain ⟨lexemes, hscan, -, hfits⟩ := fromClauses_fit_iff hplain hcompiled
  exact ⟨_, lexemes, hcompiled, hscan, hfits.mpr (.inr hends)⟩

/-- A query for the number behind the next one. -/
def numberBehind : Statement :=
  select { columns := [.binary .add (.operand (.int 1)) (.nextValue { name := "s" })] }

/-- A next value inside of an operation brings its source although the query has one. -/
theorem fromClauses_numberBehind :
  ∃ query lexemes, (Style.openEdge.compile numberBehind).result = .ok query
    ∧ scan query.sql.toList = some lexemes ∧ froms lexemes = 2 ∧ ¬ numberBehind.FromsFit lexemes
  := by
  have hcompiled : (Style.openEdge.compile numberBehind).result = .ok
      ⟨"SELECT 1 + PUB.s.NEXTVAL FROM SYSPROGRESS.SYSCALCTABLE\nFROM SYSPROGRESS.SYSCALCTABLE",
        []⟩ := by
    decide +kernel
  have hfroms : (scan ("SELECT 1 + PUB.s.NEXTVAL FROM SYSPROGRESS.SYSCALCTABLE"
      ++ "\nFROM SYSPROGRESS.SYSCALCTABLE").toList).map froms = some 2 := by
    decide +kernel
  obtain ⟨lexemes, hscan, htwo⟩ := Option.map_eq_some_iff.mp hfroms
  refine ⟨_, lexemes, hcompiled, hscan, htwo, ?_⟩
  intro hfits
  have hone : froms lexemes = 1 := hfits.number
  omega

end Statement

end SqlDialect
