import Mathlib
import SqlDialect.Proofs.Text.Scan
import SqlDialect.Render.Literal

/-!
# Names that stand bare

Looking a word up by halving finds exactly the words of a table in ascending order, and the
tables of reserved words are in ascending order.  So a name stands bare in SQL exactly when it
is a word of letters, digits and underscores that no digit starts and that equals no reserved
word up to the case of letters; every other name is quoted.
-/

namespace SqlDialect

/-! ## Looking words up -/

section

variable {word middle : String} {table above : List String}

theorem foundIn_nil :
  foundIn word [] = false
  := by
  rw [foundIn]
  rfl

theorem foundIn_eq_of_drop_eq (h : table.drop (table.length / 2) = middle :: above) :
  foundIn word table
    = if word = middle then true
      else if word < middle then foundIn word (table.take (table.length / 2))
      else foundIn word above
  := by
  rw [foundIn]
  split
  next hupper =>
    rw [h] at hupper
    cases hupper
  next hupper =>
    rw [h] at hupper
    obtain ⟨rfl, rfl⟩ := List.cons.inj hupper
    rfl

theorem mem_iff_of_drop_eq {n : Nat} (h : table.drop n = middle :: above) :
  word ∈ table ↔ word ∈ table.take n ∨ word = middle ∨ word ∈ above
  := by
  rw [← List.mem_cons, ← h, ← List.mem_append, List.take_append_drop]

theorem pairwise_iff_of_drop_eq {n : Nat} (h : table.drop n = middle :: above) :
  table.Pairwise (· < ·)
    ↔ (table.take n).Pairwise (· < ·) ∧ (middle :: above).Pairwise (· < ·)
      ∧ ∀ x ∈ table.take n, ∀ y ∈ middle :: above, x < y
  := by
  rw [← List.pairwise_append, ← h, List.take_append_drop]

/-- A word is found in a table in ascending order exactly when the table has it. -/
theorem foundIn_iff_mem (h : table.Pairwise (· < ·)) :
  foundIn word table ↔ word ∈ table
  := by
  induction table using foundIn.induct word with
  | case1 table hupper =>
    have hlength := List.drop_eq_nil_iff.mp hupper
    obtain rfl := List.eq_nil_of_length_eq_zero (show table.length = 0 by omega)
    simp [foundIn_nil]
  | case2 table above hupper =>
    rw [foundIn_eq_of_drop_eq hupper, mem_iff_of_drop_eq hupper]
    simp
  | case3 table middle above hupper hne hlt ih =>
    obtain ⟨hbelow, habove, -⟩ := (pairwise_iff_of_drop_eq hupper).mp h
    -- whatever stands above the middle is greater than the word
    have hnot : word ∉ above := by
      intro hmem
      apply String.lt_irrefl word
      apply String.lt_trans hlt (List.rel_of_pairwise_cons habove hmem)
    rw [foundIn_eq_of_drop_eq hupper, mem_iff_of_drop_eq hupper, if_neg hne, if_pos hlt, ih hbelow]
    simp [hne, hnot]
  | case4 table middle above hupper hne hlt ih =>
    obtain ⟨-, habove, hless⟩ := (pairwise_iff_of_drop_eq hupper).mp h
    have hnot : word ∉ table.take (table.length / 2) := by
      intro hmem
      apply hlt (hless word hmem middle List.mem_cons_self)
    rw [foundIn_eq_of_drop_eq hupper, mem_iff_of_drop_eq hupper, if_neg hne, if_neg hlt,
      ih habove.of_cons]
    simp [hne, hnot]

end

/-! ## Letter case -/

/-- The texts are equal up to the case of ASCII letters. -/
def EqualIgnoringCase (x y : String) : Prop := x.map Char.toLower = y.map Char.toLower

/-- Texts are equal up to case when they have the same capital letters. -/
theorem map_toUpper_eq_iff {x y : String} :
  x.map Char.toUpper = y.map Char.toUpper ↔ EqualIgnoringCase x y
  := by
  constructor
  · intro h
    have hlower := congrArg (String.map Char.toLower) h
    simpa [EqualIgnoringCase, String.map_map, Function.comp_def] using hlower
  · intro h
    have hupper := congrArg (String.map Char.toUpper) h
    simpa [EqualIgnoringCase, String.map_map, Function.comp_def] using hupper

/-! ## Reserved words -/

theorem standardReserved_ascending :
  standardReserved.Pairwise (· < ·)
  := by
  apply List.isChain_iff_pairwise.mp
  decide +kernel

theorem openEdgeReserved_ascending :
  openEdgeReserved.Pairwise (· < ·)
  := by
  apply List.isChain_iff_pairwise.mp
  decide +kernel

namespace Style

variable {style : Style} {name : String}

/-- The words that a style reserves. -/
def reserved : Style → List String
  | standard _ => standardReserved
  | openEdge => openEdgeReserved

/-- A word is reserved exactly when it equals a reserved word up to case. -/
theorem isReserved_iff (style : Style) (name : String) :
  style.isReserved name ↔ ∃ word ∈ style.reserved, EqualIgnoringCase name word
  := by
  cases style with
  | standard needed =>
    have hlower : ∀ word ∈ standardReserved, word.map Char.toLower = word := by decide +kernel
    rw [isReserved, foundIn_iff_mem standardReserved_ascending]
    constructor
    · intro h
      exact ⟨_, h, (hlower _ h).symm⟩
    · rintro ⟨word, hword, h⟩
      rw [EqualIgnoringCase, hlower word hword] at h
      rwa [h]
  | openEdge =>
    have hupper : ∀ word ∈ openEdgeReserved, word.map Char.toUpper = word := by decide +kernel
    rw [isReserved, foundIn_iff_mem openEdgeReserved_ascending]
    constructor
    · intro h
      exact ⟨_, h, map_toUpper_eq_iff.mp (hupper _ h).symm⟩
    · rintro ⟨word, hword, h⟩
      rw [← map_toUpper_eq_iff, hupper word hword] at h
      rwa [h]

/-! ## Standing bare -/

/-- The character can stand in a bare name: capital letters only in OpenEdge. -/
def Admits (style : Style) (c : Char) : Prop :=
  c.isLower ∨ c.isDigit ∨ c = '_' ∨ (style = openEdge ∧ c.isUpper)

/-- The name can stand in SQL as it is. -/
structure StandsBare (style : Style) (name : String) : Prop where
  nonempty : name ≠ ""
  admitted : ∀ c ∈ name.toList, style.Admits c
  start : ∀ c ∈ name.toList.head?, ¬ c.isDigit
  unreserved : ∀ word ∈ style.reserved, ¬ EqualIgnoringCase name word

theorem isLowerWord_iff (needed : Bool) {c : Char} :
  isLowerWord c ↔ (standard needed).Admits c
  := by
  simp only [isLowerWord, isLowerStart, Admits, Bool.or_eq_true, decide_eq_true_eq, reduceCtorEq,
    false_and, or_false]
  tauto

theorem isLowerStart_iff (needed : Bool) {c : Char} :
  isLowerStart c ↔ (standard needed).Admits c ∧ ¬ c.isDigit
  := by
  have hletter : c.isLower → ¬ c.isDigit := by
    simp only [Char.isLower, Char.isDigit, Bool.and_eq_true, decide_eq_true_eq,
      UInt32.le_iff_toNat_le]
    simp
    omega
  have hunderscore : c = '_' → ¬ c.isDigit := by
    rintro rfl
    decide
  simp only [isLowerStart, Admits, Bool.or_eq_true, decide_eq_true_eq, reduceCtorEq, false_and,
    or_false]
  tauto

theorem isAnyWord_iff {c : Char} :
  isAnyWord c ↔ openEdge.Admits c
  := by
  simp only [isAnyWord, Admits, Char.isAlphanum, Char.isAlpha, Bool.or_eq_true, decide_eq_true_eq,
    true_and]
  tauto

/-- The shape of a name that can stand bare. -/
theorem isWord_iff {chars : List Char} :
  style.isWord chars
    ↔ chars ≠ [] ∧ (∀ c ∈ chars, style.Admits c) ∧ ∀ c ∈ chars.head?, ¬ c.isDigit
  := by
  cases chars with
  | nil => cases style <;> simp [isWord]
  | cons first rest =>
    rw [List.forall_mem_cons, List.head?_cons]
    cases style with
    | standard needed =>
      simp only [isWord, Bool.and_eq_true, List.all_eq_true, isLowerStart_iff needed,
        isLowerWord_iff needed, Option.mem_some_iff, forall_eq', ne_eq, reduceCtorEq,
        not_false_eq_true, true_and]
      tauto
    | openEdge =>
      simp only [isWord, Bool.and_eq_true, List.all_cons, List.all_eq_true, isAnyWord_iff,
        Bool.not_eq_true', Option.mem_some_iff, forall_eq', ne_eq, reduceCtorEq,
        not_false_eq_true, true_and, Bool.not_eq_true]
      tauto

/-- A name needs no quotes exactly when it can stand bare. -/
theorem needsQuotes_eq_false_iff :
  style.needsQuotes name = false ↔ style.StandsBare name
  := by
  rw [needsQuotes, Bool.or_eq_false_iff, Bool.not_eq_false', isWord_iff, ← Bool.not_eq_true,
    isReserved_iff]
  constructor
  · rintro ⟨⟨hne, hadmitted, hstart⟩, hreserved⟩
    refine ⟨?_, hadmitted, hstart, ?_⟩
    · rintro rfl
      apply hne rfl
    · intro word hword h
      apply hreserved ⟨word, hword, h⟩
  · rintro ⟨hne, hadmitted, hstart, hfree⟩
    refine ⟨⟨?_, hadmitted, hstart⟩, ?_⟩
    · intro h
      apply hne (String.toList_eq_nil_iff.mp h)
    · rintro ⟨word, hword, h⟩
      apply hfree word hword h

/-- A name that can stand bare is written as it is, and every other name as a quoted token. -/
theorem text_identifier_eq_iff :
  (style.identifier name).text = name ↔ style.StandsBare name
  := by
  rw [← needsQuotes_eq_false_iff, identifier]
  split
  next h =>
    simp only [h, Bool.true_eq_false, iff_false]
    intro htext
    apply Text.quote_ne_self '"' name.toList
    simpa [Piece.text] using congrArg String.toList htext
  next h => simpa [Piece.text] using h

theorem toList_text_identifier (h : ¬ style.StandsBare name) :
  (style.identifier name).text.toList = Text.quote '"' name.toList
  := by
  rw [← needsQuotes_eq_false_iff, Bool.not_eq_false] at h
  simp [identifier, h, Piece.text]

end Style

end SqlDialect
