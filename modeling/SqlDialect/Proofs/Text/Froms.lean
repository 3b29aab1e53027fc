import Mathlib.Tactic.Common
import SqlDialect.Identifier
import SqlDialect.Proofs.Text.Scan

/-!
# Counting the keyword FROM

How often the keyword FROM stands in a text outside of quoted tokens, as a word of its own
and in any letter case.  The number for two texts one after the other is the sum of their
numbers when no word goes on from the first to the second.
-/

namespace SqlDialect.Text

namespace Lexeme

/-- The lexeme is part of a word: a letter, a digit or an underscore outside of quoted tokens. -/
def isWord : Lexeme → Bool
  | bare c => isAnyWord c
  | quoted _ _ => false

/-- The lexeme in upper case, unless it is a quoted token. -/
def upper : Lexeme → Lexeme
  | bare c => bare c.toUpper
  | quoted mark content => quoted mark content

end Lexeme

/-- The lexemes spell the keyword FROM, in any letter case. -/
def isFrom (word : List Lexeme) : Bool :=
  word.map Lexeme.upper = "FROM".toList.map .bare

/-- How often the keyword FROM stands among lexemes, as a word of its own. -/
def froms (lexemes : List Lexeme) : Nat :=
  (lexemes.splitOnP fun l => !l.isWord).countP isFrom

/-- No word goes on into the lexemes. -/
def StartsApart (lexemes : List Lexeme) : Prop :=
  ∀ l ∈ lexemes.head?, l.isWord = false

/-- No word goes on from the lexemes. -/
def EndsApart (lexemes : List Lexeme) : Prop :=
  ∀ l ∈ lexemes.getLast?, l.isWord = false

variable {xs ys : List Lexeme}

@[simp]
theorem froms_nil :
  froms [] = 0
  := rfl

/-- What is no part of a word separates words. -/
theorem froms_append_cons {l : Lexeme} (h : l.isWord = false) :
  froms (xs ++ l :: ys) = froms xs + froms ys
  := by
  rw [froms, List.splitOnP_append_cons _ _ (by simp [h]), List.countP_append]
  rfl

theorem froms_cons {l : Lexeme} (h : l.isWord = false) :
  froms (l :: ys) = froms ys
  := by
  rw [← List.nil_append (l :: ys), froms_append_cons h, froms_nil, Nat.zero_add]

theorem froms_append_of_startsApart (h : StartsApart ys) :
  froms (xs ++ ys) = froms xs + froms ys
  := by
  cases ys with
  | nil => simp
  | cons l ys =>
    have hl : l.isWord = false := h l rfl
    rw [froms_append_cons hl, froms_cons hl]

theorem froms_append_of_endsApart (h : EndsApart xs) :
  froms (xs ++ ys) = froms xs + froms ys
  := by
  obtain rfl | ⟨init, l, rfl⟩ := xs.eq_nil_or_concat
  · simp
  · have hl : l.isWord = false := h l (by simp)
    have hinit : froms (init ++ [l]) = froms init := by rw [froms_append_cons hl]; rfl
    rw [List.concat_eq_append, List.append_assoc, List.singleton_append, froms_append_cons hl,
      hinit]

/-- A word is the keyword FROM or not. -/
theorem froms_of_isWord (h : ∀ l ∈ xs, l.isWord) :
  froms xs = if isFrom xs then 1 else 0
  := by
  have hsingle : (xs.splitOnP fun l => !l.isWord) = [xs] := by
    apply List.splitOnP_eq_singleton
    intro l hl
    simp [h l hl]
  rw [froms, hsingle, List.countP_singleton]

theorem mem_of_mem_splitOnP {α : Type} {p : α → Bool} {xs word : List α} {x : α}
    (hword : word ∈ xs.splitOnP p) (hx : x ∈ word) :
  x ∈ xs
  := by
  induction xs generalizing word with
  | nil =>
    rw [List.splitOnP_nil, List.mem_singleton] at hword
    subst hword
    cases hx
  | cons y xs ih =>
    rw [List.splitOnP_cons_eq_if_modifyHead] at hword
    split at hword
    · obtain rfl | hword := List.mem_cons.mp hword
      · cases hx
      · apply List.mem_cons_of_mem y (ih hword hx)
    · obtain ⟨first, rest, hsplit⟩ := List.exists_cons_of_ne_nil (List.splitOnP_ne_nil p xs)
      rw [hsplit, List.modifyHead_cons] at hword
      rw [hsplit] at ih
      obtain rfl | hword := List.mem_cons.mp hword
      · obtain rfl | hx := List.mem_cons.mp hx
        · apply List.mem_cons_self
        · apply List.mem_cons_of_mem y (ih List.mem_cons_self hx)
      · apply List.mem_cons_of_mem y (ih (List.mem_cons_of_mem first hword) hx)

/-- Without an O there is no keyword FROM. -/
theorem froms_eq_zero (h : ∀ l ∈ xs, l.upper ≠ .bare 'O') :
  froms xs = 0
  := by
  rw [froms, List.countP_eq_zero]
  intro word hword hfrom
  have hspelled : word.map Lexeme.upper = "FROM".toList.map .bare := by simpa [isFrom] using hfrom
  have hletter : .bare 'O' ∈ word.map Lexeme.upper := by
    rw [hspelled]
    decide
  obtain ⟨l, hl, hupper⟩ := List.mem_map.mp hletter
  apply h l (mem_of_mem_splitOnP hword hl) hupper

end SqlDialect.Text
