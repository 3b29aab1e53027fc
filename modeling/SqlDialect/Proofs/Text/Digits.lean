import Mathlib.Data.List.DropRight
import Mathlib.Data.Nat.Digits.Defs
import SqlDialect.Text.Basic

/-!
# Runs of digits

The number that a run of digits denotes is read back from the digits of a number, with
zeros in front or not, and from the places of a fraction, which are its digits up to zeros
at their end.
-/

namespace SqlDialect.Text

theorem isDigit_of_mem_digits {n : Nat} {c : Char} (h : c ∈ digits n) :
  c.isDigit
  := Nat.isDigit_of_mem_toDigits (by decide) (by decide) h

theorem numberOf_eq_ofDigitChars (run : List Char) :
  numberOf run = Nat.ofDigitChars 10 run 0
  := by
  rw [numberOf, Nat.ofDigitChars_eq_foldl]

theorem numberOf_digits (n : Nat) :
  numberOf (digits n) = n
  := by
  rw [numberOf_eq_ofDigitChars]
  apply Nat.ofDigitChars_toDigits (by decide) (by decide)

theorem integer_natCast (n : Nat) :
  integer n = String.ofList (digits n)
  := by
  simp [integer, Int.not_lt.mpr (Int.natCast_nonneg n)]

/-! ## Zeros in front -/

theorem isDigit_of_mem_paddedDigits {width n : Nat} {c : Char} (h : c ∈ paddedDigits width n) :
  c.isDigit
  := by
  obtain h | h := List.mem_append.mp h
  · rw [List.eq_of_mem_replicate h]
    decide
  · apply isDigit_of_mem_digits h

theorem paddedDigits_ne_nil (width n : Nat) :
  paddedDigits width n ≠ []
  := List.append_ne_nil_of_right_ne_nil _ Nat.toDigits_ne_nil

theorem numberOf_paddedDigits (width n : Nat) :
  numberOf (paddedDigits width n) = n
  := by
  rw [numberOf_eq_ofDigitChars, paddedDigits, Nat.ofDigitChars_append,
    Nat.ofDigitChars_replicate_zero, Nat.mul_zero, ← numberOf_eq_ofDigitChars, numberOf_digits]

theorem length_paddedDigits {width n : Nat} (hwidth : 0 < width) (h : n < 10 ^ width) :
  (paddedDigits width n).length = width
  := by
  have hdigits : (digits n).length ≤ width :=
    (Nat.length_toDigits_le_iff (by decide) hwidth).mpr h
  rw [paddedDigits, List.length_append, List.length_replicate, Nat.sub_add_cancel hdigits]

/-! ## Places of fractions -/

theorem numberOf_append_zeros (run : List Char) (count : Nat) :
  numberOf (run ++ List.replicate count '0') = numberOf run * 10 ^ count
  := by
  rw [numberOf_eq_ofDigitChars, numberOf_eq_ofDigitChars, Nat.ofDigitChars_append,
    Nat.ofDigitChars_replicate_zero, Nat.mul_comm]

/-- The places of a fraction, with the zeros at their end, are the digits with zeros in front. -/
theorem exists_fraction_append (width n : Nat) :
  ∃ count, (fraction width n).toList ++ List.replicate count '0' = paddedDigits width n
  := by
  use ((paddedDigits width n).rtakeWhile (· = '0')).length
  have hzeros : ∀ c ∈ (paddedDigits width n).rtakeWhile (· = '0'), c = '0' := by
    intro c hc
    simpa using List.mem_rtakeWhile_imp hc
  rw [fraction, String.toList_ofList, ← List.eq_replicate_of_mem hzeros]
  apply List.rdropWhile_append_rtakeWhile

section Fractions

variable {width n : Nat}

theorem isDigit_of_mem_fraction {c : Char} (h : c ∈ (fraction width n).toList) :
  c.isDigit
  := by
  obtain ⟨count, hplaces⟩ := exists_fraction_append width n
  have hmem : c ∈ paddedDigits width n := by
    rw [← hplaces]
    apply List.mem_append_left _ h
  apply isDigit_of_mem_paddedDigits hmem

/-- There is no zero at the end of a fraction. -/
theorem getLast?_fraction_ne (width n : Nat) :
  (fraction width n).toList.getLast? ≠ some '0'
  := by
  rw [fraction, String.toList_ofList, List.getLast?_reverse]
  intro h
  have hfirst := List.head?_dropWhile_not (· = '0') (paddedDigits width n).reverse
  rw [h] at hfirst
  simp at hfirst

theorem fraction_ne_nil (h : n ≠ 0) :
  (fraction width n).toList ≠ []
  := by
  intro hnil
  obtain ⟨count, hplaces⟩ := exists_fraction_append width n
  have hnumber := numberOf_paddedDigits width n
  rw [← hplaces, numberOf_append_zeros, hnil] at hnumber
  apply h
  rw [← hnumber]
  apply Nat.zero_mul

/-- The places of a fraction denote it, by their number. -/
theorem numberOf_fraction (hwidth : 0 < width) (h : n < 10 ^ width) :
  (fraction width n).toList.length ≤ width
    ∧ numberOf (fraction width n).toList * 10 ^ (width - (fraction width n).toList.length) = n
  := by
  obtain ⟨count, hplaces⟩ := exists_fraction_append width n
  have hlength := length_paddedDigits hwidth h
  rw [← hplaces, List.length_append, List.length_replicate] at hlength
  constructor
  · omega
  · rw [← Nat.eq_sub_of_add_eq' hlength, ← numberOf_append_zeros, hplaces, numberOf_paddedDigits]

end Fractions

end SqlDialect.Text
