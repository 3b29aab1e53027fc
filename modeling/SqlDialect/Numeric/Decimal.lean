import SqlDialect.Text.Basic

/-!
# Decimals

A decimal has a sign, up to ninety-six bits of digits and up to twenty-eight places after the
point.  Its places belong to it: `1.0` and `1.00` are the same number written differently.  So
does its sign: `-0` is zero, and is written with its sign.
-/

namespace SqlDialect

/-- The decimal `magnitude / 10 ^ places` with a sign. -/
structure Decimal where
  isNegative : Bool
  magnitude : Nat
  places : Nat
  magnitude_lt : magnitude < Nat.pow 2 96
  places_le : places ≤ 28
deriving DecidableEq

namespace Decimal

/-- The digits as an integer with the sign. -/
def mantissa (x : Decimal) : Int :=
  if x.isNegative then -x.magnitude else x.magnitude

/-- The decimal with the given mantissa and places, when both are within bounds. -/
def ofParts? (mantissa : Int) (places : Nat) : Option Decimal :=
  if h : mantissa.natAbs < Nat.pow 2 96 ∧ places ≤ 28 then
    some ⟨mantissa < 0, mantissa.natAbs, places, h.1, h.2⟩
  else none

/-- A 64-bit integer as a decimal without places. -/
def ofInt64 (n : Int64) : Decimal where
  isNegative := n.toInt < 0
  magnitude := n.toInt.natAbs
  places := 0
  magnitude_lt := by have := n.toInt_lt; have := n.le_toInt; rw [Nat.pow_eq]; omega
  places_le := by decide

/-- Equality of numbers, whatever their places and whatever the sign of a zero. -/
def same (x y : Decimal) : Bool :=
  x.mantissa * Int.pow 10 y.places = y.mantissa * Int.pow 10 x.places

/-- The integer part, which is what stands before the point. -/
def truncate (x : Decimal) : Int :=
  x.mantissa.tdiv (Int.pow 10 x.places)

/-- The decimal with its sign and all its places. -/
def text (x : Decimal) : String :=
  let digits := Text.paddedDigits (x.places + 1) x.magnitude
  let whole := digits.take (digits.length - x.places)
  let fraction := digits.drop (digits.length - x.places)
  String.ofList ((if x.isNegative then ['-'] else []) ++ whole
    ++ if x.places = 0 then [] else '.' :: fraction)

end Decimal

end SqlDialect
