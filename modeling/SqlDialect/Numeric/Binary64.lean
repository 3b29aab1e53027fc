import SqlDialect.Text.Basic

/-!
# Binary floating point numbers

A 64-bit binary floating point number is kept as its bits, so that every zero and every
NaN stays what it is.  A finite one is `significand * 2 ^ scale`, up to the sign.

It is written as the decimal with the fewest digits that reads back as the number.  A decimal
reads back as `x` when it lies in the interval of the reals that round to `x`, whose ends
belong to it exactly when the significand of `x` is even.  Among the decimals of the least
length the one nearest to `x` is taken; which of two equally near ones is left to the caller.
The decimal is written positionally, with a digit on each side of the point, when the exponent
of its leading digit lies in a given range, and with an exponent otherwise.  The sign of a
zero is written.
-/

namespace SqlDialect

/-- A 64-bit binary floating point number, as its bits. -/
structure Binary64 where
  bits : UInt64
deriving DecidableEq, Repr

namespace Binary64

/-- The sign bit. -/
def isNegative (x : Binary64) : Bool :=
  x.bits.toNat / Nat.pow 2 63 = 1

/-- The eleven bits of the exponent. -/
def exponentBits (x : Binary64) : Nat :=
  x.bits.toNat / Nat.pow 2 52 % Nat.pow 2 11

/-- The fifty-two bits of the fraction. -/
def fractionBits (x : Binary64) : Nat :=
  x.bits.toNat % Nat.pow 2 52

/-- Neither an infinity nor a NaN. -/
def isFinite (x : Binary64) : Bool :=
  x.exponentBits ≠ 2047

/-- Not a number. -/
def isNaN (x : Binary64) : Bool :=
  x.exponentBits = 2047 && x.fractionBits ≠ 0

/-- One of the two zeros. -/
def isZero (x : Binary64) : Bool :=
  x.exponentBits = 0 && x.fractionBits = 0

/-- The integer that a finite number scales by a power of two. -/
def significand (x : Binary64) : Nat :=
  if x.exponentBits = 0 then x.fractionBits else Nat.pow 2 52 + x.fractionBits

/-- The power of two that scales the significand of a finite number. -/
def scale (x : Binary64) : Int :=
  if x.exponentBits = 0 then -1074 else (x.exponentBits : Int) - 1075

/-- The gap to the neighbour below is half the gap to the neighbour above: the significand is a
power of two and the number is not the least normal one. -/
def isNarrowBelow (x : Binary64) : Bool :=
  x.fractionBits = 0 && x.exponentBits > 1

/-- Equality of numbers: a NaN equals nothing, and the two zeros are equal. -/
def same (x y : Binary64) : Bool :=
  !x.isNaN && !y.isNaN && (x.bits = y.bits || x.isZero && y.isZero)

end Binary64

/-! ## Shortest decimals -/

/-- The decimal `coefficient * 10 ^ exponent`. -/
structure Scientific where
  coefficient : Nat
  exponent : Int
deriving DecidableEq, Repr

/-- Which of two equally near decimals is taken. -/
inductive Tie
  | toEven
  | upward
deriving DecidableEq, Repr

namespace Scientific

/-- How `d` compares with `n * 2 ^ scale`. -/
def compareBinary (d : Scientific) (n : Nat) (scale : Int) : Ordering :=
  compare (d.coefficient * Nat.pow 10 d.exponent.toNat * Nat.pow 2 (-scale).toNat)
    (n * Nat.pow 2 scale.toNat * Nat.pow 10 (-d.exponent).toNat)

/-- The integer part of `n * 2 ^ scale / 10 ^ exponent`. -/
def floorOf (n : Nat) (scale exponent : Int) : Nat :=
  n * Nat.pow 2 scale.toNat * Nat.pow 10 (-exponent).toNat
    / (Nat.pow 2 (-scale).toNat * Nat.pow 10 exponent.toNat)

/-- The coefficient without the zeros at its end, which move into the exponent. -/
def normalize (d : Scientific) : Scientific :=
  if d.coefficient ≠ 0 ∧ d.coefficient % 10 = 0 then
    normalize ⟨d.coefficient / 10, d.exponent + 1⟩
  else d
termination_by d.coefficient
decreasing_by omega

end Scientific

namespace Binary64

/-- The decimal lies among the reals that round to the finite number `x`. -/
def isReadFrom (x : Binary64) (d : Scientific) : Bool :=
  let below := 4 * x.significand - if x.isNarrowBelow then 1 else 2
  let above := 4 * x.significand + 2
  let closed := x.significand % 2 == 0
  let toBelow := d.compareBinary below (x.scale - 2)
  let toAbove := d.compareBinary above (x.scale - 2)
  (toBelow == .gt || closed && toBelow == .eq) && (toAbove == .lt || closed && toAbove == .eq)

/-- The least `k` such that the finite number `x`, which is not zero, is less than `10 ^ k` in
magnitude. -/
def magnitude (x : Binary64) : Int :=
  let whole := Scientific.floorOf x.significand x.scale 0
  if whole ≠ 0 then (Nat.toDigits 10 whole).length
  else
    let inverse := (Nat.pow 2 (-x.scale).toNat - 1) / x.significand
    1 - ((Nat.toDigits 10 inverse).length : Int)

/-- Of the two neighbours of `x` on the grid of the multiples of `10 ^ exponent`, the one that
reads back as `x`, or the nearer one when both do. -/
def onGrid? (tie : Tie) (x : Binary64) (exponent : Int) : Option Scientific :=
  let low : Scientific := ⟨Scientific.floorOf x.significand x.scale exponent, exponent⟩
  let high : Scientific := ⟨low.coefficient + 1, exponent⟩
  match x.isReadFrom low, x.isReadFrom high with
  | true, false => some low
  | false, true => some high
  | false, false => none
  | true, true =>
    let middle : Scientific := ⟨low.coefficient + high.coefficient, exponent⟩
    match middle.compareBinary (2 * x.significand) x.scale, tie with
    | .gt, _ => some low
    | .lt, _ => some high
    | .eq, .upward => some high
    | .eq, .toEven => some (if low.coefficient % 2 = 0 then low else high)

/-- The exact decimal value of a finite number. -/
def exactDecimal (x : Binary64) : Scientific :=
  if 0 ≤ x.scale then ⟨x.significand * Nat.pow 2 x.scale.toNat, 0⟩
  else ⟨x.significand * Nat.pow 5 (-x.scale).toNat, x.scale⟩

/-- The shortest decimal that reads back as the magnitude of the finite number `x`: grids are
tried from the coarsest on, and seventeen digits always suffice. -/
def shortest (tie : Tie) (x : Binary64) : Scientific :=
  if x.isZero then ⟨0, 0⟩
  else
    let found := (List.range 17).findSome? fun digits : Nat =>
      x.onGrid? tie (x.magnitude - (digits + 1 : Nat))
    (found.getD x.exactDecimal).normalize

end Binary64

/-! ## Layouts -/

/-- The decisions of a layout. -/
structure FloatLayout where
  /-- The least exponent of the leading digit that is written positionally. -/
  plainFrom : Int
  /-- The least exponent above it that no longer is. -/
  plainBelow : Int
  /-- The choice between two equally near shortest decimals. -/
  tie : Tie
deriving DecidableEq, Repr

namespace FloatLayout

/-- The decimal written with its point, at least one digit on each side. -/
def positional (d : Scientific) : List Char :=
  let digits := Text.digits d.coefficient
  if 0 ≤ d.exponent then
    digits ++ List.replicate d.exponent.toNat '0' ++ ['.', '0']
  else
    let places := (-d.exponent).toNat
    if places < digits.length then
      digits.take (digits.length - places) ++ '.' :: digits.drop (digits.length - places)
    else '0' :: '.' :: List.replicate (places - digits.length) '0' ++ digits

/-- The exponent of the leading digit. -/
def leadingExponent (d : Scientific) : Int :=
  d.exponent + ((Text.digits d.coefficient).length : Int) - 1

/-- The decimal written with an exponent, one digit before the point. -/
def exponential (d : Scientific) : List Char :=
  let mantissa := match Text.digits d.coefficient with
    | first :: second :: rest => first :: '.' :: second :: rest
    | digits => digits
  mantissa ++ 'e' :: (Text.integer (leadingExponent d)).toList

/-- The text of a number. -/
def render (layout : FloatLayout) (x : Binary64) : String :=
  if x.isNaN then "NaN"
  else
    let sign := if x.isNegative then ['-'] else []
    if !x.isFinite then String.ofList (sign ++ ['i', 'n', 'f'])
    else
      let d := x.shortest layout.tie
      let isPlain := x.isZero || layout.plainFrom ≤ leadingExponent d
        && leadingExponent d < layout.plainBelow
      String.ofList (sign ++ if isPlain then positional d else exponential d)

end FloatLayout

end SqlDialect
