/-!
# Texts

Numbers in decimal notation: integers with their sign, natural numbers with a least count
of digits, fractions without zeros at their end, and the number that a run of digits
denotes.  The characters with the Unicode property White_Space, and what goes by them:
trimming the ends of a text and splitting a text into words.  Quoted tokens, which are texts
between two marks, in which each mark of the content stands twice: string literals take the
apostrophe as their mark, quoted identifiers the quotation mark.
-/

namespace SqlDialect.Text

/-! ## Digits -/

/-- The decimal digits of a natural number. -/
def digits (n : Nat) : List Char := Nat.toDigits 10 n

/-- An integer in decimal notation. -/
def integer (n : Int) : String :=
  String.ofList ((if n < 0 then ['-'] else []) ++ digits n.natAbs)

/-- The decimal digits of `n`, with zeros in front up to `width` digits. -/
def paddedDigits (width n : Nat) : List Char :=
  List.replicate (width - (digits n).length) '0' ++ digits n

/-- The text of the decimal digits of `n`, with zeros in front up to `width` digits. -/
def padded (width n : Nat) : String :=
  String.ofList (paddedDigits width n)

/-- The places of the fraction `n / 10 ^ width`, without the zeros at their end. -/
def fraction (width n : Nat) : String :=
  String.ofList ((paddedDigits width n).reverse.dropWhile (· = '0')).reverse

/-- The value of a hexadecimal digit, in either letter case. -/
def hexValue? (c : Char) : Option Nat :=
  if c.isDigit then some (c.toNat - '0'.toNat)
  else if 'a' ≤ c ∧ c ≤ 'f' then some (c.toNat - 'a'.toNat + 10)
  else if 'A' ≤ c ∧ c ≤ 'F' then some (c.toNat - 'A'.toNat + 10)
  else none

/-- The number that a run of digits denotes. -/
def numberOf (run : List Char) : Nat :=
  run.foldl (fun n c => 10 * n + (c.toNat - '0'.toNat)) 0

/-- The number that a run of hexadecimal digits denotes. -/
def hexNumberOf (run : List Char) : Nat :=
  run.foldl (fun n c => 16 * n + (hexValue? c).getD 0) 0

/-! ## Blank characters -/

/-- The code points with the property White_Space, as closed ranges in ascending order. -/
def blankRanges : List (Nat × Nat) :=
  [(0x09, 0x0D), (0x20, 0x20), (0x85, 0x85), (0xA0, 0xA0), (0x1680, 0x1680), (0x2000, 0x200A),
    (0x2028, 0x2029), (0x202F, 0x202F), (0x205F, 0x205F), (0x3000, 0x3000)]

/-- A character is blank when its code point has the property White_Space. -/
def isBlank (c : Char) : Bool :=
  blankRanges.any fun range => range.1 ≤ c.toNat && c.toNat ≤ range.2

/-- The text without the blanks at its start. -/
def trimStart (text : List Char) : List Char :=
  text.dropWhile isBlank

/-- The text without the blanks at its end. -/
def trimEnd (text : List Char) : List Char :=
  (text.reverse.dropWhile isBlank).reverse

/-- The text without the blanks at its ends. -/
def trim (text : List Char) : List Char :=
  trimEnd (trimStart text)

/-- The maximal runs of characters that are not blank, in order. -/
def words (text : List Char) : List (List Char) :=
  (text.splitOnP isBlank).filter fun word => !word.isEmpty

/-! ## Quoted tokens -/

/-- The text in which each occurrence of `search` is replaced by `replacement`. -/
def substitute (search : Char) (replacement : List Char) (text : List Char) : List Char :=
  text.flatMap fun c => if c = search then replacement else [c]

/-- The text in which each `mark` stands twice. -/
def double (mark : Char) (text : List Char) : List Char :=
  substitute mark [mark, mark] text

/-- The quoted token with the given content. -/
def quote (mark : Char) (content : List Char) : List Char :=
  mark :: double mark content ++ [mark]

end SqlDialect.Text
