/-!
# Punycode

Labels that stand for text beyond ASCII.  A label has the ASCII characters of its text in
front of the last hyphen, and behind it digits in base thirty-six that tell which other
characters are inserted, in ascending order, and where.  The digits form numbers of
varying length, least digit first: a digit below a threshold ends its number, and the
thresholds adapt to the numbers before.
-/

namespace SqlDialect.Url.Punycode

/-- The value of a digit. -/
def digit? (c : Char) : Option Nat :=
  if c.isLower then some (c.toNat - 'a'.toNat)
  else if c.isDigit then some (c.toNat - '0'.toNat + 26)
  else none

/-- How far a label has been read. -/
structure Reading where
  /-- The text so far. -/
  text : List Char
  /-- The code point inserted last. -/
  point : Nat := 128
  /-- The place behind the character inserted last. -/
  start : Nat := 0
  /-- The place behind it plus what the number being read amounts to so far. -/
  index : Nat := 0
  /-- The weight of the next digit. -/
  weight : Nat := 1
  /-- Thirty-six times the position of the next digit in its number, counted from one. -/
  place : Nat := 36
  bias : Nat := 72

namespace Reading

/-- A digit below the threshold ends its number. -/
def threshold (r : Reading) : Nat :=
  max 1 (min 26 (r.place - r.bias))

/-- The bias for the numbers to come, after one that amounts to `delta`. -/
def adapt (delta : Nat) : Nat :=
  if 455 < delta then 36 + adapt (delta / 35) else 36 * delta / (delta + 38)
termination_by delta
decreasing_by omega

/-- The reading with one more digit, inside a number. -/
def extend (r : Reading) (digit : Nat) : Reading :=
  { r with
    index := r.index + digit * r.weight
    weight := r.weight * (36 - r.threshold)
    place := r.place + 36 }

/-- The reading with one more digit, which ends its number: a character is inserted, the next one
in the order of places and code points that is so many away. -/
def finish? (r : Reading) (digit : Nat) : Option Reading :=
  let index := r.index + digit * r.weight
  let length := r.text.length + 1
  let point := r.point + index / length
  let delta := (index - r.start) / if r.start = 0 then 700 else 2
  if point.isValidChar then
    some {
      text := r.text.insertIdx (index % length) (Char.ofNat point)
      point
      start := index % length + 1
      index := index % length + 1
      bias := adapt (delta + delta / length) }
  else none

/-- The text that digits lead to, unless a number has no end. -/
def read? (r : Reading) : List Char → Option (List Char)
  | [] => if r.weight = 1 then some r.text else none
  | c :: rest => do
    let digit ← digit? c
    if digit < r.threshold then
      let r ← r.finish? digit
      r.read? rest
    else (r.extend digit).read? rest

end Reading

/-- The text of a label in lower case. -/
def decode? (label : List Char) : Option (List Char) :=
  match label.reverse.span (· ≠ '-') with
  | (digits, _ :: basic@(_ :: _)) =>
    if basic.all (·.toNat < 128) then Reading.read? { text := basic.reverse } digits.reverse
    else none
  | _ => Reading.read? { text := [] } label

end SqlDialect.Url.Punycode
