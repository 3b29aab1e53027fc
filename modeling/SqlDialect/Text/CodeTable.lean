import SqlDialect.Text.Basic

/-!
# Tables of code points

A table gives lists of values to code points, and is written down as lines of text: entries
with blanks in between, in hexadecimal notation.  The entry `a=x_y` gives the values `x` and `y`
to `a`, and `a-b=x_y` gives them to each code point from `a` to `b`.  In `a+b=x` the value
grows along with the code point, and in `a:b=x` it also does, but only every second one has
a value.  A table that is only to say which code points it covers leaves out the values.
-/

namespace SqlDialect.Text

/-- Code points from the first to the last, in steps, and the values of the first; those of the
others are the same, or grow along. -/
structure CodeEntry where
  first : Nat
  last : Nat
  step : Nat
  grows : Bool
  values : List Nat
deriving DecidableEq

/-- A table of code points. -/
abbrev CodeTable := List CodeEntry

namespace CodeEntry

/-- The entry that a word stands for. -/
def ofWord (word : List Char) : CodeEntry :=
  let (key, rest) := word.span (· ≠ '=')
  let values := ((rest.drop 1).splitOn '_').filter (· ≠ [])
  let (first, ending) := key.span fun c => (hexValue? c).isSome
  match ending with
  | [] => ⟨hexNumberOf first, hexNumberOf first, 1, false, values.map hexNumberOf⟩
  | mark :: last =>
    ⟨hexNumberOf first, hexNumberOf last, if mark = ':' then 2 else 1, mark ≠ '-',
      values.map hexNumberOf⟩

/-- The values of a code point, when it belongs to the entry. -/
def values? (e : CodeEntry) (point : Nat) : Option (List Nat) :=
  if e.first ≤ point ∧ point ≤ e.last ∧ (point - e.first) % e.step = 0 then
    some (if e.grows then e.values.map (· + (point - e.first)) else e.values)
  else none

end CodeEntry

namespace CodeTable

/-- The table that lines of text stand for. -/
def ofLines (lines : List String) : CodeTable :=
  lines.flatMap fun line => (line.toList.splitOn ' ').map CodeEntry.ofWord

/-- The values of a character, by the first entry that it belongs to. -/
def values? (t : CodeTable) (c : Char) : Option (List Nat) :=
  t.findSome? (CodeEntry.values? · c.toNat)

/-- The character belongs to an entry. -/
def covers (t : CodeTable) (c : Char) : Bool :=
  (t.values? c).isSome

end CodeTable

end SqlDialect.Text
