import SqlDialect.Text.Basic

/-!
# Positions in bytes

Positions in a text are counted in the bytes that it takes in UTF-8, and a part is cut out of
it between two positions, neither of them inside of a character.  A copy in which another text
stands for a character is made of such parts: what has not been copied yet is cut out when the
character is found again, and at the end.  What a log line or an error message shows of a
query is an excerpt: its start, limited in bytes, without blanks at its end, and followed by
an ellipsis when something was cut off.  The place of the cut is also found by a search, from
the limit towards the start, for a position that is not inside of a character.
-/

namespace SqlDialect.Text

/-! ## Parts and copies -/

/-- The bytes that a text takes in UTF-8. -/
def byteLength : List Char → Nat
  | [] => 0
  | c :: rest => c.utf8Size + byteLength rest

/-- The text in front of a position and the text behind it; there is none inside of a character or
beyond the end. -/
def splitAt? : (position : Nat) → List Char → Option (List Char × List Char)
  | 0, text => some ([], text)
  | _ + 1, [] => none
  | position + 1, c :: rest =>
    if c.utf8Size ≤ position + 1 then
      (splitAt? (position + 1 - c.utf8Size) rest).map fun parts => (c :: parts.1, parts.2)
    else none

/-- The part of a text between two positions. -/
def slice? (start stop : Nat) (text : List Char) : Option (List Char) := do
  let (upTo, _) ← splitAt? stop text
  let (_, part) ← splitAt? start upTo
  return part

/-- The characters of a text with their positions, of which the first is given. -/
def placedFrom (position : Nat) : List Char → List (Nat × Char)
  | [] => []
  | c :: rest => (position, c) :: placedFrom (position + c.utf8Size) rest

/-- The copy of `text`, whose remaining characters have yet to be searched.  What is found of it in
front of `position` has been copied to `out`. -/
def copyFrom? (search : Char) (replacement text : List Char) :
    (position : Nat) → (remaining : List (Nat × Char)) → (out : List Char) → Option (List Char)
  | position, [], out => do
    let part ← slice? position (byteLength text) text
    return out ++ part
  | position, (place, c) :: remaining, out =>
    if c = search then do
      let part ← slice? position place text
      copyFrom? search replacement text (place + c.utf8Size) remaining (out ++ part ++ replacement)
    else copyFrom? search replacement text position remaining out

/-- The text `out` with a copy of `text` at its end, in which each occurrence of `search` is
replaced by `replacement`.  There is none when a part would have to be cut out inside of a
character. -/
def copyReplacing? (search : Char) (replacement text out : List Char) : Option (List Char) :=
  copyFrom? search replacement text 0 (placedFrom 0 text) out

/-! ## Excerpts -/

/-- The longest beginning of the text that takes at most `limit` bytes in UTF-8. -/
def takeBytes : (limit : Nat) → List Char → List Char
  | _, [] => []
  | limit, c :: rest =>
    if c.utf8Size ≤ limit then c :: takeBytes (limit - c.utf8Size) rest else []

/-- An excerpt shows at most this many bytes of its text. -/
def excerptLimit : Nat := 497

/-- The excerpt of a text: a text within the limit only loses the blanks at its end. -/
def excerpt (text : List Char) : List Char :=
  let shown := takeBytes excerptLimit text
  trimEnd shown ++ if shown.length < text.length then ['.', '.', '.'] else []

/-- The position is not inside of a character, and not beyond the end. -/
def isBoundary (position : Nat) (text : List Char) : Bool :=
  (splitAt? position text).isSome

/-- The first boundary that is met from a position towards the start.  There is none when the
search would go on below the start. -/
def boundaryUpTo? (text : List Char) (position : Nat) : Option Nat :=
  if isBoundary position text then some position
  else
    match position with
    | 0 => none
    | position + 1 => boundaryUpTo? text position

/-- The excerpt of a text, cut at the first boundary from the limit towards the start.  There is
none when the search fails or the text would have to be cut inside of a character. -/
def excerpt? (text : List Char) : Option (List Char) := do
  let stop ← boundaryUpTo? text (min (byteLength text) excerptLimit)
  let shown ← slice? 0 stop text
  return trimEnd shown ++ if stop < byteLength text then ['.', '.', '.'] else []

end SqlDialect.Text
