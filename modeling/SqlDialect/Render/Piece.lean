import SqlDialect.Failure.Basic
import SqlDialect.Text.Basic
import SqlDialect.Value.Basic

/-!
# Pieces of SQL

SQL is rendered as a list of pieces, which say more than their text: which parts are
quoted tokens, which value each marker is bound to, and where something without SQL was
left out.  The text, the parameters and the first fault of a rendering are read off its
pieces, so a marker and its parameter cannot come apart.  An attempt to render something is
the pieces written and, if it had to stop, the failure it stopped at: what was written before
a failure stays written.
-/

namespace SqlDialect

/-! ## Pieces -/

/-- A piece of SQL. -/
inductive Piece
  /-- Text as it is. -/
  | plain (text : String)
  /-- A quoted token. -/
  | quoted (mark : Char) (content : String)
  /-- A marker with the value bound to it. -/
  | marker (value : Value)
  /-- A place where something without SQL was left out. -/
  | fault (failure : Failure)
  /-- A place where a moment without a timestamp in UTC was left out. -/
  | outsideCalendar (moment : Moment)
deriving DecidableEq

namespace Piece

/-- The text of a piece. -/
def text : Piece → String
  | plain text => text
  | quoted mark content => String.ofList (Text.quote mark content.toList)
  | marker _ => "?"
  | fault _ => ""
  | outsideCalendar _ => ""

/-- The value bound to a piece. -/
def parameter? : Piece → Option Value
  | marker value => some value
  | _ => none

/-- The failure recorded at a piece. -/
def failure? : Piece → Option Failure
  | fault failure => some failure
  | _ => none

/-- The moment that a piece could not write. -/
def moment? : Piece → Option Moment
  | outsideCalendar moment => some moment
  | _ => none

/-- The text of a rendering. -/
def textOf (pieces : List Piece) : String :=
  String.join (pieces.map text)

/-- The parameters of a rendering, in the order of their markers. -/
def parametersOf (pieces : List Piece) : List Value :=
  pieces.filterMap parameter?

/-- The first failure recorded in a rendering. -/
def failureOf? (pieces : List Piece) : Option Failure :=
  pieces.findSome? failure?

/-- The first moment that a rendering could not write. -/
def momentOf? (pieces : List Piece) : Option Moment :=
  pieces.findSome? moment?

/-- The renderings one after the other.  One with a text is followed by the separator when another
comes after it, whatever the text of that one; one without a text is followed by none. -/
def separated (separator : String) : List (List Piece) → List Piece
  | [] => []
  | [item] => item
  | item :: rest =>
    item ++ (if textOf item = "" then [] else [plain separator]) ++ separated separator rest

end Piece

/-! ## Attempts -/

/-- What was written, and the failure at which the writing stopped. -/
structure Attempt where
  written : List Piece
  failure : Option Failure

namespace Attempt

/-- Everything was written. -/
def ok (pieces : List Piece) : Attempt := ⟨pieces, none⟩

/-- Nothing was written because of a fault. -/
def fail (fault : CompileFault) : Attempt := ⟨[], some (.ofFault fault)⟩

/-- The second attempt after the first, unless the first stopped. -/
def andThen (first second : Attempt) : Attempt :=
  match first.failure with
  | none => ⟨first.written ++ second.written, second.failure⟩
  | some _ => first

instance : Append Attempt := ⟨andThen⟩

/-- The fault, if there is one, stops the attempt before anything is written. -/
def checked (fault : Option CompileFault) (attempt : Attempt) : Attempt :=
  match fault with
  | none => attempt
  | some fault => fail fault

/-- The attempts one after the other until one stops, separated like renderings. -/
def separated (separator : String) : List Attempt → Attempt
  | [] => ok []
  | [item] => item
  | item :: rest =>
    item ++ ok (if Piece.textOf item.written = "" then [] else [.plain separator])
      ++ separated separator rest

end Attempt

end SqlDialect
