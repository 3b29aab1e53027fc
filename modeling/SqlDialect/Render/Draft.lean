import SqlDialect.Page
import SqlDialect.Render.Piece
import SqlDialect.Render.Scope

/-!
# Drafts

A draft is the text of a statement as far as it is written, with what its writer keeps
beside it: the place where the writing stands, the parameters so far, and the first failure
that could only be recorded.  Writing changes a draft in place and may stop at a failure,
and what was written before then stays written.  Another part of the statement is entered
for as long as something is written in it: the part left is entered again afterwards, also
when the writing stops, but columns stay qualified once they are.
-/

namespace SqlDialect

/-- What the writer of a statement keeps beside its text. -/
structure Notes where
  scope : Scope := {}
  parameters : List Value := []
  /-- The first failure recorded where the writing does not stop. -/
  recorded? : Option Failure := none
  /-- The first moment without a timestamp in UTC; nothing comes of a draft that lost one. -/
  lost? : Option Moment := none
deriving DecidableEq

/-- The scope behind a part of the statement that was entered from it: columns stay qualified or
unqualified as that part leaves them. -/
def Scope.backFrom (before inner : Scope) : Scope :=
  { before with qualified := inner.qualified }

/-- A statement as far as it is written. -/
abbrev Draft := Page Notes

/-- A draft of which nothing is written. -/
def Draft.blank : Draft := ⟨"", {}⟩

/-- A change of a draft, which stops at a failure. -/
abbrev Writing := ExceptT Failure (StateM Draft)

namespace Writing

/-- How the writing ends on a draft, and the draft that it leaves. -/
def on {α : Type} (w : Writing α) (d : Draft) : Except Failure α × Draft :=
  w.run.run d

/-- More text. -/
def append (text : String) : Writing Unit :=
  modify (Page.append text)

/-- A change of what is kept beside the text. -/
def note (change : Notes → Notes) : Writing Unit :=
  modify fun d => { d with state := change d.state }

/-- The place where the writing stands. -/
def scope : Writing Scope :=
  return (← get).state.scope

/-- A marker, and the value bound to it. -/
def mark (value : Value) : Writing Unit := do
  append "?"
  note fun n => { n with parameters := n.parameters ++ [value] }

/-- A failure at which the writing does not stop.  Only the first one is kept. -/
def record (failure : Failure) : Writing Unit :=
  note fun n => if n.recorded?.isNone then { n with recorded? := some failure } else n

/-- A moment that cannot be written.  Only the first one is kept. -/
def lose (moment : Moment) : Writing Unit :=
  note fun n => if n.lost?.isNone then { n with lost? := some moment } else n

/-- The writing stops at a fault. -/
def refuse (fault : CompileFault) : Writing Unit :=
  throw (.ofFault fault)

/-- The writing stops at the fault if there is one. -/
def check (fault : Option CompileFault) : Writing Unit :=
  fault.forM refuse

/-- What is written only under a condition. -/
def given (condition : Prop) [Decidable condition] (w : Writing Unit) : Writing Unit :=
  if condition then w else pure ()

/-- Columns are qualified from here on. -/
def qualify : Writing Unit :=
  note fun n => { n with scope := n.scope.qualifying }

/-- Values are written as literals from here on. -/
def inlineValues : Writing Unit :=
  note fun n => { n with scope := n.scope.inlining }

/-- Another part of the statement is entered. -/
def enter (clause : Clause) : Writing Unit :=
  note fun n => { n with scope := n.scope.entering clause }

/-- The part of the statement that was left is entered again, and values are written as there. -/
def goBack (before : Scope) : Writing Unit :=
  note fun n => { n with scope := before.backFrom n.scope }

/-- What is written in another part of the statement. -/
def switching (clause : Clause) (w : Writing Unit) : Writing Unit := do
  let before ← scope
  enter clause
  try w finally goBack before

/-- What is written in another part of the statement, with values as literals. -/
def literally (clause : Clause) (w : Writing Unit) : Writing Unit :=
  switching clause do
    inlineValues
    w

/-- What is written in parentheses where needed. -/
def enclosed (needed : Prop) [Decidable needed] (w : Writing Unit) : Writing Unit :=
  if needed then do
    append "("
    w
    append ")"
  else w

/-- The text of what is written. -/
def textWritten (w : Writing Unit) : Writing (List Char) := do
  let before ← get
  w
  let after ← get
  return after.text.toList.drop before.text.length

/-- The writing of an item on a page. -/
def onPage (w : Writing Unit) (d : Draft) : Draft × Option Failure :=
  match w.on d with
  | (.ok _, after) => (after, none)
  | (.error failure, after) => (after, some failure)

/-- Items one after the other, with separators, until the writing of one stops. -/
def separated (separator : String) (items : List (Writing Unit)) : Writing Unit := do
  let (after, failure) := Page.trySeparated separator onPage items (← get)
  set after
  failure.forM throw

end Writing

end SqlDialect
