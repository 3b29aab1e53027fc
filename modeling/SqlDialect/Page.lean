/-!
# Pages

A page is a text that grows, with what its writer keeps beside it.  The items of a list are
written to it one after the other with separators.  Whether a separator is due is told from the
length of the text: it stands in front of an item when the text has grown since the item before
was begun.
-/

namespace SqlDialect

/-- A text that is written to, and the state of the writer. -/
structure Page (σ : Type) where
  text : String
  state : σ
deriving DecidableEq

namespace Page

variable {α σ ε : Type}

/-- The page with more text. -/
def append (text : String) (page : Page σ) : Page σ := { page with text := page.text ++ text }

/-- The length of the text in bytes. -/
def length (page : Page σ) : Nat := page.text.utf8ByteSize

/-- The items are written until one fails, and a separator in front of each when the text is longer
than it was when the item before was begun. -/
def trySeparatedFrom (separator : String) (write : α → Page σ → Page σ × Option ε) :
    (begun : Nat) → List α → Page σ → Page σ × Option ε
  | _, [], page => (page, none)
  | begun, item :: rest, page =>
    let page := if begun < page.length then page.append separator else page
    match write item page with
    | (next, none) => trySeparatedFrom separator write page.length rest next
    | (stopped, some failure) => (stopped, some failure)

/-- The items are written with separators until one fails. -/
def trySeparated (separator : String) (write : α → Page σ → Page σ × Option ε) (items : List α)
    (page : Page σ) : Page σ × Option ε :=
  trySeparatedFrom separator write page.length items page

/-- The items are written with separators, by a writer that cannot fail. -/
def separated (separator : String) (write : α → Page σ → Page σ) (items : List α)
    (page : Page σ) : Page σ :=
  let written : Page σ × Option Empty :=
    trySeparated separator (fun item page => (write item page, none)) items page
  written.1

end Page

end SqlDialect
