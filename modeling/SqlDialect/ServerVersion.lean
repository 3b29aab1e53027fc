import SqlDialect.Text.Basic

/-!
# Server versions

The version of a server: three numbers, all zero when it is unknown.  It is read from the
first three runs of digits in a text, where missing runs count as zero.
-/

namespace SqlDialect

/-- The version of a server. -/
structure ServerVersion where
  major : UInt16
  minor : UInt16
  patch : UInt16
deriving DecidableEq

namespace ServerVersion

/-- The unknown version. -/
def unknown : ServerVersion := ⟨0, 0, 0⟩

/-- The version is unknown. -/
def isUnknown (v : ServerVersion) : Bool := v = unknown

/-- The three numbers with points in between. -/
def text (v : ServerVersion) : String :=
  Text.integer v.major.toNat ++ "." ++ Text.integer v.minor.toNat ++ "."
    ++ Text.integer v.patch.toNat

/-- The runs of ASCII digits in a text, in order. -/
def runs (text : List Char) : List (List Char) :=
  (text.splitOnP fun c => !c.isDigit).filter fun run => !run.isEmpty

/-- The number that a run of digits denotes, when it is below 2^16. -/
def part? (run : List Char) : Option UInt16 :=
  if Text.numberOf run < UInt16.size then some (UInt16.ofNat (Text.numberOf run)) else none

/-- The version that a text shows, blanks around it apart. -/
def parse? (text : List Char) : Option ServerVersion :=
  match runs (Text.trim text) with
  | [] => none
  | major :: rest => do
    let minor := rest.headD ['0']
    let patch := rest.tail.headD ['0']
    some ⟨← part? major, ← part? minor, ← part? patch⟩

/-- The order of versions, by the first number in which they differ. -/
def order (v w : ServerVersion) : Ordering :=
  (compare v.major w.major).then ((compare v.minor w.minor).then (compare v.patch w.patch))

end ServerVersion

end SqlDialect
