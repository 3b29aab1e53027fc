import SqlDialect.Failure.Basic
import SqlDialect.Render.Compile
import SqlDialect.Url.Scheme
import SqlDialect.Value.Bit

/-!
# Dialects

A dialect is what a caller has to know of a database reached through a driver: its
abilities, its spelling of SQL, the form in which its parameters travel, and which
failures mean that the connection is lost.  A registry finds dialects by key or by the scheme
of a connection URL, `family+driver` standing for the key `family.driver`.  Its keys are in
ascending order, each with the last dialect that was given for it.
-/

namespace SqlDialect

/-! ## Capabilities -/

/-- The abilities of a database, under its name. -/
structure Capabilities where
  name : String
  /-- It has booleans of its own; otherwise they travel as integers. -/
  nativeBoolean : Bool
  /-- The counts of affected rows that it reports are reliable. -/
  saneRowCount : Bool
  /-- Statements may contain other than ASCII text. -/
  unicodeStatements : Bool
  /-- Compiled statements may be kept for later executions. -/
  statementCache : Bool
  /-- It has sequences. -/
  sequences : Bool
deriving DecidableEq

namespace Capabilities

/-- What can be expected of an unknown database. -/
def generic : Capabilities where
  name := "generic"
  nativeBoolean := true
  saneRowCount := true
  unicodeStatements := true
  statementCache := false
  sequences := true

/-- The abilities of OpenEdge. -/
def openEdge : Capabilities where
  name := "openedge"
  nativeBoolean := false
  saneRowCount := true
  unicodeStatements := true
  statementCache := true
  sequences := true

end Capabilities

/-! ## Dialects -/

/-- A database as reached through a driver. -/
structure Dialect where
  driver : String
  capabilities : Capabilities
  style : Style
  defaultSchema : String
  encode : Value → Value := id
  isDisconnect : Failure → Bool := fun _ => false

namespace Dialect

/-- The key of a dialect: the name of the database and the driver. -/
def key (d : Dialect) : String :=
  d.capabilities.name ++ "." ++ d.driver

/-- The parameters as they travel. -/
def bind (d : Dialect) (parameters : List Value) : List Value :=
  parameters.map d.encode

/-- The SQL of a statement, with its parameters as they travel. -/
def compile (d : Dialect) (s : Statement) : Report CompiledQuery := do
  let query ← d.style.compile s
  return { query with parameters := d.bind query.parameters }

/-- The SQL of a statement, with its parameters as they travel, and the statement as it is left. -/
def compileInPlace (d : Dialect) (s : Statement) : Report CompiledQuery × Statement :=
  (d.compile s, s.prepared d.style)

/-- OpenEdge through the given driver. -/
def openEdge (driver : String) : Dialect where
  driver := driver
  capabilities := .openEdge
  style := .openEdge
  defaultSchema := OpenEdge.userSchema
  encode := Value.encodeBit
  isDisconnect := Failure.isDisconnect

/-- OpenEdge through the blocking driver. -/
def odbc : Dialect := openEdge "odbc"

/-- OpenEdge through the driver that does not block. -/
def odbcAsync : Dialect := openEdge "odbc-async"

/-- A database of standard SQL kept in memory. -/
def memory : Dialect where
  driver := "memory"
  capabilities := .generic
  style := .generic
  defaultSchema := "public"

end Dialect

/-! ## Registries -/

/-- Dialects under ascending keys. -/
structure Registry where
  entries : List (String × Dialect)

namespace Registry

/-- The entries with one more, in the place of any with its key. -/
def insert (key : String) (d : Dialect) : List (String × Dialect) → List (String × Dialect)
  | [] => [(key, d)]
  | (k, e) :: rest =>
    if key < k then (key, d) :: (k, e) :: rest
    else if key = k then (key, d) :: rest
    else (k, e) :: insert key d rest

/-- The registry of the given entries, of which a later one replaces an earlier one. -/
def ofList (entries : List (String × Dialect)) : Registry where
  entries := entries.foldl (fun sorted entry => insert entry.1 entry.2 sorted) []

/-- The keys, in ascending order. -/
def keys (r : Registry) : List String :=
  r.entries.map (·.1)

/-- The dialect with the given key. -/
def find? (r : Registry) (key : String) : Option Dialect :=
  (r.entries.find? fun entry => entry.1 = key).map (·.2)

/-- There is a dialect with the given key. -/
def contains (r : Registry) (key : String) : Bool :=
  (r.find? key).isSome

/-- The dialect with the given key; a key without one is reported. -/
def load (r : Registry) (key : String) : Report Dialect :=
  match r.find? key with
  | some d => .ok d
  | none => .fail (.ofCause (.unknownDialect key r.keys))

/-- The key that a scheme stands for: its first plus sign becomes a point. -/
def keyOfScheme? (scheme : List Char) : Option String :=
  match scheme.span (· ≠ '+') with
  | (family, _ :: driver) => some (String.ofList (family ++ '.' :: driver))
  | (_, []) => none

/-- The dialect that the scheme of a URL stands for. -/
def fromUrl (r : Registry) (url : String) : Report Dialect :=
  match Url.scheme url.toList with
  | .error fault => .fail ((Failure.ofCause (.url fault)).within (.selectingDialect url))
  | .ok scheme =>
    match keyOfScheme? scheme with
    | some key => r.load key
    | none =>
      .fail ((Failure.ofCause (.schemeForm (String.ofList scheme))).within (.selectingDialect url))

/-- The dialects of OpenEdge. -/
def openEdge : Registry :=
  ofList [("openedge.odbc", .odbc), ("openedge.odbc-async", .odbcAsync)]

end Registry

end SqlDialect
