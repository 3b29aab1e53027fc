import SqlDialect.Failure.Cause

/-!
# Failures

A failure is a cause under the contexts in which it was met.  Its chain has a link for each
context, the outermost first, for the cause, and for each error that the cause wraps, and
its message joins their texts.  Its kind and its driver errors come from the cause and what
it wraps, whatever the contexts say.  It is a disconnect when a driver error in its chain
says by its code that the link is broken, timed out or closed, or when the whole text of
the failure contains one of two phrases.

A report has the log records of an operation beside its result.  An operation that fails for
a reason of its own logs the whole text of the failure once, as an error; one that hands a
failure on logs nothing more, and neither does one whose failure ends everything.
-/

namespace SqlDialect

/-- What was being done when a failure was met. -/
inductive Context
  | executing (query : String)
  | readingNextValue (sequence : String)
  | readingServerVersion
  | pinging
  | connecting (url : String)
  | checkingOut
  | selectingDialect (url : String)
  | noting (text : String)
  | driver (error : DriverError)
deriving DecidableEq

/-- The text of a context. -/
def Context.text : Context → String
  | executing query => "While executing the query:\n" ++ query
  | readingNextValue sequence => "While reading the next value of `" ++ sequence ++ "`"
  | readingServerVersion => "While reading the OpenEdge server version"
  | pinging => "While pinging the connection"
  | connecting url => "While trying to connect to `" ++ url ++ "`"
  | checkingOut => "While checking out an OpenEdge connection"
  | selectingDialect url => "While selecting the dialect for `" ++ url ++ "`"
  | noting text => text
  | driver error => error.text

/-- A cause under the contexts in which it was met, the outermost first. -/
structure Failure where
  contexts : List Context
  cause : Cause
deriving DecidableEq

/-- A link in the chain of a failure. -/
inductive Link
  | context (context : Context)
  | cause (cause : Cause)
  | source (source : Source)
deriving DecidableEq

/-- The text of a link. -/
def Link.text : Link → String
  | context c => c.text
  | cause c => c.text
  | source s => s.text

/-- The driver error that a link is.  A context is none, not even when it has the text of one. -/
def Link.driverError? : Link → Option DriverError
  | context _ => none
  | cause c => c.driverError?
  | source s => s.driverError?

namespace Failure

/-- The failure with the given cause and no context. -/
def ofCause (cause : Cause) : Failure := ⟨[], cause⟩

/-- The failure of a statement that has no SQL. -/
def ofFault (fault : CompileFault) : Failure := ofCause (.compilation fault)

/-- The failure, met while doing what `context` says. -/
def within (context : Context) (f : Failure) : Failure :=
  { f with contexts := context :: f.contexts }

/-- The chain of a failure: its contexts, the outermost first, its cause, and what that wraps. -/
def links (f : Failure) : List Link :=
  f.contexts.map .context ++ .cause f.cause :: f.cause.sources.map .source

/-- The texts of the chain. -/
def chain (f : Failure) : List String :=
  f.links.map Link.text

/-- The whole text of a failure. -/
def message (f : Failure) : String :=
  ": ".intercalate f.chain

/-- The text of the outermost context or, without contexts, of the cause. -/
def headline (f : Failure) : String :=
  f.chain.headD ""

/-- The driver errors in the chain, the outermost first. -/
def driverErrors (f : Failure) : List DriverError :=
  f.links.filterMap Link.driverError?

end Failure

/-- The kinds of failure that callers tell apart. -/
inductive FailureKind
  | driver
  | unsupportedType
  | typeMismatch
  | compilation
  | outsideCalendar
  | other
deriving DecidableEq

/-- The kind of a failure. -/
def Failure.kind (f : Failure) : FailureKind :=
  match f.cause with
  | .driver _ => .driver
  | .wrapped _ _ => if f.driverErrors.isEmpty then .other else .driver
  | .unsupportedType _ => .unsupportedType
  | .typeMismatch _ _ => .typeMismatch
  | .compilation _ => .compilation
  | .outsideCalendar _ => .outsideCalendar
  | _ => .other

/-! ## Disconnects -/

/-- The driver codes of a broken link, a timeout and a closed connection. -/
def disconnectCodes : List String := ["08S01", "HYT00", "08003"]

/-- The phrases of a lost connection. -/
def disconnectPhrases : List String := ["Socket closed", "connection is not available"]

/-- The text has the phrase in it. -/
def mentions (phrase : List Char) : List Char → Bool
  | [] => phrase.isEmpty
  | c :: rest => phrase.isPrefixOf (c :: rest) || mentions phrase rest

/-- The failure means that the connection is lost. -/
def Failure.isDisconnect (f : Failure) : Bool :=
  (f.driverErrors.any fun error => disconnectCodes.contains error.code)
  || disconnectPhrases.any fun phrase => mentions phrase.toList f.message.toList

/-! ## Reports -/

/-- How serious a log record is. -/
inductive LogLevel
  | error
  | warning
deriving DecidableEq

/-- A log record. -/
structure LogRecord where
  level : LogLevel
  text : String
deriving DecidableEq

/-- The record of a failure. -/
def Failure.record (f : Failure) : LogRecord := ⟨.error, f.message⟩

/-- The result of an operation and what it logged, the oldest record first. -/
structure Report (α : Type) where
  result : Except Failure α
  log : List LogRecord

namespace Report

/-- A success that logs nothing. -/
def ok {α : Type} (x : α) : Report α := ⟨.ok x, []⟩

/-- A failure that is logged. -/
def fail {α : Type} (f : Failure) : Report α := ⟨.error f, [f.record]⟩

/-- A failure that ends everything, of which nothing is logged. -/
def unlogged {α : Type} (f : Failure) : Report α := ⟨.error f, []⟩

/-- The first report and, when it is a success, the one that follows from it. -/
def bind {α β : Type} (r : Report α) (next : α → Report β) : Report β :=
  match r.result with
  | .ok x => ⟨(next x).result, r.log ++ (next x).log⟩
  | .error f => ⟨.error f, r.log⟩

instance : Monad Report where
  pure := ok
  bind := bind

end Report

end SqlDialect
