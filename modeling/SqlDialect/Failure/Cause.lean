import SqlDialect.Calendar.Timestamp
import SqlDialect.Text.Basic

/-!
# Causes of failure

What can go wrong, as data: a fault in a statement, a fault in a URL, an error of the
driver, and so on, each with its text.
-/

namespace SqlDialect

/-- An error of the driver: its code and its message. -/
structure DriverError where
  code : String
  message : String
deriving DecidableEq

/-- The code in brackets and the message. -/
def DriverError.text (e : DriverError) : String :=
  "[" ++ e.code ++ "] " ++ e.message

/-- An error behind another one: an error of the driver, or any other of which the text is known. -/
inductive Source
  | driver (error : DriverError)
  | stated (text : String)
deriving DecidableEq

/-- The text of an error behind another one. -/
def Source.text : Source → String
  | driver error => error.text
  | stated text => text

/-- The driver error that stands behind another error. -/
def Source.driverError? : Source → Option DriverError
  | driver error => some error
  | stated _ => none

/-- Why a statement has no SQL. -/
inductive CompileFault
  | selectWithoutColumns
  | limitWithFetch
  | fetchPercent
  | fetchWithTies
  | negativeCount (clause : String)
  | nonIntegerCount (clause found : String)
  | blankCount (clause : String)
  | insertWithoutRows
  | insertRowLength (values columns : Nat)
  | updateWithoutAssignments
  | tableWithoutColumns (table : String)
  | constraintWithoutColumns (table : String)
  | foreignKeyLength (table : String) (columns referenced : Nat)
  | varcharWithoutLength
  | stated (text : String)
deriving DecidableEq

/-- The text of a fault in a statement. -/
def CompileFault.text : CompileFault → String
  | selectWithoutColumns => "SELECT without columns"
  | limitWithFetch => "LIMIT cannot be combined with FETCH FIRST"
  | fetchPercent => "FETCH FIRST ... PERCENT is not supported"
  | fetchWithTies => "FETCH FIRST ... WITH TIES is not supported"
  | negativeCount clause => clause ++ " expects a non negative row count"
  | nonIntegerCount clause found => clause ++ " expects an integer row count, found " ++ found
  | blankCount clause => clause ++ " expression did not render to SQL"
  | insertWithoutRows => "INSERT without rows"
  | insertRowLength values columns =>
    "INSERT row has " ++ Text.integer values ++ " values but " ++ Text.integer columns
      ++ " columns are listed"
  | updateWithoutAssignments => "UPDATE without assignments"
  | tableWithoutColumns table => "CREATE TABLE " ++ table ++ " without columns"
  | constraintWithoutColumns table => "Constraint on " ++ table ++ " without columns"
  | foreignKeyLength table columns referenced =>
    "Foreign key on " ++ table ++ " lists " ++ Text.integer columns ++ " columns but references "
      ++ Text.integer referenced
  | varcharWithoutLength => "VARCHAR requires a length on OpenEdge"
  | stated text => text

/-- Why a text is no URL. -/
inductive UrlFault
  | noScheme
  | emptyHost
  | domainCharacter
  | internationalDomain
  | ipv4Address
  | ipv6Address
  | port
deriving DecidableEq

/-- The text of a fault in a URL. -/
def UrlFault.text : UrlFault → String
  | noScheme => "relative URL without a base"
  | emptyHost => "empty host"
  | domainCharacter => "invalid domain character"
  | internationalDomain => "invalid international domain name"
  | ipv4Address => "invalid IPv4 address"
  | ipv6Address => "invalid IPv6 address"
  | port => "invalid port number"

/-- The reason of a failure, with the errors behind it when it wraps some. -/
inductive Cause
  | driver (error : DriverError)
  | wrapped (text : String) (sources : List Source)
  | unsupportedType (name : String)
  | typeMismatch (expected found : String)
  | compilation (fault : CompileFault)
  | outsideCalendar (moment : Moment)
  | url (fault : UrlFault)
  | schemeForm (scheme : String)
  | unknownDialect (key : String) (available : List String)
  | stated (text : String)
deriving DecidableEq

/-- The text of a cause, without those of the errors it wraps. -/
def Cause.text : Cause → String
  | driver error => error.text
  | wrapped text _ => text
  | unsupportedType name => "Unsupported column type `" ++ name ++ "`"
  | typeMismatch expected found => "Type mismatch: expected " ++ expected ++ ", found " ++ found
  | compilation fault => "Compilation error: " ++ fault.text
  | outsideCalendar _ => "The moment lies outside the years -9999 to 9999 in UTC"
  | url fault => fault.text
  | schemeForm scheme =>
    "Connection url scheme `" ++ scheme ++ "` must have the form `<family>+<driver>`"
  | unknownDialect key available =>
    "No dialect registered as `" ++ key ++ "` (available: " ++ ", ".intercalate available ++ ")"
  | stated text => text

/-- The errors that a cause wraps, the outermost first. -/
def Cause.sources : Cause → List Source
  | wrapped _ sources => sources
  | _ => []

/-- The driver error that a cause is. -/
def Cause.driverError? : Cause → Option DriverError
  | driver error => some error
  | _ => none

end SqlDialect
