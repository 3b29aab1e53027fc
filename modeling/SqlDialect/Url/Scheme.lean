import SqlDialect.Url.Host

/-!
# Schemes of URLs

Reading the scheme of a URL.  The text has to be a URL as a whole: it needs a scheme of
its own, and when an authority follows, its host and its port have to be valid.  Blanks
and control characters around the text, and tabs and line ends in it, do not count.
-/

namespace SqlDialect.Url

/-- The text without control characters and spaces at its ends and without tabs and line ends. -/
def clean (text : List Char) : List Char :=
  let isControl := fun c : Char => c.toNat ≤ 0x20
  let trimmed := ((text.dropWhile isControl).reverse.dropWhile isControl).reverse
  trimmed.filter fun c => c ≠ '\t' ∧ c ≠ '\n' ∧ c ≠ '\r'

/-- A character of a scheme behind its first letter. -/
def isSchemeChar (c : Char) : Bool :=
  c.isAlphanum || c = '+' || c = '-' || c = '.'

/-- The scheme in lower case and what follows its colon. -/
def splitScheme? : List Char → Option (List Char × List Char)
  | first :: rest =>
    if first.isAlpha then
      match rest.span isSchemeChar with
      | (more, ':' :: behind) => some ((first :: more).map Char.toLower, behind)
      | _ => none
    else none
  | [] => none

/-- A scheme whose URLs always have a host, and may have backslashes for slashes. -/
def isSpecial (scheme : List Char) : Bool :=
  ["http", "https", "ws", "wss", "ftp"].contains (String.ofList scheme)

/-- A character that ends the authority of a URL. -/
def endsAuthority (special : Bool) (c : Char) : Bool :=
  c = '/' || c = '?' || c = '#' || special && c = '\\'

/-- Whether the text has credentials in front of a host, and the text behind them.  Empty
credentials do not count, and with nothing behind them a host is missing. -/
def dropCredentials (special : Bool) (text : List Char) : Except UrlFault (Bool × List Char) :=
  let authority := text.takeWhile fun c => !endsAuthority special c
  let behind := text.dropWhile fun c => !endsAuthority special c
  match authority.reverse.span (· ≠ '@') with
  | (_, []) => .ok (false, text)
  | (host, _ :: credentials) =>
    let rest := host.reverse ++ behind
    match credentials with
    | [] => if host = [] ∧ behind ≠ [] then .error .emptyHost else .ok (false, rest)
    | [':'] => .ok (false, rest)
    | _ => .ok (true, rest)

/-- The host, up to a colon outside of brackets or the end of the authority, and the rest. -/
def splitHost (special : Bool) : (inBrackets : Bool) → List Char → List Char × List Char
  | _, [] => ([], [])
  | inBrackets, c :: rest =>
    if endsAuthority special c || c = ':' && !inBrackets then ([], c :: rest)
    else
      let next := if c = '[' then true else if c = ']' then false else inBrackets
      let parts := splitHost special next rest
      (c :: parts.1, parts.2)

/-- What is wrong with a port, which extends to the end of the authority. -/
def portFault? (text : List Char) : Option UrlFault :=
  let port := text.takeWhile fun c => !endsAuthority true c
  if port.all Char.isDigit ∧ Text.numberOf port < UInt16.size then none else some .port

/-- What is wrong with an authority and what follows it. -/
def authorityFault? (special : Bool) (text : List Char) : Option UrlFault :=
  match dropCredentials special text with
  | .error fault => some fault
  | .ok (hasCredentials, rest) =>
    let (host, behind) := splitHost special false rest
    match hostFault? special host with
    | some fault => some fault
    | none =>
      match behind with
      | ':' :: port => if host = [] then some .emptyHost else portFault? port
      | _ => if host = [] ∧ hasCredentials then some .emptyHost else none

/-- A slash, of either kind. -/
def isSlash (c : Char) : Bool :=
  c = '/' || c = '\\'

/-- A drive: a letter with a colon or a bar. -/
def isDrive : List Char → Bool
  | [letter, mark] => letter.isAlpha && (mark = ':' || mark = '|')
  | _ => false

/-- What is wrong behind the colon of the scheme `file`.  Two slashes start a host there, which
extends to the next slash; it may be missing, and a drive in its place belongs to the path. -/
def fileFault? : List Char → Option UrlFault
  | first :: second :: rest =>
    let host := rest.takeWhile fun c => !endsAuthority true c
    if isSlash first ∧ isSlash second ∧ host ≠ [] ∧ !isDrive host then hostFault? true host
    else none
  | _ => none

/-- What is wrong behind the colon of a scheme. -/
def restFault? (scheme rest : List Char) : Option UrlFault :=
  if isSpecial scheme then authorityFault? true (rest.dropWhile isSlash)
  else if scheme = "file".toList then fileFault? rest
  else match rest with
    | '/' :: '/' :: authority => authorityFault? false authority
    | _ => none

/-- The scheme of a URL, in lower case. -/
def scheme (text : List Char) : Except UrlFault (List Char) :=
  match splitScheme? (clean text) with
  | none => .error .noScheme
  | some (scheme, rest) =>
    match restFault? scheme rest with
    | some fault => .error fault
    | none => .ok scheme

end SqlDialect.Url
