import SqlDialect.Failure.Cause
import SqlDialect.Text.Basic
import SqlDialect.Url.Domain

/-!
# Hosts

What a host in a URL may be: an IPv6 address in brackets; and otherwise a domain or an
IPv4 address where the scheme is a special one, and any text without certain characters
where it is not.  An IPv4 address is up to four numbers with points in between, in decimal,
octal or hexadecimal notation: each number but the last stands for one byte, and the last for
all the bytes that are left, and a point at the end does not count.  An IPv6 address is groups
of up to four hexadecimal digits with colons in between, eight in all, where a double colon may
stand once for at least one missing group and an IPv4 address may stand for the last two.
-/

namespace SqlDialect.Url

/-! ## IPv4 addresses -/

/-- The number that digits denote in a base, when all of them are digits of it. -/
def numberIn? (base : Nat) (digits : List Char) : Option Nat :=
  digits.foldlM (fun n c => ((Text.hexValue? c).filter (· < base)).map (base * n + ·)) 0

/-- The number that a part denotes: hexadecimal behind `0x`, octal behind any other zero in front,
and decimal without one.  Nothing behind the mark of a base denotes zero. -/
def number? : List Char → Option Nat
  | [] => none
  | '0' :: 'x' :: digits => numberIn? 16 digits
  | '0' :: 'X' :: digits => numberIn? 16 digits
  | '0' :: digits => numberIn? 8 digits
  | digits => numberIn? 10 digits

/-- The parts between the points, without an empty one at the end. -/
def addressParts (domain : List Char) : List (List Char) :=
  let all := domain.splitOn '.'
  if all.getLast? = some [] then all.dropLast else all

/-- The last part is a number, or at least looks like one. -/
def endsInNumber (domain : List Char) : Bool :=
  match (addressParts domain).getLast? with
  | some last => !last.isEmpty && last.all Char.isDigit || (number? last).isSome
  | none => false

/-- The text of an IPv4 address. -/
def isIpv4 (domain : List Char) : Bool :=
  match (addressParts domain).mapM number? with
  | some numbers =>
    numbers.length ≤ 4 && numbers.dropLast.all (· < 256)
      && numbers.getLastD 0 < Nat.pow 256 (5 - numbers.length)
  | none => false

/-! ## IPv6 addresses -/

/-- A group of one to four hexadecimal digits. -/
def isGroup (text : List Char) : Bool :=
  !text.isEmpty && text.length ≤ 4 && text.all fun c => (Text.hexValue? c).isSome

/-- A number of at most 255, without zeros in front. -/
def isOctet (text : List Char) : Bool :=
  !text.isEmpty && text.all Char.isDigit && (text.length = 1 || text.head? ≠ some '0')
    && Text.numberOf text ≤ 255

/-- An IPv4 address as four numbers with points in between. -/
def isDottedQuad (text : List Char) : Bool :=
  let octets := text.splitOn '.'
  octets.length = 4 && octets.all isOctet

/-- The text before the first double colon and the text behind it. -/
def splitDoubleColon : List Char → Option (List Char × List Char)
  | ':' :: ':' :: rest => some ([], rest)
  | c :: rest => (splitDoubleColon rest).map fun parts => (c :: parts.1, parts.2)
  | [] => none

/-- How many groups a list of groups stands for, when they are groups; the last may be an IPv4
address where `ipv4Allowed`. -/
def groupCount? (ipv4Allowed : Bool) (text : List Char) : Option Nat :=
  if text.isEmpty then some 0
  else
    let groups := text.splitOn ':'
    if groups.all isGroup then some groups.length
    else if ipv4Allowed && groups.dropLast.all isGroup && isDottedQuad (groups.getLastD []) then
      some (groups.length + 1)
    else none

/-- The text of an IPv6 address. -/
def isIpv6 (text : List Char) : Bool :=
  match splitDoubleColon text with
  | none => groupCount? true text = some 8
  | some (before, behind) =>
    match groupCount? false before, groupCount? true behind with
    | some n, some m => n + m ≤ 7
    | _, _ => false

/-! ## Hosts -/

/-- The characters that a host must not contain. -/
def forbiddenInHost : List Char :=
  ['\x00', '\t', '\n', '\r', ' ', '#', '/', ':', '<', '>', '?', '@', '[', '\\', ']', '^', '|']

/-- What is wrong with a domain: it denotes none, the empty one, or numbers that are no IPv4
address. -/
def domainFault? (host : List Char) : Option UrlFault :=
  match domain? host with
  | none => some .internationalDomain
  | some [] => some .emptyHost
  | some domain => if endsInNumber domain ∧ !isIpv4 domain then some .ipv4Address else none

/-- What is wrong with a host. -/
def hostFault? (special : Bool) (host : List Char) : Option UrlFault :=
  match host with
  | '[' :: inner =>
    if inner.getLast? = some ']' ∧ isIpv6 inner.dropLast then none else some .ipv6Address
  | _ =>
    if special then domainFault? host
    else if host.any forbiddenInHost.contains then some .domainCharacter
    else none

end SqlDialect.Url
