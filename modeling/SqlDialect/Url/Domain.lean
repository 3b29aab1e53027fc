import SqlDialect.Url.Domain.Label
import SqlDialect.Url.Domain.Mapping
import SqlDialect.Url.Punycode

/-!
# Domains

What a host denotes as a domain.  Percent signs with two hexadecimal digits stand for bytes
of UTF-8, and then each character for what it is mapped to.  The result is brought into its
canonical form and divided into labels at the full stops.  A label that starts with `xn--`
stands for a text in Punycode.
-/

namespace SqlDialect.Url

/-- The bytes of a text in UTF-8, with those that percent signs stand for. -/
def percentDecoded : List Char → List UInt8
  | '%' :: first :: second :: rest =>
    match Text.hexValue? first, Text.hexValue? second with
    | some high, some low => UInt8.ofNat (16 * high + low) :: percentDecoded rest
    | _, _ => '%'.toUInt8 :: percentDecoded (first :: second :: rest)
  | c :: rest => String.utf8EncodeChar c ++ percentDecoded rest
  | [] => []

/-- The ASCII characters that a domain must not contain, beside the controls and the space. -/
def forbiddenInDomain : List Char :=
  ['%', '#', '/', ':', '<', '>', '?', '@', '[', '\\', ']', '^', '|', '\x7f']

/-- A domain must not contain the character. -/
def isForbiddenInDomain (c : Char) : Bool :=
  c.toNat ≤ 0x20 || forbiddenInDomain.contains c

/-- An ASCII character. -/
def isAscii (c : Char) : Bool := c.toNat < 128

/-- The text that a label stands for.  Punycode must stand for a text beyond ASCII in the form in
which it would be written without Punycode. -/
def labelText? : List Char → Option (List Char)
  | 'x' :: 'n' :: '-' :: '-' :: encoded => do
    let text ← if encoded.length ≤ 2000 then Punycode.decode? encoded else none
    if text.all isAscii || !text.all isPlain || canonical text ≠ text then none else some text
  | label => some label

/-- A text can be a label: beyond ASCII it has at most a thousand characters, does not start with a
mark, and has joiners only where they can stand. -/
def isLabelText (text : List Char) : Bool :=
  text.all isAscii
    || text.length ≤ 1000 && !text.head?.any isMark && joinersAllowed [] text

/-- The domain that a host denotes. -/
def domain? (host : List Char) : Option (List Char) := do
  let text ← String.fromUTF8? ⟨(percentDecoded host).toArray⟩
  let domain := canonical (← text.toList.mapM mapped?).flatten
  let labels ← (domain.splitOn '.').mapM labelText?
  if domain.any isForbiddenInDomain || !labels.all isLabelText || !Direction.allowed labels then
    none
  else some domain

end SqlDialect.Url
