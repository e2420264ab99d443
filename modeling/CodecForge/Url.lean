/-
  CodecForge — the parts of URLs.

  * `schemeOf` and `authorityOf` are the parts that a URL needs; an authority
    names a host, perhaps with a user before it and a number after it;
  * `isComplete?` tells whether both are there.  It refuses an authority with
    brackets that hold no address (`isHostInBrackets`), and one whose characters
    stand for others that would end it (`hidesDelimiter`).
-/
import CodecForge.Text.Lines

namespace CodecForge.Url

/-! ## Addresses -/

def isHexDigit (c : Char) : Bool :=
  c.isDigit || ('a' ≤ c && c ≤ 'f') || ('A' ≤ c && c ≤ 'F')

/-- Whether a text is a part of a short address: a number up to 255 without
    needless zeros. -/
def isOctet (cs : List Char) : Bool :=
  match cs with
  | [] => false
  | ['0'] => true
  | c :: _ =>
    c ≠ '0' && cs.length ≤ 3 && cs.all Char.isDigit &&
      cs.foldl (fun n d => 10 * n + (d.toNat - 48)) 0 ≤ 255

/-- Whether a text is a short address: four parts between points. -/
def isShortAddress (cs : List Char) : Bool :=
  let parts := Text.splitOn '.' cs
  parts.length = 4 && parts.all isOctet

/-- Whether a text is a part of a long address. -/
def isGroup (cs : List Char) : Bool := !cs.isEmpty && cs.length ≤ 4 && cs.all isHexDigit

/-- Whether groups make a long address: eight of them, or less with one gap,
    which an empty part between two colons stands for.  At an end the gap has a
    colon of its own. -/
def areGroups (parts : List (List Char)) : Bool :=
  let inner := (parts.drop 1).dropLast
  match inner.findIdx? (·.isEmpty) with
  | none => parts.length = 8 && parts.all isGroup
  | some i =>
    let before := parts.take (i + 1)
    let after := parts.drop (i + 2)
    let before := if before = [[]] then [] else before
    let after := if after = [[]] then [] else after
    before.all isGroup && after.all isGroup && before.length + after.length < 8

/-- Whether a text is a long address, the last two groups of which may be a short
    one. -/
def isLongAddress (cs : List Char) : Bool :=
  let parts := Text.splitOn ':' cs
  let last := parts.getLastD []
  let isMixed := last.contains '.'
  let parts := if isMixed then parts.dropLast ++ [['0'], ['0']] else parts
  2 ≤ cs.count ':' && (!isMixed || isShortAddress last) && parts.length ≤ 9 && areGroups parts

/-- Whether a text is a long address, perhaps with the name of a zone. -/
def isZonedAddress (cs : List Char) : Bool :=
  let address := cs.takeWhile (· ≠ '%')
  isLongAddress address && !cs.contains '/' &&
    match cs.drop address.length with
    | [] => true
    | _ :: zone => !zone.isEmpty && !zone.contains '%'

/-- Whether a text is an address of a form to come: a version and a point before
    anything else. -/
def isFutureAddress (cs : List Char) : Bool :=
  match cs with
  | 'v' :: cs =>
    let version := cs.takeWhile isHexDigit
    match cs.drop version.length with
    | '.' :: _ :: _ => !version.isEmpty
    | _ => false
  | _ => false

/-- Whether a text may stand between brackets. -/
def isHostInBrackets (cs : List Char) : Bool :=
  if cs.head? = some 'v' then isFutureAddress cs else isZonedAddress cs

/-! ## Authorities -/

/-- The authority after the user that it may begin with. -/
def afterUser (authority : List Char) : List Char :=
  (authority.reverse.takeWhile (· ≠ '@')).reverse

/-- Whether brackets hold an address with nothing around them but a number after a
    colon. -/
def hasGoodBrackets (authority : List Char) : Bool :=
  let host := afterUser authority
  match host with
  | '[' :: rest =>
    let inner := rest.takeWhile (· ≠ ']')
    let after := rest.drop (inner.length + 1)
    isHostInBrackets inner && (after.isEmpty || after.head? = some ':')
  | _ => !host.contains '[' && isHostInBrackets (host.takeWhile (· ≠ ':'))

/-- Characters in whose plain form one of the characters that end an authority,
    or a part of it, occurs. -/
def disguises : List Nat :=
  [0x2047, 0x2048, 0x2049, 0x2100, 0x2101, 0x2105, 0x2106, 0x2A74, 0xFE13, 0xFE16, 0xFE55,
    0xFE56, 0xFE5F, 0xFE6B, 0xFF03, 0xFF0F, 0xFF1A, 0xFF1F, 0xFF20]

/-- Whether an authority would go on otherwise in plain characters. -/
def hidesDelimiter (authority : List Char) : Bool :=
  authority.any fun c => disguises.contains c.toNat

/-- Whether an authority is refused. -/
def isBadAuthority (authority : List Char) : Bool :=
  let opens := authority.contains '['
  let closes := authority.contains ']'
  opens != closes || (opens && !hasGoodBrackets authority) || hidesDelimiter authority

/-! ## URLs -/

/-- Characters of a scheme. -/
def isSchemeChar (c : Char) : Bool := c.isAlphanum || c == '+' || c == '-' || c == '.'

/-- The text that is parsed: without controls and blanks at its beginning,
    without tabs and line breaks. -/
def cleaned (s : String) : List Char :=
  (s.toList.dropWhile fun c => c.toNat ≤ 0x20).filter fun c =>
    c ≠ '\t' && c ≠ '\n' && c ≠ '\r'

/-- The scheme, and the text after its colon. -/
def schemeOf (cs : List Char) : List Char × List Char :=
  let scheme := cs.takeWhile (· ≠ ':')
  match cs.drop scheme.length with
  | [] => ([], cs)
  | _ :: rest =>
    if (scheme.head?.any Char.isAlpha) && scheme.all isSchemeChar then (scheme, rest) else ([], cs)

/-- The part that names a host, none without two slashes. -/
def authorityOf : List Char → List Char
  | '/' :: '/' :: cs => cs.takeWhile fun c => c ≠ '/' && c ≠ '?' && c ≠ '#'
  | _ => []

/-- Whether a URL has a scheme and an authority; none if the authority is
    refused. -/
def isComplete? (url : String) : Option Bool :=
  let (scheme, rest) := schemeOf (cleaned url)
  let authority := authorityOf rest
  if isBadAuthority authority then none else some (!scheme.isEmpty && !authority.isEmpty)

/-- The authority of a URL. -/
def authority (url : String) : List Char := authorityOf (schemeOf (cleaned url)).2

end CodecForge.Url
