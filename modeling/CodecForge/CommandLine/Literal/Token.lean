/-
  CodecForge — tokens of literals.

  * a number is real or imaginary; whether a real one is too large to be added to
    an imaginary one is all that counts of its value;
  * a text stands in quotes, one or three of them, after a mark that tells
    whether it consists of bytes and whether a backslash is an escape;
  * blanks, comments, and a line break after a backslash stand between tokens, and
    in brackets other line breaks, too;
  * `tokens?` cuts a text into tokens.  It begins without indentation, and only
    blank lines follow the line in which its last bracket is closed.
-/
import CodecForge.Number.Integer
import CodecForge.Text.CharacterName
import CodecForge.Text.Lines

namespace CodecForge.CommandLine.Literal

/-! ## Tokens -/

/-- A number. -/
inductive Number where
  /-- a real number; a large one is rounded to no floating point number -/
  | real (isLarge : Bool)
  | imaginary
deriving DecidableEq, Repr

/-- A token of a literal. -/
inductive Token where
  | number (n : Number)
  | text (isBytes : Bool)
  /-- one of the words for a truth value or for nothing, or three dots -/
  | constant
  /-- the word for a collection without items -/
  | emptySet
  | mark (c : Char)
deriving DecidableEq, Repr

/-! ## Numbers -/

/-- A base in which digits are written. -/
structure Base where
  size : Nat
  marks : List Char
deriving DecidableEq, Repr

/-- The bases that a letter after a zero tells. -/
def markedBases : List Base := [⟨16, ['x', 'X']⟩, ⟨8, ['o', 'O']⟩, ⟨2, ['b', 'B']⟩]

/-- The value of a digit in a base of at most sixteen digits. -/
def digitIn? (base : Nat) (c : Char) : Option Nat :=
  let n :=
    if c.isDigit then c.toNat - 48
    else if 'a' ≤ c && c ≤ 'f' then c.toNat - 87
    else if 'A' ≤ c && c ≤ 'F' then c.toNat - 55
    else base
  if n < base then some n else none

/-- The longest part of digits, between which single underscores may stand, and
    what follows it. -/
def digits (base : Nat) : List Char → List Nat × List Char
  | [] => ([], [])
  | c :: cs =>
    match digitIn? base c with
    | none => ([], c :: cs)
    | some n =>
      match cs with
      | '_' :: d :: ds =>
        if (digitIn? base d).isSome then
          let (ns, rest) := digits base (d :: ds)
          (n :: ns, rest)
        else ([n], cs)
      | cs =>
        let (ns, rest) := digits base cs
        (n :: ns, rest)

/-- The number that digits denote. -/
def ofDigits (base : Nat) (ns : List Nat) : Nat := ns.foldl (fun m n => base * m + n) 0

/-- The least whole number that is not rounded to a floating point number: the
    middle between the greatest of them and the next power of two. -/
def largeNumber : Nat := Nat.pow 2 1024 - Nat.pow 2 970

/-- The rest after an exponent, if there is one. -/
def afterExponent? : List Char → Option (List Char)
  | [] => none
  | e :: cs =>
    if e ≠ 'e' && e ≠ 'E' then none else
    let cs := match cs with
      | '+' :: cs | '-' :: cs => cs
      | cs => cs
    match digits 10 cs with
    | ([], _) => none
    | (_, rest) => some rest

/-- A number in a base that a letter tells. -/
def marked? : List Char → Option (Number × List Char)
  | '0' :: mark :: cs => do
    let base ← markedBases.find? (·.marks.contains mark)
    match digits base.size (if cs.head? = some '_' then cs.drop 1 else cs) with
    | ([], _) => none
    | (ns, rest) => some (.real (ofDigits base.size ns ≥ largeNumber), rest)
  | _ => none

/-- A whole number of these digits.  Zeros before another digit are refused, and
    so are very many digits. -/
def whole? (ns : List Nat) : Option Number :=
  if ns.all (· = 0) then some (.real false)
  else if ns.head? = some 0 || ns.length > digitLimit then none
  else some (.real (ofDigits 10 ns ≥ largeNumber))

/-- A decimal number. -/
def decimal? (cs : List Char) : Option (Number × List Char) := do
  let (ns, rest) := digits 10 cs
  let (fraction, hasPoint, rest) := match rest with
    | '.' :: rest => let (fraction, rest) := digits 10 rest; (fraction, true, rest)
    | rest => ([], false, rest)
  if ns.isEmpty && fraction.isEmpty then none else
  let (isWhole, rest) := match afterExponent? rest with
    | some rest => (false, rest)
    | none => (!hasPoint, rest)
  match rest with
  | 'j' :: rest | 'J' :: rest => return (.imaginary, rest)
  | rest => return (← if isWhole then whole? ns else some (.real false), rest)

/-- Whether a character goes on with a name or a number; of the characters beyond
    ASCII every one may. -/
def isNameChar (c : Char) : Bool := c.isAlphanum || c = '_' || c.toNat ≥ 128

/-- The number at the beginning of a text, and what follows it. -/
def number? (cs : List Char) : Option (Number × List Char) := do
  let (n, rest) ← (marked? cs).or (decimal? cs)
  if rest.head?.any isNameChar then none else some (n, rest)

/-! ## Texts -/

/-- What stands before the closing quotes, and what follows them.  Only three
    quotes hold a line break that no backslash precedes. -/
def content? (quotes : List Char) : List Char → Option (List Char × List Char)
  | [] => none
  | '\\' :: c :: cs => (content? quotes cs).map fun (inner, rest) => ('\\' :: c :: inner, rest)
  | c :: cs =>
    if quotes.isPrefixOf (c :: cs) then some ([], (c :: cs).drop quotes.length)
    else if c = '\n' && quotes.length = 1 then none
    else (content? quotes cs).map fun (inner, rest) => (c :: inner, rest)

/-- The number that the first digits of base 16 denote; there are that many. -/
def hexadecimal? (n : Nat) (cs : List Char) : Option Nat :=
  if cs.length < n then none
  else ((cs.take n).mapM (digitIn? 16)).map (ofDigits 16)

/-- Whether a name in braces is one of a character. -/
def namesCharacter : List Char → Bool
  | '\x7b' :: cs =>
    let name := cs.takeWhile (· ≠ '\x7d')
    name.length < cs.length && Text.isCharacterName name
  | _ => false

/-- Whether what follows a backslash and a letter is what the letter asks for. -/
def isEscape (isBytes : Bool) (letter : Char) (cs : List Char) : Bool :=
  match letter with
  | 'x' => (hexadecimal? 2 cs).isSome
  | 'u' => isBytes || (hexadecimal? 4 cs).isSome
  | 'U' => isBytes || (hexadecimal? 8 cs).any (· < 0x110000)
  | 'N' => isBytes || namesCharacter cs
  | _ => true

/-- Whether every escape is one. -/
def areEscapes (isBytes : Bool) : List Char → Bool
  | [] => true
  | '\\' :: c :: cs => isEscape isBytes c cs && areEscapes isBytes cs
  | _ :: cs => areEscapes isBytes cs

/-- The marks that may stand before quotes, in lower case. -/
def textMarks : List (List Char) := [[], ['r'], ['u'], ['b'], ['b', 'r'], ['r', 'b']]

/-- Whether the text at the beginning consists of bytes, and what follows it. -/
def text? (cs : List Char) : Option (Bool × List Char) := do
  let mark := (cs.takeWhile Char.isAlpha).map Char.toLower
  let quote ← (cs.drop mark.length).head?
  if !textMarks.contains mark || !(quote = '"' || quote.toNat = 39) then none else
  let quotes := (cs.drop mark.length).takeWhile (· = quote)
  let quotes := if quotes.length < 3 then [quote] else quotes.take 3
  let (inner, rest) ← content? quotes (cs.drop (mark.length + quotes.length))
  let isBytes := mark.contains 'b'
  if isBytes && inner.any (·.toNat ≥ 128) then none
  else if !mark.contains 'r' && !areEscapes isBytes inner then none
  else some (isBytes, rest)

/-! ## Words -/

/-- Letters that stand for plain ones in names: other styles of them, and
    ligatures. -/
def styledLetters : List (String × String) :=
  [("s", "ſˢₛｓ𝐬𝑠𝒔𝓈𝓼𝔰𝕤𝖘𝗌𝘀𝘴𝙨𝚜"), ("e", "ᵉₑℯⅇｅ𝐞𝑒𝒆𝓮𝔢𝕖𝖊𝖾𝗲𝘦𝙚𝚎"), ("t", "ᵗₜｔ𝐭𝑡𝒕𝓉𝓽𝔱𝕥𝖙𝗍𝘁𝘵𝙩𝚝"),
    ("st", "ﬅﬆ")]

/-- The plain letters for a letter. -/
def plainLetters (c : Char) : List Char :=
  match styledLetters.find? fun row => row.2.toList.contains c with
  | some (plain, _) => plain.toList
  | none => [c]

/-- The token that a word is. -/
def word? (name : List Char) : Option Token :=
  if ["True", "False", "None"].contains (String.ofList name) then some .constant
  else if name.flatMap plainLetters = "set".toList then some .emptySet
  else none

/-! ## Reading -/

/-- The marks of literals. -/
def marks : List Char := ['(', ')', '\x7b', '\x7d', ',', ':', '+', '-']

/-- The token at the beginning of a text, and what follows it. -/
def token? (cs : List Char) : Option (Token × List Char) := do
  match text? cs, number? cs with
  | some (isBytes, rest), _ => return (.text isBytes, rest)
  | none, some (n, rest) => return (.number n, rest)
  | none, none =>
    match cs with
    | '.' :: '.' :: '.' :: rest => return (.constant, rest)
    | c :: rest =>
      if marks.contains c then return (.mark c, rest) else
      let name := cs.takeWhile isNameChar
      return (← word? name, cs.drop name.length)
    | [] => none

/-- The bracket that opens what a bracket closes. -/
def opening? (c : Char) : Option Char :=
  if c = ')' then some '(' else if c = '\x7d' then some '\x7b' else none

/-- How many brackets may be open. -/
def longestNest : Nat := 200

/-- The brackets that are open after a token, the last one first. -/
def afterToken? (opened : List Char) : Token → Option (List Char)
  | .mark c =>
    if c = '(' || c = '\x7b' then
      if opened.length < longestNest then some (c :: opened) else none
    else match opening? c with
      | none => some opened
      | some o => if opened.head? = some o then some (opened.drop 1) else none
  | _ => some opened

/-- A blank between tokens. -/
def isGap (c : Char) : Bool := c = ' ' || c = '\t' || c = '\x0c'

/-- The text after blank lines, and how far its first line is indented: as far as
    the line that a backslash continues, if one does.  `column` is how far the
    line is indented so far. -/
def afterBlankLines? (continued column : Nat) (inComment : Bool) :
    List Char → Option (Nat × List Char)
  | [] => some (if inComment then 0 else if continued = 0 then column else continued, [])
  | '\n' :: cs => afterBlankLines? 0 0 false cs
  | c :: cs =>
    if inComment then afterBlankLines? continued column true cs
    else if c = '#' then afterBlankLines? continued column true cs
    else if c = '\x0c' then afterBlankLines? continued 0 false cs
    else if isGap c then afterBlankLines? continued (column + 1) false cs
    else if c ≠ '\\' then some (if continued = 0 then column else continued, c :: cs)
    else
      match cs with
      | '\n' :: d :: cs =>
        afterBlankLines? (if continued = 0 then column else continued) column false (d :: cs)
      | _ => none

/-- The tokens after `skip` characters that have been read. -/
def tokensFrom? (opened : List Char) : Nat → List Char → Option (List Token)
  | _, [] => if opened.isEmpty then some [] else none
  | skip + 1, _ :: cs => tokensFrom? opened skip cs
  | 0, c :: cs =>
    if isGap c then tokensFrom? opened 0 cs
    else if c = '#' then tokensFrom? opened (cs.takeWhile (· ≠ '\n')).length cs
    else if c = '\\' then
      -- a backslash continues a line, and another line follows
      if cs.head? = some '\n' && cs.length > 1 then tokensFrom? opened 1 cs else none
    else if c = '\n' then
      if !opened.isEmpty then tokensFrom? opened 0 cs
      else match afterBlankLines? 0 0 false cs with
        | some (0, []) => some []
        | _ => none
    else do
      let (t, rest) ← token? (c :: cs)
      let opened ← afterToken? opened t
      return t :: (← tokensFrom? opened (cs.length - rest.length) cs)

/-- The tokens of a text. -/
def tokens? (cs : List Char) : Option (List Token) :=
  if cs.any fun c => c.toNat = 0 then none else
  match afterBlankLines? 0 0 false (Text.unifyLineFeeds cs) with
  | some (0, cs) => tokensFrom? [] 0 cs
  | _ => none

end CodecForge.CommandLine.Literal
