/-
  CodecForge — the words of expressions in templates.

  * a `Token` is a name, a text, a number, an operator or the end of an
    expression; what no token can be made of is a token that is `broken`;
  * `tokens` cuts the text after two opening braces into tokens, up to the two
    closing ones, and gives the place after them;
  * `TokenFlaw` says what is wrong with a text, `Token.label` names a token in
    errors.
-/
import CodecForge.Json.Reader
import CodecForge.Text.Identifier

namespace CodecForge.Template

/-! ## Flaws -/

/-- Why no token can be made of a text. -/
inductive TokenFlaw where
  | unexpectedCharacter (c : Char) (position : Nat)
  | unexpectedClose (c : Char) (expected : Option Char)
  | badName
  /-- an escape lacks digits -/
  | shortEscape (mark : Char) (digits : Nat)
  | noCharacter
  | unnamedCharacter
  | unknownCharacter
deriving DecidableEq, Repr

/-- The words for a flaw. -/
def TokenFlaw.message : TokenFlaw → String
  | .unexpectedCharacter c position =>
    s!"unexpected char {Text.quoted (String.singleton c)} at {position}"
  | .unexpectedClose c none => s!"unexpected '{c}'"
  | .unexpectedClose c (some expected) => s!"unexpected '{c}', expected '{expected}'"
  | .badName => "Invalid character in identifier"
  | .shortEscape mark digits =>
    "truncated \\" ++ String.ofList (mark :: List.replicate digits 'X') ++ " escape"
  | .noCharacter => "illegal Unicode character"
  | .unnamedCharacter => "malformed \\N character escape"
  | .unknownCharacter => "unknown Unicode character name"

/-! ## Tokens -/

/-- A word of an expression. -/
inductive Token where
  | name (s : String)
  | text (s : String)
  | integer (n : Nat)
  | decimal (x : Double)
  | operator (s : String)
  /-- the two braces that close an expression -/
  | close
  /-- the end of the template -/
  | stop
  | broken (flaw : TokenFlaw)
deriving DecidableEq, Repr

/-- What errors call a token. -/
def Token.label : Token → String
  | name s => s
  | text _ => "string"
  | integer _ => "integer"
  | decimal _ => "float"
  | operator s => s
  | close => "end of print statement"
  | stop => "end of template"
  | broken _ => ""

/-- A place in a template: the text from there on, and its position. -/
structure Place where
  chars : List Char
  position : Nat
deriving Repr

namespace Place

/-- The place after some characters. -/
def after (p : Place) (n : Nat) : Place := ⟨p.chars.drop n, p.position + n⟩

/-- The place after blanks. -/
def skip (p : Place) : Place := p.after (p.chars.takeWhile Text.isBlank).length

/-- The place after a word, if it stands here. -/
def after? (p : Place) (word : String) : Option Place :=
  if word.toList.isPrefixOf p.chars then some (p.after word.length) else none

end Place

/-! ## Numbers -/

/-- Digits with single underscores between them: the digits, and how many
    characters they take. -/
def digitRun (isDigit : Char → Bool) : List Char → List Char × Nat
  | c :: '_' :: d :: cs =>
    if !isDigit c then ([], 0)
    else if isDigit d then
      let (ds, n) := digitRun isDigit (d :: cs)
      (c :: ds, n + 2)
    else ([c], 1)
  | c :: cs =>
    if isDigit c then
      let (ds, n) := digitRun isDigit cs
      (c :: ds, n + 1)
    else ([], 0)
  | [] => ([], 0)

/-- The exponent at the beginning of a text, and how many characters it takes. -/
def exponentRun (cs : List Char) : Option (Int × Nat) :=
  match cs with
  | e :: cs =>
    if e ≠ 'e' && e ≠ 'E' then none else
    let (negative, signs) := match cs.head? with
      | some '-' => (true, 1)
      | some '+' => (false, 1)
      | _ => (false, 0)
    let (ds, n) := digitRun Char.isDigit (cs.drop signs)
    if ds.isEmpty then none
    else
      let k : Int := Json.digitsValue ds
      some (if negative then -k else k, 1 + signs + n)
  | [] => none

/-- A number with a fraction or an exponent, and how many characters it takes. -/
def decimal? (cs : List Char) : Option (Token × Nat) :=
  let (whole, n) := digitRun Char.isDigit cs
  if whole.isEmpty then none else
  let (fraction, k) := match cs.drop n with
    | '.' :: cs => let (ds, k) := digitRun Char.isDigit cs; (ds, if ds.isEmpty then 0 else k + 1)
    | _ => ([], 0)
  let decimal := fun (e : Int) =>
    Token.decimal (.ofDecimal false (Json.digitsValue (whole ++ fraction)) (e - fraction.length))
  match exponentRun (cs.drop (n + k)) with
  | some (e, m) => some (decimal e, n + k + m)
  | none => if k = 0 then none else some (decimal 0, n + k)

/-- The bases of integers with their marks and digits. -/
def bases : List (Char × Nat × (Char → Bool)) :=
  [('b', 2, fun c => c = '0' || c = '1'), ('o', 8, fun c => '0' ≤ c && c ≤ '7'),
    ('x', 16, fun c => (Json.hexValue? c).isSome)]

/-- An integer, and how many characters it takes; a zero goes on with zeros
    only. -/
def integer? (cs : List Char) : Option (Token × Nat) :=
  let based := bases.findSome? fun (mark, base, isDigit) =>
    match cs with
    | '0' :: m :: rest =>
      if m.toLower ≠ mark then none else
      let skipped := if rest.head? = some '_' then 1 else 0
      let (ds, n) := digitRun isDigit (rest.drop skipped)
      if ds.isEmpty then none
      else some (Token.integer
        (ds.foldl (fun k d => k * base + (Json.hexValue? d).getD 0) 0), 2 + skipped + n)
    | _ => none
  let isDigit : Char → Bool := if cs.head? = some '0' then fun c => c = '0' else Char.isDigit
  let (ds, n) := digitRun isDigit cs
  based <|> if ds.isEmpty then none else some (.integer (Json.digitsValue ds), n)

/-! ## Texts -/

/-- The text up to the quote that closes it, with its escapes. -/
def quotedRun (quote : Char) : List Char → Option (List Char)
  | [] => none
  | '\\' :: c :: cs => (quotedRun quote cs).map fun rest => '\\' :: c :: rest
  | c :: cs => if c = quote then some [] else (quotedRun quote cs).map (c :: ·)

/-- Escapes of one character. -/
def letterEscapes : List (Char × Char) :=
  [('\\', '\\'), ('"', '"'), (Char.ofNat 39, Char.ofNat 39), ('a', Char.ofNat 7),
    ('b', Char.ofNat 8), ('f', Char.ofNat 12), ('n', '\n'), ('r', '\r'), ('t', '\t'),
    ('v', Char.ofNat 11)]

/-- The escapes by number: their marks and how many digits they have. -/
def numberEscapes : List (Char × Nat) := [('x', 2), ('u', 4), ('U', 8)]

/-- What is left of a backslash before a character: both if the character is
    ASCII, else the backslash and the number of the character. -/
def keptEscape (c : Char) : List Char :=
  let n := c.toNat
  let (mark, width) := if n < 0x100 then ('x', 2) else if n < 0x10000 then ('u', 4) else ('U', 8)
  if n < 128 then ['\\', c] else '\\' :: mark :: Text.hexChars width n

/-- The value of octal digits, three at most. -/
def octalRun (cs : List Char) : List Char :=
  (cs.take 3).takeWhile fun c => '0' ≤ c && c ≤ '7'

/-- What escapes in a text stand for; `skip` characters are done with. -/
def unescaped : Nat → List Char → Except TokenFlaw (List Char)
  | _, [] => .ok []
  | skip + 1, _ :: cs => unescaped skip cs
  | 0, '\\' :: c :: cs =>
    match Entries.get? c letterEscapes, Entries.get? c numberEscapes with
    | some d, _ => (unescaped 1 (c :: cs)).map (d :: ·)
    | none, some width =>
      let ds := (cs.take width).takeWhile fun d => (Json.hexValue? d).isSome
      let n := ds.foldl (fun k d => k * 16 + (Json.hexValue? d).getD 0) 0
      if ds.length < width then .error (.shortEscape c width)
      else if n > 0x10FFFF then .error .noCharacter
      else (unescaped (width + 1) (c :: cs)).map (Text.ofUnit n :: ·)
    | none, none =>
      let ds := octalRun (c :: cs)
      if !ds.isEmpty then
        let n := ds.foldl (fun k d => k * 8 + (d.toNat - 48)) 0
        (unescaped ds.length (c :: cs)).map (Char.ofNat n :: ·)
      else if c = '\n' then unescaped 1 (c :: cs)
      else if c = 'N' then
        let name := (cs.drop 1).takeWhile (· ≠ '\x7d')
        let isNamed := cs.head? = some '\x7b' && !name.isEmpty && name.length + 1 < cs.length
        .error (if isNamed then .unknownCharacter else .unnamedCharacter)
      else (unescaped 1 (c :: cs)).map (keptEscape c ++ ·)
  | 0, c :: cs => (unescaped 0 cs).map (c :: ·)

/-- A text in quotes, and how many characters it takes. -/
def text? (cs : List Char) : Option (Token × Nat) :=
  match cs with
  | q :: cs =>
    if q ≠ '"' && q.toNat ≠ 39 then none else
    (quotedRun q cs).map fun inner =>
      (match unescaped 0 inner with
        | .ok s => .text (String.ofList s)
        | .error flaw => .broken flaw, inner.length + 2)
  | [] => none

/-! ## Names and operators -/

/-- Whether a character may stand in a word; not every word is a name. -/
def isWordChar (c : Char) : Bool := Text.isWordChar c || Text.isIdentifier (String.ofList ['a', c])

/-- A name, and how many characters it takes. -/
def name? (cs : List Char) : Option (Token × Nat) :=
  let word := cs.takeWhile isWordChar
  if word.isEmpty then none
  else if Text.isIdentifier (String.ofList word) then
    some (.name (String.ofList word), word.length)
  else some (.broken .badName, word.length)

/-- The operators of two characters. -/
def longOperators : List String := ["//", "**", "==", "!=", "<=", ">="]

/-- The operators of one character. -/
def shortOperators : List Char := "+-/*%~[](){}><=.:|,;".toList

/-- An operator, and how many characters it takes. -/
def operator? (cs : List Char) : Option (Token × Nat) :=
  match longOperators.find? fun s => s.toList.isPrefixOf cs, cs with
  | some s, _ => some (.operator s, 2)
  | none, c :: _ =>
    if shortOperators.contains c then some (.operator (String.singleton c), 1) else none
  | none, [] => none

/-- The brackets with those that close them. -/
def brackets : List (Char × Char) := [('(', ')'), ('[', ']'), ('\x7b', '\x7d')]

/-- The brackets that are open after an operator, as the ones that will close
    them. -/
def balance (opened : List Char) (operator : String) : Except TokenFlaw (List Char) :=
  match operator.toList with
  | [c] =>
    match Entries.get? c brackets, opened with
    | some d, _ => .ok (d :: opened)
    | none, opened =>
      if !brackets.any (·.2 = c) then .ok opened else
      match opened with
      | [] => .error (.unexpectedClose c none)
      | d :: opened => if c = d then .ok opened else .error (.unexpectedClose c (some d))
  | _ => .ok opened

/-! ## Cutting -/

/-- The tokens from a place on; `opened` are the brackets that are open, and
    `afterPoint` tells that the character before is a point.  Every token takes a
    character, so as many tokens as there are characters are enough. -/
def tokensFrom (fuel : Nat) (opened : List Char) (afterPoint : Bool) (p : Place) :
    List Token × Place :=
  match fuel with
  | 0 => ([.stop], p)
  | fuel + 1 =>
    match p.chars with
    | [] => ([.stop], p)
    | c :: cs =>
      match if opened.isEmpty then p.after? "-\x7d\x7d" else none,
          if opened.isEmpty then p.after? "\x7d\x7d" else none with
      | some rest, _ => ([.close], rest.skip)
      | none, some rest => ([.close], rest)
      | none, none =>
        if Text.isBlank c then tokensFrom fuel opened false (p.after 1) else
        let found := (if afterPoint then none else decimal? (c :: cs)) <|> integer? (c :: cs) <|>
          name? (c :: cs) <|> text? (c :: cs) <|> operator? (c :: cs)
        match found with
        | none => ([.broken (.unexpectedCharacter c p.position)], p)
        | some (.broken flaw, _) => ([.broken flaw], p)
        | some (.operator s, n) =>
          match balance opened s with
          | .error flaw => ([.broken flaw], p)
          | .ok opened =>
            let (ts, rest) := tokensFrom fuel opened (s = ".") (p.after n)
            (.operator s :: ts, rest)
        | some (t, n) =>
          let (ts, rest) := tokensFrom fuel opened false (p.after n)
          (t :: ts, rest)

/-- The tokens of the expression at a place, and the place after it. -/
def tokens (p : Place) : List Token × Place := tokensFrom (p.chars.length + 1) [] false p

end CodecForge.Template
