/-
  CodecForge — reading JSON texts.

  The reader follows the usual grammar, widened by `NaN`, `Infinity` and
  `-Infinity`, and says of a bad text what is wrong and where.

  * `Json.read` reads a whole text;
  * `ReadError` is a syntax error at a position, an integer with more digits
    than may be converted, or a value that is nested too deep;
    `ReadError.message` is its text.

  The two halves of a surrogate pair are read as one character; half a pair stays
  a half.
-/
import CodecForge.Json.Basic

namespace CodecForge

/-! ## Errors -/

namespace Json

/-- What is wrong with a text at some position. -/
inductive Flaw where
  | byteOrderMark
  | noValue
  | noPropertyName
  | noColon
  | noComma
  | openString
  | controlCharacter
  | escape
  | unicodeEscape
  | extraData
deriving DecidableEq, Repr

/-- The words for a flaw. -/
def Flaw.message : Flaw → String
  | .byteOrderMark => "Unexpected UTF-8 BOM (decode using utf-8-sig)"
  | .noValue => "Expecting value"
  | .noPropertyName => "Expecting property name enclosed in double quotes"
  | .noColon => "Expecting ':' delimiter"
  | .noComma => "Expecting ',' delimiter"
  | .openString => "Unterminated string starting at"
  | .controlCharacter => "Invalid control character at"
  | .escape => "Invalid \\escape"
  | .unicodeEscape => "Invalid \\uXXXX escape"
  | .extraData => "Extra data"

/-- What may hold values. -/
inductive Holder where
  | array
  | object
deriving DecidableEq, Repr

def Holder.label : Holder → String
  | .array => "array"
  | .object => "object"

/-- Why a text is not read. -/
inductive ReadError where
  | flaw (f : Flaw) (line column position : Nat)
  | longInteger (digits : Nat)
  | tooDeep (h : Holder)
deriving DecidableEq, Repr

/-- The text of an error, with its place in lines and columns from one. -/
def ReadError.message : ReadError → String
  | .flaw f line column position =>
    s!"{f.message}: line {line} column {column} (char {position})"
  | .longInteger digits =>
    "Exceeds the limit (4300 digits) for integer string conversion: " ++
      s!"value has {digits} digits; use sys.set_int_max_str_digits() to increase the limit"
  | .tooDeep h =>
    s!"maximum recursion depth exceeded while decoding a JSON {h.label} from a unicode string"

/-! ## Scanning -/

/-- What is left of a text, and the position of its first character. -/
structure Rest where
  chars : List Char
  pos : Nat

/-- A failure inside the text. -/
inductive Stop where
  | flaw (f : Flaw) (position : Nat)
  | longInteger (digits : Nat)
  | tooDeep (h : Holder)

/-- The rest after its first character. -/
def Rest.next (r : Rest) : Rest := ⟨r.chars.tail, r.pos + 1⟩

/-- Blanks of the grammar. -/
def isSpace (c : Char) : Bool := c == ' ' || c == '\t' || c == '\n' || c == '\r'

/-- The rest after blanks. -/
def Rest.skip (r : Rest) : Rest :=
  let kept := r.chars.dropWhile isSpace
  ⟨kept, r.pos + (r.chars.length - kept.length)⟩

/-- The rest after `word`, if it begins with it. -/
def Rest.after? (r : Rest) (word : String) : Option Rest :=
  if word.toList.isPrefixOf r.chars then
    some ⟨r.chars.drop word.length, r.pos + word.length⟩
  else none

/-- The value of a hexadecimal digit. -/
def hexValue? (c : Char) : Option Nat :=
  if '0' ≤ c && c ≤ '9' then some (c.toNat - 48)
  else if 'a' ≤ c && c ≤ 'f' then some (c.toNat - 87)
  else if 'A' ≤ c && c ≤ 'F' then some (c.toNat - 55)
  else none

/-- The number written by the first four characters. -/
def hexQuad? : List Char → Option Nat
  | a :: b :: c :: d :: _ => do
    return (((← hexValue? a) * 16 + (← hexValue? b)) * 16 + (← hexValue? c)) * 16 + (← hexValue? d)
  | _ => none

/-- The escape after a backslash and `u`: its character and how many characters
    it takes after the `u`.  The text must go on after it. -/
def unicodeEscape (cs : List Char) (pos : Nat) : Except Stop (Char × Nat) :=
  if cs.length ≤ 4 then .error (.flaw .unicodeEscape pos) else
  match hexQuad? cs with
  | none => .error (.flaw .unicodeEscape pos)
  | some high =>
    if 0xD800 ≤ high && high ≤ 0xDBFF then
      match cs.drop 4 with
      | '\\' :: 'u' :: tail =>
        if tail.length ≤ 4 then .ok (Text.ofUnit high, 4) else
        match hexQuad? tail with
        | none => .error (.flaw .unicodeEscape (pos + 6))
        | some low =>
          if 0xDC00 ≤ low && low ≤ 0xDFFF then
            .ok (Char.ofNat (0x10000 + (high - 0xD800) * 0x400 + (low - 0xDC00)), 10)
          else .ok (Text.ofUnit high, 4)
      | _ => .ok (Text.ofUnit high, 4)
    else .ok (Text.ofUnit high, 4)

/-- The character of an escape of one letter. -/
def letterEscape? (c : Char) : Option Char :=
  if c == '"' || c == '\\' || c == '/' then some c
  else if c == 'b' then some (Char.ofNat 8)
  else if c == 'f' then some (Char.ofNat 12)
  else if c == 'n' then some '\n'
  else if c == 'r' then some '\r'
  else if c == 't' then some '\t'
  else none

/-- The rest of a string whose opening quote stands at `start`; `acc` holds the
    characters read so far, reversed. -/
def readString (start : Nat) (acc : List Char) (r : Rest) : Except Stop (String × Rest) :=
  match h : r.chars with
  | [] => .error (.flaw .openString start)
  | '"' :: _ => .ok (String.ofList acc.reverse, r.next)
  | ['\\'] => .error (.flaw .openString start)
  | '\\' :: 'u' :: cs =>
    match unicodeEscape cs (r.pos + 1) with
    | .error e => .error e
    | .ok (c, n) => readString start (c :: acc) ⟨cs.drop n, r.pos + 2 + n⟩
  | '\\' :: e :: cs =>
    match letterEscape? e with
    | none => .error (.flaw .escape r.pos)
    | some c => readString start (c :: acc) ⟨cs, r.pos + 2⟩
  | c :: cs =>
    if c.toNat < 0x20 then .error (.flaw .controlCharacter r.pos)
    else readString start (c :: acc) ⟨cs, r.pos + 1⟩
termination_by r.chars.length
decreasing_by all_goals simp [h]; try omega

/-- The number that digits denote. -/
def digitsValue (ds : List Char) : Nat :=
  ds.foldl (fun n c => n * 10 + (c.toNat - 48)) 0

/-- A fraction: the digits after a point, if there is one before a digit. -/
def fractionOf : List Char → List Char
  | '.' :: cs => cs.takeWhile Char.isDigit
  | _ => []

/-- An exponent with its length, if there is a mark, perhaps a sign, and a
    digit. -/
def exponentOf : List Char → Int × Nat
  | e :: cs =>
    if e == 'e' || e == 'E' then
      let (neg, signLength, ds) := match cs with
        | '-' :: ds => (true, 1, ds)
        | '+' :: ds => (false, 1, ds)
        | ds => (false, 0, ds)
      let ds := ds.takeWhile Char.isDigit
      if ds.isEmpty then (0, 0)
      else (if neg then -(digitsValue ds : Int) else digitsValue ds, 1 + signLength + ds.length)
    else (0, 0)
  | [] => (0, 0)

/-- The digits before the point: a lone zero, or digits with no zero first. -/
def wholeOf : List Char → List Char
  | '0' :: _ => ['0']
  | cs => cs.takeWhile Char.isDigit

/-- A number. -/
def readNumber (r : Rest) : Except Stop (Json × Rest) :=
  let (neg, cs) := match r.chars with
    | '-' :: cs => (true, cs)
    | cs => (false, cs)
  let whole := wholeOf cs
  if whole.isEmpty then .error (.flaw .noValue r.pos) else
  let afterWhole := cs.drop whole.length
  let fraction := fractionOf afterWhole
  let fractionLength := if fraction.isEmpty then 0 else fraction.length + 1
  let (exponent, exponentLength) := exponentOf (afterWhole.drop fractionLength)
  let length := (if neg then 1 else 0) + whole.length + fractionLength + exponentLength
  let rest : Rest := ⟨r.chars.drop length, r.pos + length⟩
  if fractionLength == 0 && exponentLength == 0 then
    if whole.length > 4300 then .error (.longInteger whole.length)
    else
      let n : Int := digitsValue whole
      .ok (.int (if neg then -n else n), rest)
  else
    .ok (.float (.ofDecimal neg (digitsValue (whole ++ fraction)) (exponent - fraction.length)),
      rest)

/-- The words that stand for a value. -/
def words : List (String × Json) :=
  [("null", .null), ("true", .bool true), ("false", .bool false), ("NaN", .float .textNaN),
    ("Infinity", .float (.infinity false)), ("-Infinity", .float (.infinity true))]

/-- The word at the beginning of the rest, if there is one. -/
def Rest.word? (r : Rest) : Option (Json × Rest) :=
  words.findSome? fun (word, value) => (r.after? word).map fun rest => (value, rest)

mutual

/-- A value at the beginning of the rest, in which values are nested `depth`
    times at most.  Every step into a value or past a delimiter spends one unit
    of `fuel`. -/
def readValue (fuel depth : Nat) (r : Rest) : Except Stop (Json × Rest) :=
  match fuel with
  | 0 => .error (.flaw .noValue r.pos)
  | fuel + 1 =>
    match r.chars with
    | '"' :: _ => do
      let (s, rest) ← readString r.pos [] r.next
      return (.str s, rest)
    | '\x7b' :: _ =>
      if depth = 0 then .error (.tooDeep .object) else
      let r := r.next.skip
      match r.chars with
      | '\x7d' :: _ => .ok (.obj [], r.next)
      | _ => readEntries fuel (depth - 1) [] r
    | '[' :: _ =>
      if depth = 0 then .error (.tooDeep .array) else
      let r := r.next.skip
      match r.chars with
      | ']' :: _ => .ok (.arr [], r.next)
      | _ => readItems fuel (depth - 1) [] r
    | _ =>
      match r.word? with
      | some found => .ok found
      | none => readNumber r

/-- The entries of an object from the next property name on. -/
def readEntries (fuel depth : Nat) (acc : List (String × Json)) (r : Rest) :
    Except Stop (Json × Rest) :=
  match fuel with
  | 0 => .error (.flaw .noPropertyName r.pos)
  | fuel + 1 =>
    match r.chars with
    | '"' :: _ => do
      let (key, r) ← readString r.pos [] r.next
      let r := r.skip
      match r.chars with
      | ':' :: _ =>
        let (value, r) ← readValue fuel depth r.next.skip
        let acc := (key, value) :: acc
        let r := r.skip
        match r.chars with
        | '\x7d' :: _ => .ok (.obj (Entries.ofPairs acc.reverse), r.next)
        | ',' :: _ => readEntries fuel depth acc r.next.skip
        | _ => .error (.flaw .noComma r.pos)
      | _ => .error (.flaw .noColon r.pos)
    | _ => .error (.flaw .noPropertyName r.pos)

/-- The items of a list from the next one on. -/
def readItems (fuel depth : Nat) (acc : List Json) (r : Rest) : Except Stop (Json × Rest) :=
  match fuel with
  | 0 => .error (.flaw .noValue r.pos)
  | fuel + 1 => do
    let (value, r) ← readValue fuel depth r
    let acc := value :: acc
    let r := r.skip
    match r.chars with
    | ']' :: _ => .ok (.arr acc.reverse, r.next)
    | ',' :: _ => readItems fuel depth acc r.next.skip
    | _ => .error (.flaw .noComma r.pos)

end

/-! ## Whole texts -/

/-- Line and column, both from one, of a position in a text. -/
def place (cs : List Char) (pos : Nat) : Nat × Nat :=
  let before := cs.take pos
  (before.count '\n' + 1, (before.reverse.takeWhile (· ≠ '\n')).length + 1)

/-- The error of a whole text that a failure inside it causes. -/
def Stop.located (cs : List Char) : Stop → ReadError
  | .flaw f pos => let (line, column) := place cs pos; .flaw f line column pos
  | .longInteger n => .longInteger n
  | .tooDeep h => .tooDeep h

/-- How deep values may be nested. -/
def maxDepth : Nat := 985

/-- Reads a text that holds one value and nothing else.  Between two steps that
    spend fuel at least one character is read, and a step into a value and one
    past a delimiter can meet at the same character. -/
def read (s : String) : Except ReadError Json :=
  let cs := s.toList
  let result : Except Stop Json :=
    if cs.head? == some (Char.ofNat 0xFEFF) then .error (.flaw .byteOrderMark 0) else do
    let (value, r) ← readValue (2 * cs.length + 2) maxDepth (Rest.skip ⟨cs, 0⟩)
    let r := r.skip
    if r.chars.isEmpty then return value else .error (.flaw .extraData r.pos)
  result.mapError (Stop.located cs)

end Json

end CodecForge
