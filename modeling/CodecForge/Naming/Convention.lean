/-
  CodecForge — naming conventions.

  A name is cut into words where an upper case letter of ASCII opens one.
  Snake case writes the words in lower case with one underscore between them;
  camel and pascal case are read off it.

  * `opensWord` is the rule for a cut, `snakeChars` the pipeline: cut, lower
    case, single underscores, none at the ends;
  * `toSnake`, `toCamel`, `toPascal`, `capitalizeFirst` on strings;
  * `groupEnumName` is the name under which a case finds its group without a
    marker, `normalizeMarker` the form in which markers and options compare.
-/
import CodecForge.Text.Case
import CodecForge.Text.Lines

namespace CodecForge.Naming

/-! ## Words -/

/-- Whether an underscore belongs before `c`: it is an upper case letter after
    a lower case letter or a digit, or the last of several upper case letters
    before a lower case one. -/
def opensWord (before : Option Char) (c : Char) (after : Option Char) : Bool :=
  c.isUpper &&
    match before with
    | none => false
    | some b => b.isLower || b.isDigit || (b.isUpper && after.any Char.isLower)

/-- The text with an underscore before every character that opens a word. -/
def cutWords (before : Option Char) : List Char → List Char
  | [] => []
  | c :: cs =>
    if opensWord before c cs.head? then '_' :: c :: cutWords (some c) cs
    else c :: cutWords (some c) cs

/-- Runs of underscores as one underscore. -/
def singleUnderscores : List Char → List Char
  | [] => []
  | [c] => [c]
  | c :: d :: cs =>
    if c = '_' ∧ d = '_' then singleUnderscores (d :: cs) else c :: singleUnderscores (d :: cs)

/-- Hyphens as underscores. -/
def hyphensToUnderscores (cs : List Char) : List Char :=
  cs.map fun c => if c = '-' then '_' else c

/-- Snake case of a text. -/
def snakeChars (cs : List Char) : List Char :=
  Text.strip (· == '_')
    (singleUnderscores (Text.lower (cutWords none (hyphensToUnderscores cs))))

/-! ## Cases -/

/-- `userName` as `user_name`. -/
def toSnake (name : String) : String := String.ofList (snakeChars name.toList)

/-- The words of a name. -/
def snakeWords (name : String) : List (List Char) := Text.splitOn '_' (snakeChars name.toList)

/-- `user_name` as `userName`. -/
def toCamel (name : String) : String :=
  let words := snakeWords name
  String.ofList (words.headD [] ++ words.tail.flatMap Text.capitalize)

/-- `user_name` as `UserName`. -/
def toPascal (name : String) : String :=
  String.ofList ((snakeWords name).flatMap Text.capitalize)

/-- The first character in upper case, the rest as it is. -/
def capitalizeFirst (name : String) : String :=
  match name.toList with
  | [] => ""
  | c :: cs => String.ofList (Text.upperChar c ++ cs)

/-! ## Coding keys -/

/-- The tag of an enumeration that lists coding keys. -/
def codingKeyTag : String := "CodingKey"

/-- `names` as `NamesCodingKeys`. -/
def groupEnumName (fieldName : String) : String := capitalizeFirst fieldName ++ "CodingKeys"

/-- The form in which the names of markers and options compare: `@DecodedValue`
    as `decoded_value`. -/
def normalizeMarker (name : String) : String :=
  toSnake (Text.trimStartOf ['@'] (Text.trim name))

end CodecForge.Naming
