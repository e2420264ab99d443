/-
  CodecForge — names that are safe in a target language.

  * `sanitized` makes a name safe: characters outside letters, digits, hyphen
    and underscore become underscores, the case is converted, and a word of
    the language takes a suffix;
  * a `Sanitizer` remembers what it answered under a key made of the name, the
    case and the suffix; `Sanitizer.sanitize` asks its memory first.
-/
import CodecForge.Entries
import CodecForge.Naming.Convention

namespace CodecForge.Naming

/-- The cases a name can be converted to. -/
inductive NameCase where
  | snake
  | camel
  | pascal
  | screamingSnake
deriving DecidableEq, Repr

namespace NameCase

/-- The name of a case. -/
def label : NameCase → String
  | snake => "snake"
  | camel => "camel"
  | pascal => "pascal"
  | screamingSnake => "screaming_snake"

def all : List NameCase := [snake, camel, pascal, screamingSnake]

/-- The case with a given name. -/
def ofLabel? (s : String) : Option NameCase := all.find? (·.label == s)

/-- A name converted to a case. -/
def convert (name : String) : NameCase → String
  | snake => toSnake name
  | camel => toCamel name
  | pascal => toPascal name
  | screamingSnake => String.ofList ((snakeChars name.toList).flatMap Text.upperChar)

end NameCase

/-! ## Safe names -/

/-- Letters, digits, hyphen and underscore of ASCII. -/
def isWordChar (c : Char) : Bool := c.isAlphanum || c == '_' || c == '-'

/-- The name with other characters as underscores, without hyphens and
    underscores at its ends, an underscore before a first digit, and a name of
    its own for nothing. -/
def cleaned (name : String) : String :=
  let kept := Text.strip (fun c => c == '_' || c == '-')
    (name.toList.map fun c => if isWordChar c then c else '_')
  match kept with
  | [] => "value"
  | c :: _ => String.ofList (if c.isDigit then '_' :: kept else kept)

/-- The words a language keeps for itself. -/
structure WordSets where
  reserved : List String
  builtins : List String

/-- The safe form of a name. -/
def sanitized (words : WordSets) (name : String) (case : NameCase) (suffix : String) : String :=
  let converted := case.convert (cleaned name)
  if words.reserved.contains converted || words.builtins.contains converted then
    converted ++ suffix
  else converted

/-! ## With a memory -/

/-- A sanitizer and the answers it has given. -/
structure Sanitizer where
  words : WordSets
  cache : List (String × String) := []

/-- The key of an answer. -/
def cacheKey (name : String) (case : NameCase) (suffix : String) : String :=
  name ++ "_" ++ case.label ++ "_" ++ suffix

/-- The safe form of a name, from memory if its key is there. -/
def Sanitizer.sanitize (s : Sanitizer) (name : String) (case : NameCase) (suffix : String) :
    String × Sanitizer :=
  let key := cacheKey name case suffix
  match Entries.get? key s.cache with
  | some answer => (answer, s)
  | none =>
    let answer := sanitized s.words name case suffix
    (answer, { s with cache := Entries.put key answer s.cache })

def Sanitizer.isReserved (s : Sanitizer) (name : String) : Bool := s.words.reserved.contains name

end CodecForge.Naming
