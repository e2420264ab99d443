/-
  CodecForge — source text before it is written out.

  A line of generated source is a list of tokens, so that the names a line
  writes can be read off it: names of the runtime, types, functions of a codec,
  and properties of the type that is written.

  * `Line.text` and `Source.text` write tokens out, each line with a line feed;
  * `Source.runtimeNames` are the names of the runtime that a source writes;
  * `literal` is a string literal that both target languages read, `comment`
    puts a comment mark before every line.
-/
import CodecForge.Json.Writer
import CodecForge.Text.Lines

namespace CodecForge

/-! ## Tokens -/

/-- The names that a generated module imports from the runtime, in the order of
    their text. -/
inductive RuntimeName where
  | dataCorruptedError
  | decoder
  | encoder
  | encodingError
  | fieldType
  | registerCodec
  | transformFromValue
  | transformValue
deriving DecidableEq, Repr

namespace RuntimeName

def label : RuntimeName → String
  | dataCorruptedError => "DataCorruptedError"
  | decoder => "Decoder"
  | encoder => "Encoder"
  | encodingError => "EncodingError"
  | fieldType => "field_type"
  | registerCodec => "register_codec"
  | transformFromValue => "transform_from_value"
  | transformValue => "transform_value"

def all : List RuntimeName :=
  [dataCorruptedError, decoder, encoder, encodingError, fieldType, registerCodec,
    transformFromValue, transformValue]

end RuntimeName

/-- A piece of a line.  A `property` carries the name of a property of the type
    and the way it is written as an expression. -/
inductive Token where
  | text (s : String)
  | runtime (n : RuntimeName)
  | type (name : String)
  | function (name : String)
  | property (name written : String)
deriving DecidableEq, Repr

def Token.written : Token → String
  | .text s => s
  | .runtime n => n.label
  | .type name => name
  | .function name => name
  | .property _ written => written

/-- A line, without its line feed. -/
abbrev Line := List Token

def Line.text (l : Line) : String := String.join (l.map Token.written)

/-- Lines in order. -/
abbrev Source := List Line

namespace Source

/-- One line that is plain text. -/
def plain (s : String) : Source := [[.text s]]

/-- One line of tokens. -/
def line (l : Line) : Source := [l]

/-- One blank line. -/
def blank : Source := [[]]

/-- The text of the lines, each ended by a line feed. -/
def text (s : Source) : String := String.join (s.map fun l => l.text ++ "\n")

/-- The names of the runtime that stand in the lines. -/
def runtimeNames (s : Source) : List RuntimeName :=
  s.flatten.filterMap fun
    | .runtime n => some n
    | _ => none

/-- The types that stand in the lines. -/
def types (s : Source) : List String :=
  s.flatten.filterMap fun
    | .type name => some name
    | _ => none

/-- The functions that stand in the lines. -/
def functions (s : Source) : List String :=
  s.flatten.filterMap fun
    | .function name => some name
    | _ => none

/-- The properties that stand in the lines, as they are written. -/
def properties (s : Source) : List (String × String) :=
  s.flatten.filterMap fun
    | .property name written => some (name, written)
    | _ => none

end Source

/-! ## Literals and comments -/

/-- A string literal in double quotes. -/
def literal (s : String) : String := Json.stringLiteral false s

/-- A comment mark before every line; a blank line is the mark alone. -/
def comment (mark text : String) : String :=
  Text.unlines ((Text.lines text).map fun l =>
    if l.toList.all Text.isBlank then mark else mark ++ " " ++ l)

end CodecForge
