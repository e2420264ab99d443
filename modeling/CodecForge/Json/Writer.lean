/-
  CodecForge — writing JSON texts.

  * `stringLiteral` writes a string, with every character beyond ASCII as an
    escape if `ascii` is set;
  * `Format` says how a value is laid out, and `Json.write` writes it; the
    default format puts everything on one line with a blank after each
    separator.
-/
import CodecForge.Json.Basic

namespace CodecForge.Json

/-! ## Strings -/

/-- The escape for a code unit. -/
def unitEscape (n : Nat) : List Char := '\\' :: 'u' :: Text.hexChars 4 n

/-- One character of a string literal. -/
def literalChar (ascii : Bool) (c : Char) : List Char :=
  let n := c.toNat
  if c == '"' || c == '\\' then ['\\', c]
  else if c == '\n' then ['\\', 'n']
  else if c == '\r' then ['\\', 'r']
  else if c == '\t' then ['\\', 't']
  else if n == 8 then ['\\', 'b']
  else if n == 12 then ['\\', 'f']
  else if n < 0x20 then unitEscape n
  else if !ascii || n < 0x7F then [c]
  else if let some half := Text.half? c then unitEscape half
  else if n < 0x10000 then unitEscape n
  else
    let m := n - 0x10000
    unitEscape (0xD800 + m / 0x400) ++ unitEscape (0xDC00 + m % 0x400)

/-- A string literal as characters. -/
def literalChars (ascii : Bool) (cs : List Char) : List Char :=
  '"' :: (cs.flatMap (literalChar ascii) ++ ['"'])

/-- A string literal. -/
def stringLiteral (ascii : Bool) (s : String) : String :=
  String.ofList (literalChars ascii s.toList)

/-! ## Values -/

/-- How a value is written: `indent?` is what each level is indented by, on
    lines of their own, or none for one line. -/
structure Format where
  indent? : Option String
  ascii : Bool
  itemSeparator : String
  keySeparator : String

/-- Everything on one line, ASCII only. -/
def Format.oneLine : Format := ⟨none, true, ", ", ": "⟩

/-- Items on lines of their own, each level indented by two blanks. -/
def Format.indented : Format := ⟨some "  ", false, ",", ": "⟩

/-- The text of a float, with the words for the numbers that JSON lacks. -/
def floatText (x : Double) : String :=
  if x.isNaN then "NaN"
  else if x.isInfinite then (if x.negative then "-Infinity" else "Infinity")
  else x.text

/-- A line break and the indentation of a level, or nothing on one line. -/
def Format.break (f : Format) (level : Nat) : String :=
  match f.indent? with
  | none => ""
  | some unit => "\n" ++ String.join (List.replicate level unit)

/-- Items between brackets at a level. -/
def Format.bracketed (f : Format) (level : Nat) (opening closing : String) (items : List String) :
    String :=
  if items.isEmpty then opening ++ closing else
  opening ++ f.break (level + 1) ++ (f.itemSeparator ++ f.break (level + 1)).intercalate items ++
    f.break level ++ closing

mutual

/-- A value whose brackets stand at a level. -/
def writeAt (f : Format) (level : Nat) : Json → String
  | .null => "null"
  | .bool b => if b then "true" else "false"
  | .int n => toString n
  | .float x => floatText x
  | .str s => stringLiteral f.ascii s
  | .arr xs => f.bracketed level "[" "]" (writeItems f (level + 1) xs)
  | .obj es => f.bracketed level "\x7b" "\x7d" (writeEntries f (level + 1) es)

/-- The texts of the items of a list. -/
def writeItems (f : Format) (level : Nat) : List Json → List String
  | [] => []
  | x :: xs => writeAt f level x :: writeItems f level xs

/-- The texts of the entries of an object. -/
def writeEntries (f : Format) (level : Nat) : List (String × Json) → List String
  | [] => []
  | (k, v) :: es =>
    (stringLiteral f.ascii k ++ f.keySeparator ++ writeAt f level v) :: writeEntries f level es

end

/-- The text of a value. -/
def write (f : Format) (v : Json) : String := writeAt f 0 v

end CodecForge.Json
