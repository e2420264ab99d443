/-
  CodecForge — the layout of generated source.

  Source is written with four blanks for a level of indentation and laid out
  for the width that is asked for.

  * `reindent` changes the leading blanks of a line, `squeeze` keeps at most
    two blank lines in a row, `format` does both and ends the text with one
    line feed;
  * `sizeOf?` is the width that a value stands for, which must be a number;
    `formatWith` also refuses a width that makes a line longer than a text can
    be, or longer than there is room for.
-/
import CodecForge.Json.Basic
import CodecForge.Text.Lines

namespace CodecForge.Layout

/-! ## Lines -/

/-- The blanks of one level in source that is not laid out yet. -/
def unit : Nat := 4

/-- How many blanks a line begins with. -/
def leadingBlanks (l : List Char) : Nat := (l.takeWhile (· == ' ')).length

/-- The width of the indentation that `n` blanks become. -/
def widthOf (size : Int) (n : Nat) : Int := (n / unit : Nat) * size + (n % unit : Nat)

/-- A line with its indentation in the width asked for; none for a negative width. -/
def reindent (size : Int) (l : List Char) : List Char :=
  if size = unit then l
  else List.replicate (widthOf size (leadingBlanks l)).toNat ' ' ++ l.dropWhile (· == ' ')

/-- The lines without the blank ones after the second in a row; `n` is the
    number of blank lines before. -/
def squeeze (n : Nat) : List (List Char) → List (List Char)
  | [] => []
  | l :: ls =>
    if l.isEmpty then
      if n < 2 then l :: squeeze (n + 1) ls else squeeze (n + 1) ls
    else l :: squeeze 0 ls

/-- The lines of a text at a width, without blanks at their ends. -/
def formattedLines (size : Int) (code : List Char) : List (List Char) :=
  squeeze 0 ((Text.splitOn '\n' code).map fun l => reindent size (Text.dropEnd Text.isBlank l))

/-- A text at a width, ended by one line feed. -/
def formatChars (size : Int) (code : List Char) : List Char :=
  Text.strip (· == '\n') (Text.joinWith '\n' (formattedLines size code)) ++ ['\n']

/-- A text at a width, ended by one line feed. -/
def format (size : Int) (code : String) : String :=
  String.ofList (formatChars size code.toList)

/-! ## Widths that are not numbers -/

/-- Why a text is not laid out. -/
inductive Fault where
  /-- a width that is no integer, of the kind named -/
  | notANumber (kind : String)
  /-- a count of blanks that no text can have -/
  | tooWide
  /-- a count of blanks that there is no room for -/
  | noRoom
deriving DecidableEq, Repr

/-- The text of a fault. -/
def Fault.message : Fault → String
  | .notANumber "float" => "can't multiply sequence by non-int of type 'float'"
  | .notANumber "str" => "can only concatenate str (not \"int\") to str"
  | .notANumber "list" => "can only concatenate list (not \"int\") to list"
  | .notANumber kind => s!"unsupported operand type(s) for *: 'int' and '{kind}'"
  | .tooWide => "cannot fit 'int' into an index-sized integer"
  | .noRoom => ""

/-- The width that a value stands for: an integer, a boolean read as one, or the
    float that equals the width of the source itself. -/
def sizeOf? : Json → Option Int
  | .int n => some n
  | .bool b => some (if b then 1 else 0)
  | .float x => if x.eqInt unit then some unit else none
  | _ => none

/-- The bound on a count of blanks, of either sign. -/
def countBound : Int := Nat.pow 2 63

/-- The least count of blanks that there is no room for. -/
def roomBound : Int := Nat.pow 2 32

/-- What is wrong with a count of blanks. -/
def faultOf? (count : Int) : Option Fault :=
  if count < -countBound || countBound ≤ count then some .tooWide
  else if roomBound ≤ count then some .noRoom
  else none

/-- What is wrong with the first line that cannot be laid out at a width. -/
def lineFault? (size : Int) (code : String) : Option Fault :=
  if size = unit then none else
  (Text.lines code).findSome? fun l =>
    faultOf? (widthOf size (leadingBlanks (Text.dropEnd Text.isBlank l.toList)))

/-- A text at the width that a value stands for. -/
def formatWith (size : Json) (code : String) : Except Fault String :=
  match sizeOf? size with
  | none => .error (.notANumber size.kindName)
  | some n =>
    match lineFault? n code with
    | some fault => .error fault
    | none => .ok (format n code)

/-- The indentation of one level; only integers count as a width here. -/
def indentation (size : Json) : Except Fault String :=
  match size.asInt? with
  | none => .error (.notANumber size.kindName)
  | some n =>
    match faultOf? n with
    | some fault => .error fault
    | none => .ok (String.ofList (List.replicate n.toNat ' '))

end CodecForge.Layout
