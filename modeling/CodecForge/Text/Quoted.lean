/-
  CodecForge — a text in quotes, as messages show it.

  * `quoted` puts single quotes round a text, double ones if it holds a single
    quote and no double one; what has no visible form is written as an escape;
  * `hex` writes a number with a given count of hexadecimal digits.
-/
import CodecForge.Text.Case
import CodecForge.Text.PrintTable
import CodecForge.Text.Surrogate

namespace CodecForge.Text

/-! ## Digits -/

/-- The hexadecimal digit of `d`, in lower case. -/
def hexDigit (d : Nat) : Char :=
  if d < 10 then Char.ofNat (48 + d) else Char.ofNat (87 + d)

/-- The last `width` hexadecimal digits of `n`. -/
def hexChars : Nat → Nat → List Char
  | 0, _ => []
  | width + 1, n => hexChars width (n / 16) ++ [hexDigit (n % 16)]

/-- The last `width` hexadecimal digits of `n`, as a string. -/
def hex (width n : Nat) : String := String.ofList (hexChars width n)

/-! ## Quotes -/

/-- Whether a character has a visible form. -/
def isVisible (c : Char) : Bool :=
  if c.toNat < 0x7F then 0x20 ≤ c.toNat else !inRanges c.toNat hiddenRanges

/-- The quotes chosen for a text: single, unless only that would need escapes. -/
def quoteFor (cs : List Char) : Char :=
  if cs.contains '\'' && !cs.contains '"' then '"' else '\''

/-- One character between the quotes `q`. -/
def quotedChar (q c : Char) : List Char :=
  if c == q || c == '\\' then ['\\', c]
  else if c == '\n' then ['\\', 'n']
  else if c == '\r' then ['\\', 'r']
  else if c == '\t' then ['\\', 't']
  else if let some n := half? c then '\\' :: 'u' :: hexChars 4 n
  else if isVisible c then [c]
  else if c.toNat < 0x100 then '\\' :: 'x' :: hexChars 2 c.toNat
  else if c.toNat < 0x10000 then '\\' :: 'u' :: hexChars 4 c.toNat
  else '\\' :: 'U' :: hexChars 8 c.toNat

/-- The text in quotes. -/
def quotedChars (cs : List Char) : List Char :=
  let q := quoteFor cs
  q :: (cs.flatMap (quotedChar q) ++ [q])

/-- `s` in quotes. -/
def quoted (s : String) : String := String.ofList (quotedChars s.toList)

/-- A byte between quotes, where only ASCII has a visible form; `escaped` is the
    quote that gets a backslash. -/
def quotedByte (escaped : Char) (b : UInt8) : List Char :=
  let c := Char.ofNat b.toNat
  if b.toNat < 0x7F then quotedChar escaped c else '\\' :: 'x' :: hexChars 2 b.toNat

/-- A sequence of bytes in quotes, marked with a leading `b`.  A single quote gets a
    backslash between double quotes, too, if `always` says so. -/
def quotedBytes (always : Bool) (bs : List UInt8) : String :=
  let q := quoteFor (bs.map fun b => Char.ofNat b.toNat)
  let escaped := if always then '\'' else q
  String.ofList ('b' :: q :: (bs.flatMap (quotedByte escaped) ++ [q]))

end CodecForge.Text
