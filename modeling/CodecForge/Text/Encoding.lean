/-
  CodecForge — texts in wider encodings.

  A text may be given as the bytes of units that are wider than a byte.

  * `Encoding.guess?` tells the units from the zeros among the first four bytes,
    as a text that begins with two ASCII characters shows them;
  * `Encoding.decode?` is the text that bytes stand for.
-/
import CodecForge.Text.Lines
import CodecForge.Text.Surrogate

namespace CodecForge.Text

/-- Units of several bytes: how many, and whether the first one counts least. -/
structure Encoding where
  width : Nat
  little : Bool
deriving DecidableEq, Repr

namespace Encoding

/-- The encoding whose first four bytes have zeros where these have. -/
def guess? (bytes : List UInt8) : Option Encoding :=
  match (bytes.take 4).map (· == 0) with
  | [true, false, true, false] => some ⟨2, false⟩
  | [false, true, false, true] => some ⟨2, true⟩
  | [true, true, true, false] => some ⟨4, false⟩
  | [false, true, true, true] => some ⟨4, true⟩
  | _ => none

/-- The number that the bytes of a unit denote. -/
def unit (e : Encoding) (bytes : List UInt8) : Nat :=
  (if e.little then bytes.reverse else bytes).foldl (fun n b => 256 * n + b.toNat) 0

/-- The units of bytes; all of them must be whole. -/
def units? (e : Encoding) (bytes : List UInt8) : Option (List Nat) :=
  if e.width = 0 || bytes.length % e.width ≠ 0 then none else
  some ((List.range (bytes.length / e.width)).map fun i =>
    e.unit ((bytes.drop (i * e.width)).take e.width))

/-- The character with a number; half a pair stays a half. -/
def char? (n : Nat) : Option Char := if n < 0x110000 then some (ofUnit n) else none

/-- The characters of units; a pair of half units is one character. -/
def chars? : List Nat → Option (List Char)
  | [] => some []
  | high :: low :: ns =>
    if 0xD800 ≤ high && high < 0xDC00 && 0xDC00 ≤ low && low < 0xE000 then
      (chars? ns).map (Char.ofNat (0x10000 + (high - 0xD800) * 0x400 + (low - 0xDC00)) :: ·)
    else do return (← char? high) :: (← chars? (low :: ns))
  | [n] => do return [← char? n]

/-- The text that bytes stand for. -/
def decode? (e : Encoding) (bytes : List UInt8) : Option String := do
  let ns ← e.units? bytes
  return String.ofList (← if e.width = 2 then chars? ns else ns.mapM char?)

end Encoding

/-- The text that the bytes of a text stand for in the encoding that its zeros
    show, the text itself if there is none. -/
def unwidened (s : String) : String :=
  let bytes := s.toUTF8.toList
  (((Encoding.guess? bytes).bind fun e => e.decode? bytes)).getD s

end CodecForge.Text
