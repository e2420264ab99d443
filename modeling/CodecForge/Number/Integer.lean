/-
  CodecForge — integers read from text.

  * `digitValue?` is the value of a decimal digit of any script;
  * `readInteger` reads a sign and digits, with blanks around them and single
    underscores between digits; the separator controls are no blanks here, and a
    text with very many digits is refused.
-/
import CodecForge.Text.Blank
import CodecForge.Text.DigitTable

namespace CodecForge

/-- The value of a decimal digit. -/
def digitValue? (c : Char) : Option Nat :=
  if c.isDigit then some (c.toNat - 48)
  else (Text.digitZeros.find? fun z => z ≤ c.toNat && c.toNat < z + 10).map (c.toNat - ·)

/-- The values of digits with single underscores between them. -/
def digitValues? : List Char → Option (List Nat)
  | [] => none
  | [c] => (digitValue? c).map ([·])
  | c :: '_' :: cs => do return (← digitValue? c) :: (← digitValues? cs)
  | c :: cs => do return (← digitValue? c) :: (← digitValues? cs)

/-- How many digits are read at most. -/
def digitLimit : Nat := 4300

/-- The number that digits denote. -/
def readDigits (cs : List Char) : Option Nat := do
  let ds ← digitValues? cs
  if ds.length > digitLimit then none else some (ds.foldl (fun n d => 10 * n + d) 0)

/-- What may stand around an integer: every blank but the separator controls. -/
def surroundsInteger (c : Char) : Bool :=
  Text.isBlank c && !(28 ≤ c.toNat && c.toNat ≤ 31)

/-- The integer that a text denotes. -/
def readInteger (s : String) : Option Int :=
  match Text.strip surroundsInteger s.toList with
  | '-' :: cs => (readDigits cs).map fun n => -(n : Int)
  | '+' :: cs => (readDigits cs).map fun n => (n : Int)
  | cs => (readDigits cs).map fun n => (n : Int)

end CodecForge
