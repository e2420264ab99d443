/-
  CodecForge — halves of surrogate pairs.

  Two code units make one character, and JSON texts may hold one of them without
  the other.  Half a pair is no character, so a private one stands for it, and is
  written as the half wherever characters are written by their numbers.

  * `ofHalf` is the character that stands for a half, `half?` the half for which a
    character stands;
  * `ofUnit` is the character with a number that may be one of a half.
-/

namespace CodecForge.Text

/-- Whether a number is one of half a pair. -/
def isHalf (n : Nat) : Bool := 0xD800 ≤ n && n ≤ 0xDFFF

/-- How far the private characters are from the halves for which they stand. -/
def halfOffset : Nat := 0xED000

/-- The character that stands for a half. -/
def ofHalf (n : Nat) : Char := Char.ofNat (n + halfOffset)

/-- The half for which a character stands. -/
def half? (c : Char) : Option Nat :=
  if isHalf (c.toNat - halfOffset) then some (c.toNat - halfOffset) else none

/-- The character with a number, which may be one of a half. -/
def ofUnit (n : Nat) : Char := if isHalf n then ofHalf n else Char.ofNat n

/-- Whether a text holds halves; such a text is not written as bytes. -/
def hasHalf (s : String) : Bool := s.toList.any fun c => (half? c).isSome

end CodecForge.Text
