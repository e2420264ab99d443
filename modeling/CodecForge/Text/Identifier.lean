/-
  CodecForge — identifiers.

  * `isAsciiIdentifier`: letters, digits and underscores of ASCII, not empty
    and not opened by a digit, with one line feed allowed at the end;
  * `isIdentifier`: the same by the properties of Unicode;
  * `isWordChar` is the wider class of characters that words consist of.
-/
import CodecForge.Text.Case
import CodecForge.Text.IdentifierTable
import CodecForge.Text.WordTable

namespace CodecForge.Text

/-! ## ASCII -/

/-- A letter of ASCII or an underscore. -/
def isNameStart (c : Char) : Bool := c.isAlpha || c == '_'

/-- A letter or digit of ASCII or an underscore. -/
def isNameChar (c : Char) : Bool := c.isAlphanum || c == '_'

/-- Letters, digits and underscores, at least one of them, no digit first. -/
def isPlainName : List Char → Bool
  | [] => false
  | c :: cs => isNameStart c && cs.all isNameChar

theorem isNameChar_of_isPlainName {cs : List Char} (h : isPlainName cs) :
    ∀ c ∈ cs, isNameChar c := by
  cases cs with
  | nil => simp
  | cons c cs =>
    rw [isPlainName, Bool.and_eq_true, List.all_eq_true, isNameStart, Bool.or_eq_true] at h
    refine List.forall_mem_cons.2 ⟨?_, h.2⟩
    rw [isNameChar, Char.isAlphanum, Bool.or_eq_true, Bool.or_eq_true]
    exact h.1.imp_left .inl

/-- A plain name, or a plain name followed by one line feed. -/
def isAsciiIdentifier (s : String) : Bool :=
  isPlainName s.toList ||
    (s.toList.getLast? == some '\n' && isPlainName s.toList.dropLast)

/-! ## Unicode -/

/-- An identifier by the properties of Unicode. -/
def isIdentifier (s : String) : Bool :=
  match s.toList with
  | [] => false
  | c :: cs =>
    inRanges c.toNat identifierStartRanges &&
      cs.all fun d => inRanges d.toNat identifierContinueRanges

/-- A letter or a number of any script, or an underscore. -/
def isWordChar (c : Char) : Bool := inRanges c.toNat wordRanges

end CodecForge.Text
