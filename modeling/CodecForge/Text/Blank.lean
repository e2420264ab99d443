/-
  CodecForge — white space, and the ends of a text.

  * `isBlank` is white space in the wide sense: the ASCII blanks, the four
    separator controls, and every blank of Unicode;
  * `dropEnd` drops the longest final part whose characters satisfy a test,
    `strip` does so at both ends; `trim` and `trimEnd` are their instances for
    blanks on strings, and `trimOf` drops given characters at both ends;
  * `isInfix_strip`, `head_strip` and `getLast_strip`: stripping leaves a part of
    the text, which does not begin or end with a dropped character.
-/

namespace CodecForge.Text

/-- White space: the ASCII blanks, the separator controls 28 to 31, and the
    blanks of Unicode. -/
def isBlank (c : Char) : Bool :=
  let n := c.toNat
  (9 ≤ n && n ≤ 13) || (28 ≤ n && n ≤ 32) || n == 0x85 || n == 0xA0 || n == 0x1680 ||
    (0x2000 ≤ n && n ≤ 0x200A) || n == 0x2028 || n == 0x2029 || n == 0x202F || n == 0x205F ||
    n == 0x3000

/-! ## Dropping at the ends -/

/-- Drops the longest final part of which every character satisfies `p`. -/
def dropEnd (p : Char → Bool) (cs : List Char) : List Char :=
  (cs.reverse.dropWhile p).reverse

/-- Drops the characters satisfying `p` at both ends. -/
def strip (p : Char → Bool) (cs : List Char) : List Char :=
  dropEnd p (cs.dropWhile p)

/-- `s` without the blanks at its ends. -/
def trim (s : String) : String := String.ofList (strip isBlank s.toList)

/-- `s` without the blanks at its right end. -/
def trimEnd (s : String) : String := String.ofList (dropEnd isBlank s.toList)

/-- `s` without the characters of `cs` at its ends. -/
def trimOf (cs : List Char) (s : String) : String :=
  String.ofList (strip (cs.contains ·) s.toList)

/-- `s` without the characters of `cs` at its left end. -/
def trimStartOf (cs : List Char) (s : String) : String :=
  String.ofList (s.toList.dropWhile (cs.contains ·))

/-! ## What is left -/

theorem isPrefix_dropEnd (p : Char → Bool) (cs : List Char) : dropEnd p cs <+: cs := by
  rw [dropEnd, ← List.reverse_suffix, List.reverse_reverse]
  exact List.dropWhile_suffix p

theorem getLast_dropEnd {p : Char → Bool} {cs : List Char} (h : dropEnd p cs ≠ []) :
    p ((dropEnd p cs).getLast h) = false := by
  simp only [dropEnd, List.getLast_reverse]
  exact List.head_dropWhile_not p _

theorem isInfix_strip (p : Char → Bool) (cs : List Char) : strip p cs <:+: cs :=
  (isPrefix_dropEnd p _).isInfix.trans (List.dropWhile_suffix p).isInfix

theorem getLast_strip {p : Char → Bool} {cs : List Char} (h : strip p cs ≠ []) :
    p ((strip p cs).getLast h) = false :=
  getLast_dropEnd h

theorem head_strip {p : Char → Bool} {cs : List Char} (h : strip p cs ≠ []) :
    p ((strip p cs).head h) = false := by
  rw [show (strip p cs).head h = _ from (isPrefix_dropEnd p (cs.dropWhile p)).head h]
  exact List.head_dropWhile_not p _

end CodecForge.Text
