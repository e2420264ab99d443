/-
  CodecForge — letter case.

  * `lowerChar`, `upperChar` and `titleChar` give the full mapping of one
    character, which may be several characters;
  * `lower` maps a text to lower case, with a capital sigma that ends a word
    written in its final form; `capitalize` writes its first character in
    title case and the rest in lower case.
-/
import CodecForge.Text.CaseTable

namespace CodecForge.Text

/-! ## One character -/

/-- Whether `n` lies in one of the ranges. -/
def inRanges (n : Nat) (rs : List (Nat × Nat)) : Bool :=
  rs.any fun r => r.1 ≤ n && n ≤ r.2

/-- The image of `n` under a shift table, if it has one. -/
def shifted (n : Nat) : List (Nat × Nat × Nat × Nat) → Option Nat
  | [] => none
  | (first, last, step, target) :: rows =>
    if first ≤ n && n ≤ last && (n - first) % step == 0 then some (target + (n - first))
    else shifted n rows

/-- The image of a character beyond ASCII under the two tables of a mapping. -/
def mapWide (shifts : List (Nat × Nat × Nat × Nat)) (expansions : List (Nat × List Nat))
    (c : Char) : List Char :=
  match expansions.find? (·.1 == c.toNat) with
  | some (_, ns) => ns.map Char.ofNat
  | none => [((shifted c.toNat shifts).map Char.ofNat).getD c]

/-- The lower case of a character, without regard to its context. -/
def lowerChar (c : Char) : List Char :=
  if c.toNat < 0x80 then [c.toLower] else mapWide lowerShifts lowerExpansions c

/-- The upper case of a character. -/
def upperChar (c : Char) : List Char :=
  if c.toNat < 0x80 then [c.toUpper] else mapWide upperShifts upperExpansions c

/-- The title case of a character. -/
def titleChar (c : Char) : List Char :=
  if c.toNat < 0x80 then [c.toUpper] else mapWide titleShifts titleExpansions c

/-! ## Texts -/

/-- Whether the nearest character that counts is a letter with a case. -/
def nextIsCased (cs : List Char) : Bool :=
  match cs.dropWhile (fun c => inRanges c.toNat caseIgnorableRanges) with
  | [] => false
  | c :: _ => inRanges c.toNat casedRanges

/-- Lower case of the rest of a text; `before` is what precedes it, reversed.
    A capital sigma after a cased letter and before none is final. -/
def lowerFrom (before : List Char) : List Char → List Char
  | [] => []
  | c :: cs =>
    (if c.toNat == 0x3A3 then
      [Char.ofNat (if nextIsCased before && !nextIsCased cs then 0x3C2 else 0x3C3)]
    else lowerChar c) ++ lowerFrom (c :: before) cs

/-- The text in lower case. -/
def lower (cs : List Char) : List Char := lowerFrom [] cs

/-- First character in title case, the rest in lower case. -/
def capitalize : List Char → List Char
  | [] => []
  | c :: cs => titleChar c ++ lowerFrom [c] cs

/-- `s` in lower case. -/
def lowerString (s : String) : String := String.ofList (lower s.toList)

end CodecForge.Text
