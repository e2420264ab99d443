/-
  CodecForge — texts as lists of parts and of lines.

  * `splitOn c cs` cuts at every `c`, `joinWith c` puts the parts together
    again (`joinWith_splitOn`);
  * `lines` cuts a string at line feeds only, `unlines` joins with line feeds;
  * `brokenLines` cuts at every line boundary of Unicode, a carriage return
    followed by a line feed counting as one, and ends the last line with the
    text: a final boundary opens no further line;
  * `words` are the longest parts without blanks.
-/
import CodecForge.Text.Blank

namespace CodecForge.Text

/-! ## Parts -/

/-- The parts of `cs` between the occurrences of `c`, one more than there are
    occurrences. -/
def splitOn (c : Char) : List Char → List (List Char)
  | [] => [[]]
  | x :: xs =>
    if x = c then [] :: splitOn c xs
    else match splitOn c xs with
      | [] => [[x]]
      | p :: ps => (x :: p) :: ps

/-- The parts with one `c` between neighbours. -/
def joinWith (c : Char) : List (List Char) → List Char
  | [] => []
  | [p] => p
  | p :: q :: ps => p ++ c :: joinWith c (q :: ps)

theorem splitOn_ne_nil (c : Char) (cs : List Char) : splitOn c cs ≠ [] := by
  cases cs with
  | nil => simp [splitOn]
  | cons x xs =>
    rw [splitOn]
    split
    · simp
    · split <;> simp

theorem joinWith_splitOn (c : Char) (cs : List Char) : joinWith c (splitOn c cs) = cs := by
  induction cs with
  | nil => rfl
  | cons x xs ih =>
    rw [splitOn]
    split
    · next h =>
      cases hs : splitOn c xs with
      | nil => exact absurd hs (splitOn_ne_nil c xs)
      | cons p ps => rw [hs] at ih; simp [joinWith, ih, h]
    · cases hs : splitOn c xs with
      | nil => exact absurd hs (splitOn_ne_nil c xs)
      | cons p ps =>
        rw [hs] at ih
        cases ps with
        | nil => simp_all [joinWith]
        | cons q qs => simp_all [joinWith]

/-- The parts of `s` between the occurrences of `c`. -/
def parts (c : Char) (s : String) : List String :=
  (splitOn c s.toList).map String.ofList

/-- The parts between blanks, of which none is empty; `cur` is the current part,
    reversed. -/
def wordsFrom (cur : List Char) : List Char → List (List Char)
  | [] => if cur.isEmpty then [] else [cur.reverse]
  | c :: cs =>
    if !isBlank c then wordsFrom (c :: cur) cs
    else if cur.isEmpty then wordsFrom [] cs
    else cur.reverse :: wordsFrom [] cs

/-- The words of `s`. -/
def words (s : String) : List String := (wordsFrom [] s.toList).map String.ofList

/-! ## Lines -/

/-- The lines of `s`, cut at line feeds. -/
def lines (s : String) : List String := parts '\n' s

/-- The lines put together with line feeds between them. -/
def unlines (ls : List String) : String := "\n".intercalate ls

/-- The characters that end a line in the wide sense. -/
def isLineBreak (c : Char) : Bool :=
  let n := c.toNat
  (10 ≤ n && n ≤ 13) || (28 ≤ n && n ≤ 30) || n == 0x85 || n == 0x2028 || n == 0x2029

/-- Cuts at every line boundary; `cur` is the current line, reversed. -/
def brokenLinesFrom (cur : List Char) : List Char → List (List Char)
  | [] => if cur.isEmpty then [] else [cur.reverse]
  | '\r' :: '\n' :: cs => cur.reverse :: brokenLinesFrom [] cs
  | c :: cs =>
    if isLineBreak c then cur.reverse :: brokenLinesFrom [] cs
    else brokenLinesFrom (c :: cur) cs

/-- The lines of `s`, cut at every line boundary of Unicode. -/
def brokenLines (s : String) : List String :=
  (brokenLinesFrom [] s.toList).map String.ofList

/-- Every carriage return, alone or before a line feed, as one line feed. -/
def unifyLineFeeds : List Char → List Char
  | [] => []
  | '\r' :: '\n' :: cs => '\n' :: unifyLineFeeds cs
  | c :: cs => (if c = '\r' then '\n' else c) :: unifyLineFeeds cs

end CodecForge.Text
