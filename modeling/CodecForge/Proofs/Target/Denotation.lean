/-
  CodecForge — what a literal denotes.

  Keys are written as JSON texts, but Python reads them, whose texts have other escapes.

  * `denoted?` is what Python makes of a text in double quotes: `escape?` tells for every
    escape what it stands for, a backslash before any other character stays, and a name of a
    character is looked up elsewhere (`named`);
  * `content?_literal`: the first double quote that ends a literal is its last character, and
    `denoted?_literal`: a literal denotes the text for which it was written.  Both take one
    character at a time, in each of the ways to write it (`Json.Written`).
-/
import CodecForge.CommandLine.Literal.Token
import CodecForge.Proofs.Json.Scalars
import CodecForge.Source
import Mathlib

namespace CodecForge

open CommandLine.Literal (content? digitIn? hexadecimal? ofDigits)
open Json (Written literalChar shortEscapes unitEscape)

namespace Python

/-! ## Texts in double quotes -/

/-- The characters that a backslash and one letter stand for. -/
def letterEscapes : List (Char × Char) :=
  [('a', '\x07'), ('b', '\x08'), ('f', '\x0c'), ('n', '\n'), ('r', '\r'), ('t', '\t'),
    ('v', '\x0b')]

/-- The name of a character in braces, and what it is the name of. -/
def namedEscape? (named : List Char → Option Char) : List Char → Option (List Char × Nat)
  | '\x7b' :: cs =>
    let name := cs.takeWhile (· ≠ '\x7d')
    if name.length < cs.length then (named name).map fun c => ([c], name.length + 2) else none
  | _ => none

/-- What the characters after a backslash stand for, and how many of them: none for a line feed,
    a character for a quote, a backslash, a letter, a number of up to three octal digits or of
    two, four or eight hexadecimal ones, or a name.  Before any other character the backslash
    stays. -/
def escape? (named : List Char → Option Char) : List Char → Option (List Char × Nat)
  | [] => none
  | c :: cs =>
    let octal := ((c :: cs).take 3).takeWhile fun d => (digitIn? 8 d).isSome
    if c = '\n' then some ([], 1)
    else if c = '\\' || c = '"' || c.toNat = 39 then some ([c], 1)
    else if let some (_, d) := letterEscapes.find? (·.1 = c) then some ([d], 1)
    else if !octal.isEmpty then
      (octal.mapM (digitIn? 8)).map fun ds => ([Char.ofNat (ofDigits 8 ds)], octal.length)
    else if c = 'x' then (hexadecimal? 2 cs).map fun n => ([Char.ofNat n], 3)
    else if c = 'u' then (hexadecimal? 4 cs).map fun n => ([Text.ofUnit n], 5)
    else if c = 'U' then
      ((hexadecimal? 8 cs).filter (· < 0x110000)).map fun n => ([Text.ofUnit n], 9)
    else if c = 'N' then (namedEscape? named cs).map fun (ds, n) => (ds, n + 1)
    else some (['\\', c], 1)

/-- What the characters between quotes denote, after the first `skip` of them. -/
def denotedFrom? (named : List Char → Option Char) : (skip : Nat) → List Char → Option (List Char)
  | _, [] => some []
  | skip + 1, _ :: cs => denotedFrom? named skip cs
  | 0, '\\' :: cs => do
    let (ds, n) ← escape? named cs
    return ds ++ (← denotedFrom? named n cs)
  | 0, c :: cs => (denotedFrom? named 0 cs).map (c :: ·)

/-- What a text denotes that stands between two double quotes, one on each side. -/
def denoted? (named : List Char → Option Char) (s : String) : Option String :=
  match s.toList with
  | '"' :: cs =>
    match content? ['"'] cs with
    | some (inner, []) => (denotedFrom? named 0 inner).map String.ofList
    | _ => none
  | _ => none

/-! ## Character by character -/

section
variable {c e : Char} {w ds : List Char} (cs : List Char)

/-- A character that is no quote, no backslash and no line feed stands in a text as it is. -/
theorem content?_cons (hquote : c ≠ '"') (hslash : c ≠ '\\') (hfeed : c ≠ '\n') :
    content? ['"'] (c :: cs) = (content? ['"'] cs).map fun (inner, rest) => (c :: inner, rest) := by
  have hbegins : ['"'].isPrefixOf (c :: cs) = false := by
    rw [List.isPrefixOf, beq_eq_false_iff_ne.2 (Ne.symm hquote), Bool.false_and]
  rw [CommandLine.Literal.content?.eq_3 _ _ _ fun _ _ heq => absurd heq hslash, hbegins]
  simp [hfeed]

theorem content?_append (h : ∀ c ∈ ds, c ≠ '"' ∧ c ≠ '\\' ∧ c ≠ '\n') :
    content? ['"'] (ds ++ cs) =
      (content? ['"'] cs).map fun (inner, rest) => (ds ++ inner, rest) := by
  induction ds with
  | nil => simp
  | cons d ds ih =>
    obtain ⟨⟨hquote, hslash, hfeed⟩, hds⟩ := List.forall_mem_cons.1 h
    rw [List.cons_append, content?_cons _ hquote hslash hfeed, ih hds, Option.map_map]
    rfl

/-- **No way to write a character ends a text.** -/
theorem content?_written (h : Written c w) : content? ['"'] (w ++ cs) =
    (content? ['"'] cs).map fun (inner, rest) => (w ++ inner, rest) := by
  cases h with
  | short h => rfl
  | unit h =>
    have hdigits : ∀ d ∈ Text.hexChars 4 c.toNat, d ≠ '"' ∧ d ≠ '\\' ∧ d ≠ '\n' := by
      intro d hd
      obtain ⟨k, hk, rfl⟩ := Json.exists_of_mem_hexChars hd
      have hall : ∀ k < 16, Text.hexDigit k ≠ '"' ∧ Text.hexDigit k ≠ '\\' ∧
          Text.hexDigit k ≠ '\n' := by decide
      exact hall k hk
    rw [unitEscape, List.cons_append, List.cons_append, CommandLine.Literal.content?.eq_2,
      content?_append cs hdigits, Option.map_map]
    rfl
  | plain hquote hslash hcontrol =>
    refine content?_cons cs hquote hslash ?_
    rintro rfl
    exact hcontrol (by decide)

theorem denotedFrom?_append (named : List Char → Option Char) (ds : List Char) :
    denotedFrom? named ds.length (ds ++ cs) = denotedFrom? named 0 cs := by
  induction ds with
  | nil => rfl
  | cons d ds ih => exact ih

/-- An escape that takes all of some characters after a backslash. -/
theorem denotedFrom?_escape (ds : List Char) {named : List Char → Option Char}
    (h : escape? named (ds ++ cs) = some ([c], ds.length)) :
    denotedFrom? named 0 ('\\' :: (ds ++ cs)) = (denotedFrom? named 0 cs).map (c :: ·) := by
  rw [denotedFrom?, h]
  simp only [Option.bind_eq_bind, Option.bind_some, denotedFrom?_append]
  cases denotedFrom? named 0 cs <;> rfl

theorem escape?_short (named : List Char → Option Char) (h : (e, c) ∈ shortEscapes) :
    escape? named (e :: cs) = some ([c], 1) := by
  simp only [shortEscapes, List.mem_cons, Prod.mk.injEq, List.not_mem_nil, or_false] at h
  rcases h with ⟨rfl, rfl⟩ | ⟨rfl, rfl⟩ | ⟨rfl, rfl⟩ | ⟨rfl, rfl⟩ | ⟨rfl, rfl⟩ | ⟨rfl, rfl⟩ |
    ⟨rfl, rfl⟩ <;> rfl

theorem escape?_unit (named : List Char → Option Char) {n : Nat} (hn : n < 32) :
    escape? named ('u' :: Text.hexChars 4 n ++ cs) = some ([Char.ofNat n], 5) := by
  have hdigits : ∀ n < 32, hexadecimal? 4 (Text.hexChars 4 n) = some n := by decide
  have hrest : hexadecimal? 4 (Text.hexChars 4 n ++ cs) = hexadecimal? 4 (Text.hexChars 4 n) := by
    simp [hexadecimal?, Text.hexChars]
  have hu : escape? named ('u' :: Text.hexChars 4 n ++ cs) =
      (hexadecimal? 4 (Text.hexChars 4 n ++ cs)).map fun n => ([Text.ofUnit n], 5) := rfl
  rw [hu, hrest, hdigits n hn, Option.map_some, Json.ofUnit_of_lt n hn]

/-- **Every way to write a character denotes the character.** -/
theorem denotedFrom?_written (named : List Char → Option Char) (h : Written c w) :
    denotedFrom? named 0 (w ++ cs) = (denotedFrom? named 0 cs).map (c :: ·) := by
  cases h with
  | @short e _ h => exact denotedFrom?_escape cs [e] (escape?_short cs named h)
  | unit h =>
    refine denotedFrom?_escape cs ('u' :: Text.hexChars 4 c.toNat) ?_
    rw [escape?_unit cs named h, Char.ofNat_toNat]
    rfl
  | plain hquote hslash hcontrol =>
    exact denotedFrom?.eq_4 _ _ _ fun heq => absurd heq hslash

end

/-! ## Literals -/

/-- What stands between the quotes of a literal. -/
def literalBody (key : String) : List Char := key.toList.flatMap (literalChar false)

theorem toList_literal (key : String) : (literal key).toList = '"' :: (literalBody key ++ ['"']) :=
  String.toList_ofList

/-- **The first quote that ends a literal is its last character.** -/
theorem content?_literal (key : String) (rest : List Char) :
    content? ['"'] (literalBody key ++ '"' :: rest) = some (literalBody key, rest) := by
  unfold literalBody
  induction key.toList with
  | nil => rfl
  | cons c cs ih =>
    rw [List.flatMap_cons, List.append_assoc, content?_written _ (Json.written_literalChar c), ih]
    rfl

/-- **A literal denotes the text for which it was written.** -/
theorem denoted?_literal (named : List Char → Option Char) (key : String) :
    denoted? named (literal key) = some key := by
  have hbody : denotedFrom? named 0 (literalBody key) = some key.toList := by
    unfold literalBody
    induction key.toList with
    | nil => rfl
    | cons c cs ih =>
      rw [List.flatMap_cons, denotedFrom?_written _ named (Json.written_literalChar c), ih]
      rfl
  rw [denoted?, toList_literal]
  simp only [content?_literal, hbody, Option.map_some, String.ofList_toList]

/-- The escapes that a literal of a key never has are read, too. -/
example : denoted? (fun _ => none) "\"\\x41\\u00e9\\101\\q\"" = some "AéA\\q" := by decide

theorem literal_injective : Function.Injective literal := by
  intro key key' h
  have hdenoted := denoted?_literal (fun _ => none) key
  rw [h, denoted?_literal] at hdenoted
  exact (Option.some.inj hdenoted).symm

end Python

end CodecForge
