/-
  CodecForge — the characters of string literals.

  * `noControl_stringLiteral`: a string literal has no control characters, so it is on one line;
  * `Written` tells the three ways in which a character is written if only those are escaped that
    must be (`written_literalChar`).
-/
import CodecForge.Json.Writer
import CodecForge.Proofs.Text.Avoids

namespace CodecForge.Json

open Text (Avoids hexChars hexDigit)

/-! ## Control characters -/

/-- A control character, as far as literals escape them. -/
def isControl (c : Char) : Bool := c.toNat < 0x20

variable {c d : Char} {w : List Char}

theorem exists_of_mem_hexChars : ∀ {width n : Nat}, c ∈ hexChars width n →
    ∃ k < 16, c = hexDigit k
  | width + 1, n, h => by
    rw [hexChars, List.mem_append, List.mem_singleton] at h
    rcases h with h | rfl
    · exact exists_of_mem_hexChars h
    · exact ⟨n % 16, Nat.mod_lt _ (by decide), rfl⟩

theorem isControl_of_mem_unitEscape {n : Nat} (h : c ∈ unitEscape n) : isControl c = false := by
  rw [unitEscape, List.mem_cons, List.mem_cons] at h
  rcases h with rfl | rfl | h
  · rfl
  · rfl
  · obtain ⟨k, hk, rfl⟩ := exists_of_mem_hexChars h
    have hdigits : ∀ k < 16, isControl (hexDigit k) = false := by decide
    exact hdigits k hk

/-- Any character is written without control characters, one of these as an escape. -/
theorem isControl_of_mem_literalChar {ascii : Bool} (h : d ∈ literalChar ascii c) :
    isControl d = false := by
  have hpair {x : Char} (hx : isControl x = false) (hd : d ∈ ['\\', x]) : isControl d = false := by
    rw [List.mem_cons, List.mem_singleton] at hd
    rcases hd with rfl | rfl
    · rfl
    · exact hx
  simp only [literalChar] at h
  split at h
  · next hquote =>
    refine hpair ?_ h
    rw [Bool.or_eq_true, beq_iff_eq, beq_iff_eq] at hquote
    rcases hquote with rfl | rfl <;> rfl
  -- the escapes with a letter
  iterate 5
    split at h
    · exact hpair rfl h
  split at h
  · exact isControl_of_mem_unitEscape h
  next hcontrol =>
  split at h
  · rw [List.mem_singleton.1 h]
    exact decide_eq_false hcontrol
  split at h
  · exact isControl_of_mem_unitEscape h
  split at h
  · exact isControl_of_mem_unitEscape h
  · exact (List.mem_append.1 h).elim isControl_of_mem_unitEscape isControl_of_mem_unitEscape

/-- **A string literal has no control characters.** -/
theorem noControl_stringLiteral (ascii : Bool) (s : String) :
    Avoids isControl (stringLiteral ascii s) := by
  refine Text.avoids_ofList_iff.2 fun c hc => ?_
  rw [literalChars, List.mem_cons, List.mem_append, List.mem_flatMap, List.mem_singleton] at hc
  rcases hc with rfl | ⟨d, -, hc⟩ | rfl
  · rfl
  · exact isControl_of_mem_literalChar hc
  · rfl

/-! ## Ways to write a character -/

/-- The characters after a backslash, and those for which they stand. -/
def shortEscapes : List (Char × Char) :=
  [('"', '"'), ('\\', '\\'), ('n', '\n'), ('r', '\r'), ('t', '\t'), ('b', '\x08'), ('f', '\x0c')]

/-- How a character is written: with a backslash and one more character, with its number, which is
    less than 32, or as it is. -/
inductive Written : Char → List Char → Prop
  | short {e c : Char} (h : (e, c) ∈ shortEscapes) : Written c ['\\', e]
  | unit {c : Char} (h : c.toNat < 32) : Written c (unitEscape c.toNat)
  | plain {c : Char} (hquote : c ≠ '"') (hslash : c ≠ '\\') (hcontrol : ¬ c.toNat < 32) :
      Written c [c]

theorem written_literalChar (c : Char) : Written c (literalChar false c) := by
  simp only [literalChar, Bool.not_false, Bool.true_or, if_true]
  split
  · next hself =>
    rw [Bool.or_eq_true, beq_iff_eq, beq_iff_eq] at hself
    rcases hself with rfl | rfl <;> exact .short (by decide)
  next hself =>
  split
  · next hfeed =>
    rw [beq_iff_eq.1 hfeed]
    exact .short (by decide)
  split
  · next hreturn =>
    rw [beq_iff_eq.1 hreturn]
    exact .short (by decide)
  split
  · next htab =>
    rw [beq_iff_eq.1 htab]
    exact .short (by decide)
  split
  · next hback =>
    rw [← Char.ofNat_toNat c, beq_iff_eq.1 hback]
    exact .short (by decide)
  split
  · next hform =>
    rw [← Char.ofNat_toNat c, beq_iff_eq.1 hform]
    exact .short (by decide)
  split
  · next hcontrol => exact .unit hcontrol
  · next hcontrol =>
    rw [Bool.or_eq_true, not_or, beq_iff_eq, beq_iff_eq] at hself
    exact .plain hself.1 hself.2 hcontrol

end CodecForge.Json
