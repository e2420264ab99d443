/-
  CodecForge — lower case is a normal form.

  * `IsLowered` is a character that lower case leaves as it is, whatever stands around it; the
    tables lead to such characters only (`isLowered_of_shifted`, by a look at every two rows),
    and so a text in lower case consists of them (`isLowered_of_mem_lowerFrom`);
  * `lowerString_lowerString`: hence lower case leaves a text in lower case as it is.
-/
import CodecForge.Text.Case
import Mathlib

namespace CodecForge.Text

/-- A character that lower case leaves as it is, whatever stands around it. -/
structure IsLowered (c : Char) : Prop where
  /-- the capital sigma alone is mapped by what stands around it -/
  ne_sigma : c.toNat ≠ 0x3A3
  lowerChar_eq : lowerChar c = [c]

theorem isUpper_iff {c : Char} : c.isUpper = true ↔ 0x41 ≤ c.toNat ∧ c.toNat ≤ 0x5A := by
  simp [Char.isUpper, UInt32.le_iff_toNat_le]

theorem isLowered_of_not_isUpper {c : Char} (hascii : c.toNat < 0x80) (hc : ¬ c.isUpper) :
    IsLowered c where
  ne_sigma := by omega
  lowerChar_eq := by rw [lowerChar, if_pos hascii, Char.toLower_eq_of_not_isUpper hc]

theorem isLowered_toLower {c : Char} (hascii : c.toNat < 0x80) : IsLowered c.toLower := by
  refine isLowered_of_not_isUpper ?_ (by simp)
  by_cases hc : c.isUpper
  · have hrange := isUpper_iff.1 hc
    rw [Char.toLower_eq_of_isUpper hc, Char.toNat_ofNat]
    split <;> omega
  · rwa [Char.toLower_eq_of_not_isUpper hc]

/-! ## The tables -/

/-- The last code point that a row of shifts `(first, last, step, target)` leads to. -/
def lastTarget (row : Nat × Nat × Nat × Nat) : Nat := row.2.2.2 + (row.2.1 - row.1)

/-- Whether a row of shifts leads to nothing that another one maps: what it leads to stands
    before, behind or in the gaps of what the other one maps. -/
def avoids (row other : Nat × Nat × Nat × Nat) : Bool :=
  Nat.blt (lastTarget row) other.1 || Nat.blt other.2.1 row.2.2.2 ||
    (Nat.beq (row.2.2.1 % 2) 0 || Nat.beq row.1 row.2.1) && Nat.beq (other.2.2.1 % 2) 0 &&
      Nat.beq ((row.2.2.2 + other.1) % 2) 1

/-- Whether a row of shifts leads to characters only, to none that is in upper case within ASCII
    and to none that is expanded. -/
def leadsToCharacters (row : Nat × Nat × Nat × Nat) : Bool :=
  Nat.blt 0x5A row.2.2.2 && (Nat.blt (lastTarget row) 0xD800 ||
    Nat.blt 0xDFFF row.2.2.2 && Nat.blt (lastTarget row) 0x110000) &&
    lowerExpansions.all fun e => Nat.blt (lastTarget row) e.1 || Nat.blt e.1 row.2.2.2

theorem leadsToCharacters_of_mem :
    ∀ row ∈ lowerShifts, leadsToCharacters row = true := by
  have hall : lowerShifts.all leadsToCharacters = true := by decide +kernel
  exact List.all_eq_true.1 hall

theorem avoids_of_mem : ∀ row ∈ lowerShifts, ∀ other ∈ lowerShifts, avoids row other = true := by
  have hall : (lowerShifts.all fun row => lowerShifts.all (avoids row)) = true := by
    decide +kernel
  intro row hrow
  exact List.all_eq_true.1 (List.all_eq_true.1 hall row hrow)

/-- What a table of shifts leads to is found in one of its rows. -/
theorem exists_row_of_shifted {n m : Nat} {rows : List (Nat × Nat × Nat × Nat)}
    (h : shifted n rows = some m) : ∃ row ∈ rows, row.1 ≤ n ∧ n ≤ row.2.1 ∧
      row.2.2.1 ∣ n - row.1 ∧ m = row.2.2.2 + (n - row.1) := by
  induction rows with
  | nil => cases h
  | cons row rows ih =>
    obtain ⟨first, last, step, target⟩ := row
    rw [shifted] at h
    split at h
    · next hin =>
      simp only [Bool.and_eq_true, decide_eq_true_eq, beq_iff_eq] at hin
      exact ⟨_, List.mem_cons_self, hin.1.1, hin.1.2, Nat.dvd_of_mod_eq_zero hin.2,
        (Option.some.inj h).symm⟩
    · obtain ⟨row, hrow, hshift⟩ := ih h
      exact ⟨row, List.mem_cons_of_mem _ hrow, hshift⟩

/-- What a table of shifts leads to is not shifted again. -/
theorem shifted_shifted {n m : Nat} (h : shifted n lowerShifts = some m) :
    shifted m lowerShifts = none := by
  obtain ⟨⟨first, last, step, target⟩, hrow, hfirst, hlast, hstep, rfl⟩ := exists_row_of_shifted h
  by_contra hsome
  obtain ⟨m', hm'⟩ := Option.ne_none_iff_exists'.1 hsome
  obtain ⟨⟨first', last', step', target'⟩, hother, hfirst', hlast', hstep', -⟩ :=
    exists_row_of_shifted hm'
  have havoids := avoids_of_mem _ hrow _ hother
  simp only [avoids, lastTarget, Bool.or_eq_true, Bool.and_eq_true, Nat.blt_eq, Nat.beq_eq] at havoids
  dsimp only at hfirst hlast hstep hfirst' hlast' hstep'
  rcases havoids with (hbefore | hbehind) | ⟨⟨hgap, heven'⟩, hodd⟩
  · omega
  · omega
  · -- both rows go in steps of two, and they are out of step
    have htwo : 2 ∣ n - first := by
      rcases hgap with heven | rfl
      · exact (Nat.dvd_of_mod_eq_zero heven).trans hstep
      · omega
    have htwo' := (Nat.dvd_of_mod_eq_zero heven').trans hstep'
    omega

/-- A table of shifts leads to characters in lower case. -/
theorem isLowered_of_shifted {n m : Nat} (h : shifted n lowerShifts = some m) :
    IsLowered (Char.ofNat m) := by
  have hagain := shifted_shifted h
  obtain ⟨⟨first, last, step, target⟩, hrow, hfirst, hlast, -, hm⟩ := exists_row_of_shifted h
  have hleads := leadsToCharacters_of_mem _ hrow
  simp only [leadsToCharacters, lastTarget, Bool.or_eq_true, Bool.and_eq_true, Nat.blt_eq,
    List.all_eq_true] at hleads
  obtain ⟨⟨hupper, hvalid⟩, hexpand⟩ := hleads
  dsimp only at hfirst hlast hm
  have hchar : (Char.ofNat m).toNat = m := by
    rw [Char.toNat_ofNat, if_pos]
    unfold Nat.isValidChar
    omega
  by_cases hascii : m < 0x80
  · refine isLowered_of_not_isUpper (hchar.symm ▸ hascii) ?_
    rw [isUpper_iff, hchar]
    omega
  · have hnone : lowerExpansions.find? (·.1 == m) = none := by
      rw [List.find?_eq_none]
      intro e he hbeq
      have hrange := hexpand e he
      rw [beq_iff_eq] at hbeq
      omega
    refine ⟨?_, ?_⟩
    · rw [hchar]
      rintro rfl
      exact absurd hagain (by decide +kernel)
    · rw [lowerChar, if_neg (hchar.symm ▸ hascii), mapWide, hchar, hnone, hagain]
      rfl

theorem isLowered_of_mem_expansion :
    ∀ e ∈ lowerExpansions, ∀ n ∈ e.2, IsLowered (Char.ofNat n) := by
  have hall : ∀ e ∈ lowerExpansions, ∀ n ∈ e.2, (Char.ofNat n).toNat ≠ 0x3A3 ∧
      lowerChar (Char.ofNat n) = [Char.ofNat n] := by
    decide +kernel
  exact fun e he n hn => ⟨(hall e he n hn).1, (hall e he n hn).2⟩

/-! ## Texts -/

/-- The lower case of a character consists of characters in lower case. -/
theorem isLowered_of_mem_lowerChar {c d : Char} (hc : c.toNat ≠ 0x3A3) (hd : d ∈ lowerChar c) :
    IsLowered d := by
  unfold lowerChar at hd
  split at hd
  · next hascii =>
    rw [List.mem_singleton.1 hd]
    exact isLowered_toLower hascii
  · next hwide =>
    have heq : lowerChar c = mapWide lowerShifts lowerExpansions c := if_neg hwide
    unfold mapWide at hd
    split at hd
    · next ns hfound =>
      obtain ⟨n, hn, rfl⟩ := List.mem_map.1 hd
      exact isLowered_of_mem_expansion _ (List.mem_of_find?_eq_some hfound) n hn
    · next hnone =>
      rw [List.mem_singleton] at hd
      cases hshift : shifted c.toNat lowerShifts with
      | some m =>
        rw [hd, hshift]
        exact isLowered_of_shifted hshift
      | none =>
        have hself : d = c := by rw [hd, hshift]; rfl
        refine hself ▸ ⟨hc, ?_⟩
        rw [heq, mapWide, hnone, hshift]
        rfl

theorem isLowered_of_mem_lowerFrom {cs : List Char} {before : List Char} {d : Char}
    (hd : d ∈ lowerFrom before cs) : IsLowered d := by
  induction cs generalizing before with
  | nil => cases hd
  | cons c cs ih =>
    rw [lowerFrom, List.mem_append] at hd
    rcases hd with hd | hd
    · split at hd
      · rw [List.mem_singleton] at hd
        subst hd
        split
        · exact ⟨by decide, by decide +kernel⟩
        · exact ⟨by decide, by decide +kernel⟩
      · next hne => exact isLowered_of_mem_lowerChar (by simpa using hne) hd
    · exact ih hd

/-- A text of characters in lower case is its own lower case. -/
theorem lowerFrom_eq_self {cs : List Char} (h : ∀ c ∈ cs, IsLowered c) (before : List Char) :
    lowerFrom before cs = cs := by
  induction cs generalizing before with
  | nil => rfl
  | cons c cs ih =>
    rw [List.forall_mem_cons] at h
    rw [lowerFrom, if_neg (by simpa using h.1.ne_sigma), h.1.lowerChar_eq, ih h.2]
    rfl

/-- **A text in lower case is its own lower case.** -/
theorem lowerString_lowerString (s : String) : lowerString (lowerString s) = lowerString s := by
  simp only [lowerString, String.toList_ofList]
  exact congrArg String.ofList (lowerFrom_eq_self (fun _ => isLowered_of_mem_lowerFrom) [])

end CodecForge.Text
