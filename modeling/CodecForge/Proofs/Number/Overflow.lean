/-
  CodecForge — integers that no float comes near to.

  An integer of `k + 1` binary digits is rounded to a significand of 53 digits at the
  scale `2 ^ (k - 52)`, which may carry into one digit more:

  * `ofRatio_eq`: so the bits of the nearest float are the sum of exponent and significand,
    unless that is past the largest one;
  * `ofInt?_eq_none_iff`: hence no float comes near to an integer exactly if its magnitude
    is at least the middle between the largest float and the next power of two.
-/
import CodecForge.Number.Double
import Mathlib

namespace CodecForge.Double

theorem isInfinite_infinity (neg : Bool) : (infinity neg).isInfinite = true := by
  cases neg <;> decide

theorem isInfinite_ofParts {rest : Nat} (h : rest < 2047 * 2 ^ 52) (neg : Bool) :
    (ofParts neg rest).isInfinite = false := by
  have hexp : (ofParts neg rest).exponentBits = rest / 2 ^ 52 := by
    have hbits : (ofParts neg rest).bits.toNat = (if neg then 2 ^ 63 else 0) + rest := by
      have hlt : (if neg then Nat.pow 2 63 else 0) + rest < 2 ^ 64 := by
        cases neg <;> simp only [Nat.pow_eq, if_true, Bool.false_eq_true, if_false] <;> omega
      rw [ofParts, UInt64.toNat_ofNat', Nat.mod_eq_of_lt hlt]
      rfl
    rw [exponentBits, hbits]
    cases neg <;> simp only [Nat.pow_eq, if_true, Bool.false_eq_true, if_false] <;> omega
  have hne : (ofParts neg rest).exponentBits ≠ 2047 := by
    rw [hexp]
    omega
  simp [isInfinite, hne]

/-! ## Rounding -/

theorem roundDiv_bounds (num den : Nat) :
    num / den ≤ roundDiv num den ∧ roundDiv num den ≤ num / den + 1 := by
  have hmod : num / den % 2 ≤ 1 := by omega
  unfold roundDiv
  dsimp only
  split
  · omega
  · split <;> omega

/-- Below `2 k + 2` units a quotient is rounded up to `2 k + 2` from half a unit below on:
    the tie goes to the even neighbour. -/
theorem le_roundDiv_iff {num half k : Nat} (hhalf : 0 < half)
    (hlt : num < (2 * k + 2) * (2 * half)) :
    2 * k + 2 ≤ roundDiv num (2 * half) ↔ (2 * k + 2) * (2 * half) - half ≤ num := by
  have hdiv : 2 * half * (num / (2 * half)) + num % (2 * half) = num := Nat.div_add_mod _ _
  have hmod : num % (2 * half) < 2 * half := Nat.mod_lt _ (by omega)
  have hquot : num / (2 * half) < 2 * k + 2 := (Nat.div_lt_iff_lt_mul (by omega)).2 hlt
  have hbound := (roundDiv_bounds num (2 * half)).2
  rcases Nat.lt_or_ge (num / (2 * half)) (2 * k + 1) with hlow | hhigh
  · have hle : 2 * half * (num / (2 * half)) ≤ 2 * half * (2 * k) :=
      Nat.mul_le_mul_left _ (by omega)
    have hring : (2 * k + 2) * (2 * half) = 2 * half * (2 * k) + 4 * half := by ring
    omega
  · have hq : num / (2 * half) = 2 * k + 1 := by omega
    have hring : (2 * k + 2) * (2 * half) = 2 * half * (2 * k + 1) + 2 * half := by ring
    rw [hq] at hdiv
    have hround : roundDiv num (2 * half) =
        if 2 * (num % (2 * half)) < 2 * half then 2 * k + 1 else 2 * k + 2 := by
      unfold roundDiv
      dsimp only
      rw [hq]
      split
      · rfl
      · split <;> omega
    rw [hround]
    split <;> omega

/-! ## Integers -/

theorem roundScaled_of_nonneg {num : Nat} {e : Int} (he : 0 ≤ e) :
    roundScaled num 1 e = roundDiv num (2 ^ e.toNat) := by
  rw [roundScaled, if_pos he, one_mul, Nat.pow_eq]

/-- The scale of an integer, and its significand. -/
theorem roundScaled_bounds {num : Nat} (hnum : num ≠ 0) :
    2 ^ 52 ≤ roundScaled num 1 (num.log2 - 52) ∧ roundScaled num 1 (num.log2 - 52) ≤ 2 ^ 53 := by
  have hlow : 2 ^ num.log2 ≤ num := Nat.log2_self_le hnum
  have hhigh : num < 2 ^ (num.log2 + 1) := Nat.lt_log2_self
  unfold roundScaled
  split
  · next he =>
    have hscale : ((num.log2 : Int) - 52).toNat = num.log2 - 52 := by omega
    rw [hscale, one_mul, Nat.pow_eq]
    have hbounds := roundDiv_bounds num (2 ^ (num.log2 - 52))
    have hle : 2 ^ 52 ≤ num / 2 ^ (num.log2 - 52) := by
      rw [Nat.le_div_iff_mul_le (by positivity), ← pow_add]
      rwa [show 52 + (num.log2 - 52) = num.log2 by omega]
    have hlt : num / 2 ^ (num.log2 - 52) < 2 ^ 53 := by
      rw [Nat.div_lt_iff_lt_mul (by positivity), ← pow_add]
      rwa [show 53 + (num.log2 - 52) = num.log2 + 1 by omega]
    omega
  · next he =>
    have hscale : (-((num.log2 : Int) - 52)).toNat = 52 - num.log2 := by omega
    rw [hscale, Nat.pow_eq]
    have hbounds := roundDiv_bounds (num * 2 ^ (52 - num.log2)) 1
    rw [Nat.div_one] at hbounds
    have hle : 2 ^ 52 ≤ num * 2 ^ (52 - num.log2) := by
      calc 2 ^ 52 = 2 ^ num.log2 * 2 ^ (52 - num.log2) := by
            rw [← pow_add, show num.log2 + (52 - num.log2) = 52 by omega]
        _ ≤ num * 2 ^ (52 - num.log2) := Nat.mul_le_mul_right _ hlow
    have hlt : num * 2 ^ (52 - num.log2) < 2 ^ 53 := by
      calc num * 2 ^ (52 - num.log2) < 2 ^ (num.log2 + 1) * 2 ^ (52 - num.log2) :=
            Nat.mul_lt_mul_of_pos_right hhigh (by positivity)
        _ = 2 ^ 53 := by rw [← pow_add, show num.log2 + 1 + (52 - num.log2) = 53 by omega]
    omega

/-- The nearest float to an integer: its bits are the sum of exponent and significand. -/
theorem ofRatio_eq {num : Nat} (hnum : num ≠ 0) (neg : Bool) :
    ofRatio neg num 1 =
      if 2047 * 2 ^ 52 ≤ (num.log2 + 1022) * 2 ^ 52 + roundScaled num 1 (num.log2 - 52)
      then infinity neg
      else ofParts neg ((num.log2 + 1022) * 2 ^ 52 + roundScaled num 1 (num.log2 - 52)) := by
  have hlow : 2 ^ num.log2 ≤ num := Nat.log2_self_le hnum
  have hscale : scaleOf num 1 = (num.log2 : Int) - 53 := by
    have hone : Nat.log2 1 = 0 := by decide
    rw [scaleOf, hone]
    omega
  -- the scale is one too low: the significand has a digit more
  have hfits : 2 ^ 53 * (if 0 ≤ scaleOf num 1 then 1 * 2 ^ (scaleOf num 1).toNat else 1) ≤
      (if 0 ≤ scaleOf num 1 then num else num * 2 ^ (-scaleOf num 1).toNat) := by
    split
    · next he =>
      rw [one_mul, ← pow_add]
      rwa [show 53 + (scaleOf num 1).toNat = num.log2 by omega]
    · next he =>
      calc 2 ^ 53 * 1 = 2 ^ num.log2 * 2 ^ (-scaleOf num 1).toNat := by
            rw [← pow_add, mul_one, show num.log2 + (-scaleOf num 1).toNat = 53 by omega]
        _ ≤ num * 2 ^ (-scaleOf num 1).toNat := Nat.mul_le_mul_right _ hlow
  have hup : scaleOf num 1 + 1 = (num.log2 : Int) - 52 := by omega
  have hexp : ((num.log2 : Int) - 52 + 1074).toNat = num.log2 + 1022 := by omega
  have hm := (roundScaled_bounds hnum).1
  unfold ofRatio
  simp only [beq_iff_eq, hnum, if_false, Nat.pow_eq]
  rw [if_pos hfits, hup, hexp, if_neg (Nat.not_lt.2 hm)]

theorem isInfinite_ofRatio_iff {num : Nat} (hnum : num ≠ 0) (neg : Bool) :
    (ofRatio neg num 1).isInfinite = true ↔
      2047 * 2 ^ 52 ≤ (num.log2 + 1022) * 2 ^ 52 + roundScaled num 1 (num.log2 - 52) := by
  rw [ofRatio_eq hnum]
  split
  · next h => exact iff_of_true (isInfinite_infinity neg) h
  · next h =>
    rw [isInfinite_ofParts (Nat.not_le.1 h)]
    exact iff_of_false Bool.false_ne_true h

/-- The middle between the largest float and the next power of two. -/
def overflow : Nat := 2 ^ 54 * 2 ^ 970 - 2 ^ 970

theorem overflow_le_iff {num : Nat} (hnum : num ≠ 0) :
    overflow ≤ num ↔
      2047 * 2 ^ 52 ≤ (num.log2 + 1022) * 2 ^ 52 + roundScaled num 1 (num.log2 - 52) := by
  unfold overflow
  obtain ⟨hlow, hhigh⟩ := roundScaled_bounds hnum
  have hhalf : 0 < 2 ^ 970 := by positivity
  rcases Nat.lt_trichotomy num.log2 1023 with hlog | hlog | hlog
  · have hlt : num < 2 ^ 53 * 2 ^ 970 := by
      rw [← pow_add, ← Nat.log2_lt hnum]
      exact hlog
    generalize 2 ^ 970 = half at hhalf hlt ⊢
    omega
  · have hlt : num < (2 * (2 ^ 52 - 1) + 2) * (2 * 2 ^ 970) := by
      have hpow : (2 * (2 ^ 52 - 1) + 2) * (2 * 2 ^ 970) = 2 ^ 1024 := by
        rw [show 2 * (2 ^ 52 - 1) + 2 = 2 ^ 53 from rfl, ← pow_succ', ← pow_add]
      rw [hpow, ← Nat.log2_lt hnum, hlog]
      omega
    have hround := le_roundDiv_iff hhalf hlt
    have hscaled : roundScaled num 1 (num.log2 - 52) = roundDiv num (2 * 2 ^ 970) := by
      rw [roundScaled_of_nonneg (by omega), show ((num.log2 : Int) - 52).toNat = 970 + 1 by omega,
        pow_succ']
    rw [hscaled] at hhigh ⊢
    rw [hlog]
    generalize 2 ^ 970 = half at hhalf hround hhigh ⊢
    omega
  · have hge : 2 ^ 54 * 2 ^ 970 ≤ num := by
      rw [← pow_add, ← Nat.le_log2 hnum]
      exact hlog
    generalize 2 ^ 970 = half at hhalf hge ⊢
    omega

/-- **Which integers no float comes near to.** -/
theorem ofInt?_eq_none_iff (n : Int) : ofInt? n = none ↔ overflow ≤ n.natAbs := by
  unfold ofInt?
  by_cases hn : n.natAbs = 0
  · have hfinite : ∀ neg, (ofRatio neg 0 1).isInfinite = false := by decide
    have hpos : 0 < overflow := by decide +kernel
    rw [hn]
    simp only [hfinite, Bool.false_eq_true, if_false]
    exact iff_of_false (by simp) (Nat.not_le.2 hpos)
  · rw [overflow_le_iff hn]
    dsimp only
    split
    · next h => exact iff_of_true rfl ((isInfinite_ofRatio_iff hn _).1 h)
    · next h => exact iff_of_false (by simp) fun hle => h ((isInfinite_ofRatio_iff hn _).2 hle)

end CodecForge.Double
