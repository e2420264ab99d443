/-
  CodecForge — binary64 numbers by their bits.

  Everything is exact arithmetic on naturals: no operation of the machine's
  floating point is used.

  * a `Double` is its 64 bits; `magnitude?` reads a finite one as `m · 2 ^ e`;
  * `ofRatio` rounds a quotient to the nearest number, a tie to the even
    significand, and goes to infinity past the largest; `ofDecimal` reads
    `digits · 10 ^ exp`, `ofInt?` an integer, unless it is too large;
  * `same` is numerical equality, `eqInt` that with an integer.
-/

namespace CodecForge

/-- A binary64 number. -/
structure Double where
  bits : UInt64
deriving DecidableEq, Inhabited, Repr

namespace Double

/-! ## Reading the bits -/

/-- Whether the sign bit is set. -/
def negative (x : Double) : Bool := x.bits.toNat / Nat.pow 2 63 == 1

/-- The eleven bits of the exponent. -/
def exponentBits (x : Double) : Nat := x.bits.toNat / Nat.pow 2 52 % Nat.pow 2 11

/-- The low 52 bits. -/
def fractionBits (x : Double) : Nat := x.bits.toNat % Nat.pow 2 52

def isNaN (x : Double) : Bool := x.exponentBits == 2047 && x.fractionBits != 0

def isInfinite (x : Double) : Bool := x.exponentBits == 2047 && x.fractionBits == 0

/-- A finite number is `m · 2 ^ e` up to its sign. -/
def magnitude? (x : Double) : Option (Nat × Int) :=
  if x.exponentBits == 2047 then none
  else if x.exponentBits == 0 then some (x.fractionBits, -1074)
  else some (Nat.pow 2 52 + x.fractionBits, (x.exponentBits : Int) - 1075)

/-! ## Writing the bits -/

/-- The number with the given sign and the other 63 bits. -/
def ofParts (neg : Bool) (rest : Nat) : Double :=
  ⟨UInt64.ofNat ((if neg then Nat.pow 2 63 else 0) + rest)⟩

def zero (neg : Bool) : Double := ofParts neg 0

def infinity (neg : Bool) : Double := ofParts neg (2047 * Nat.pow 2 52)

def nan : Double := ofParts false (2047 * Nat.pow 2 52 + Nat.pow 2 51)

/-- The NaN that is read from texts. -/
def textNaN : Double := ofParts false (2047 * Nat.pow 2 52 + Nat.pow 2 51 + 1)

/-- `num / den` rounded to an integer, a tie to the even one. -/
def roundDiv (num den : Nat) : Nat :=
  let q := num / den
  let r := num % den
  if 2 * r < den then q else if den < 2 * r then q + 1 else q + q % 2

/-- The least `e ≥ -1074` such that `num / den < 2 ^ (e + 53)`, up to one too
    many, which `ofRatio` mends. -/
def scaleOf (num den : Nat) : Int :=
  max (-1074) ((num.log2 : Int) - den.log2 - 53)

/-- `num / (den · 2 ^ e)` rounded to an integer. -/
def roundScaled (num den : Nat) (e : Int) : Nat :=
  if 0 ≤ e then roundDiv num (den * Nat.pow 2 e.toNat)
  else roundDiv (num * Nat.pow 2 (-e).toNat) den

/-- The number nearest to `num / den`. -/
def ofRatio (neg : Bool) (num den : Nat) : Double :=
  if num == 0 then zero neg else
  let e₀ := scaleOf num den
  -- one step up if the significand does not fit in 53 bits before rounding
  let e := if Nat.pow 2 53 * (if 0 ≤ e₀ then den * Nat.pow 2 e₀.toNat else den) ≤
      (if 0 ≤ e₀ then num else num * Nat.pow 2 (-e₀).toNat) then e₀ + 1 else e₀
  let m := roundScaled num den e
  -- rounding up to 2 ^ 53 carries into the exponent by plain addition
  let rest := if m < Nat.pow 2 52 then m else (e + 1074).toNat * Nat.pow 2 52 + m
  if 2047 * Nat.pow 2 52 ≤ rest then infinity neg else ofParts neg rest

/-- The count of decimal digits of `n`, one for zero. -/
def digitCount (n : Nat) : Nat := (Nat.toDigits 10 n).length

/-- The number nearest to `digits · 10 ^ exp`. -/
def ofDecimal (neg : Bool) (digits : Nat) (exp : Int) : Double :=
  if digits == 0 then zero neg
  else if exp + digitCount digits > 400 then infinity neg
  else if exp + digitCount digits < -400 then zero neg
  else if 0 ≤ exp then ofRatio neg (digits * Nat.pow 10 exp.toNat) 1
  else ofRatio neg digits (Nat.pow 10 (-exp).toNat)

/-- The number nearest to an integer, none if that is past the largest. -/
def ofInt? (n : Int) : Option Double :=
  let x := ofRatio (n < 0) n.natAbs 1
  if x.isInfinite then none else some x

/-! ## Comparing -/

/-- Whether `m · 2 ^ e` is the natural number `n`. -/
def scaledEqNat (m : Nat) (e : Int) (n : Nat) : Bool :=
  if 0 ≤ e then m * Nat.pow 2 e.toNat == n else m == n * Nat.pow 2 (-e).toNat

/-- Whether the number is the integer `n`. -/
def eqInt (x : Double) (n : Int) : Bool :=
  match x.magnitude? with
  | none => false
  | some (m, e) => scaledEqNat m e n.natAbs && (m == 0 || x.negative == decide (n < 0))

/-- Numerical equality: a NaN equals nothing, the two zeros are equal. -/
def same (x y : Double) : Bool :=
  !x.isNaN && !y.isNaN &&
    (x.bits == y.bits || (x.bits.toNat % Nat.pow 2 63 == 0 && y.bits.toNat % Nat.pow 2 63 == 0))

/-! ## Arithmetic with integers -/

/-- `m · 2 ^ e / den` rounded. -/
def ofScaled (neg : Bool) (m : Nat) (e : Int) (den : Nat) : Double :=
  if 0 ≤ e then ofRatio neg (m * Nat.pow 2 e.toNat) den
  else ofRatio neg m (den * Nat.pow 2 (-e).toNat)

/-- The number times `k`. -/
def timesNat (x : Double) (k : Nat) : Double :=
  match x.magnitude? with
  | none => x
  | some (m, e) => ofScaled x.negative (m * k) e 1

/-- The `k`-th part of the number. -/
def divNat (x : Double) (k : Nat) : Double :=
  match x.magnitude? with
  | none => x
  | some (m, e) => ofScaled x.negative m e k

/-- One less than a number that is not above zero. -/
def oneBelow (x : Double) : Double :=
  match x.magnitude? with
  | none => x
  | some (m, e) =>
    if 0 ≤ e then ofRatio true (m * Nat.pow 2 e.toNat + 1) 1
    else ofRatio true (m + Nat.pow 2 (-e).toNat) (Nat.pow 2 (-e).toNat)

/-- The nearest integer, of two the lower one. -/
def toWhole (x : Double) : Double :=
  match x.magnitude? with
  | none => x
  | some (m, e) =>
    if 0 ≤ e then x else
    let den : Nat := Nat.pow 2 (-e).toNat
    let signed : Int := if x.negative then -(m : Int) else m
    let n := Int.fdiv signed den
    (ofInt? (if den < 2 * (signed - n * den) then n + 1 else n)).getD x

/-- The `k`-th part of the number rounded down; a zero keeps its sign, and a number
    that is not finite has no parts.  The remainder is taken away before the
    division, and every step is rounded, so a large number may give more. -/
def floorDivNat (x : Double) (k : Nat) : Double :=
  match x.magnitude? with
  | none => nan
  | some (m, e) =>
    if m = 0 then x else
    let num := if 0 ≤ e then m * Nat.pow 2 e.toNat else m
    let den := if 0 ≤ e then 1 else Nat.pow 2 (-e).toNat
    let rest := num % (k * den)
    let quotient := (ofRatio x.negative (num - rest) den).divNat k
    (if rest ≠ 0 && x.negative then quotient.oneBelow else quotient).toWhole

end Double

end CodecForge
