/-
  CodecForge — the text of a binary64 number.

  * `decimalOf` finds, for a positive number `m · 2 ^ e`, the fewest decimal
    digits that read back as that number and, among those, the nearest: for
    one digit, two digits and so on it tests the two neighbours of the number
    on that decimal grid against the interval of reals that round to it;
  * `Double.text` writes them: positionally from 10 ^ -4 up to below 10 ^ 16,
    with at least one digit after the point, otherwise with an exponent of at
    least two digits.
-/
import CodecForge.Number.Double
import CodecForge.Text.Blank

namespace CodecForge.Double

/-! ## The shortest decimal -/

/-- The number `m · 2 ^ e` and the ends of its rounding interval as numerators
    over one denominator; the ends belong to it if `closed`. -/
structure Interval where
  low : Nat
  value : Nat
  high : Nat
  den : Nat
  closed : Bool

/-- The reals that round to `m · 2 ^ e`.  Below a power of two the grid is
    twice as fine, so the lower end is nearer there. -/
def intervalOf (m : Nat) (e : Int) : Interval :=
  let down := if m == Nat.pow 2 52 && e > -1074 then 1 else 2
  let (scale, den) := if 2 ≤ e then (Nat.pow 2 (e - 2).toNat, 1) else (1, Nat.pow 2 (2 - e).toNat)
  ⟨(4 * m - down) * scale, 4 * m * scale, (4 * m + 2) * scale, den, m % 2 == 0⟩

/-- Whether `c · 10 ^ k` lies in the interval. -/
def Interval.has (i : Interval) (c : Nat) (k : Int) : Bool :=
  let (x, s) :=
    if 0 ≤ k then (c * Nat.pow 10 k.toNat * i.den, 1) else (c * i.den, Nat.pow 10 (-k).toNat)
  if i.closed then i.low * s ≤ x && x ≤ i.high * s else i.low * s < x && x < i.high * s

/-- The multiple of `10 ^ k` in the interval that is nearest to its number, if
    one of the two neighbours of the number lies there. -/
def Interval.nearest? (i : Interval) (k : Int) : Option Nat :=
  let (num, den) :=
    if 0 ≤ k then (i.value, i.den * Nat.pow 10 k.toNat)
    else (i.value * Nat.pow 10 (-k).toNat, i.den)
  let c := num / den
  let r := num % den
  match i.has c k, i.has (c + 1) k with
  | true, true => some (if 2 * r < den || (2 * r == den && c % 2 == 0) then c else c + 1)
  | true, false => some c
  | false, true => some (c + 1)
  | false, false => none

/-- Tries the grids `10 ^ k`, `10 ^ (k - 1)`, …, at most `n` of them. -/
def Interval.search (i : Interval) : Nat → Int → Nat × Int
  | 0, k => (i.value / i.den, k)
  | n + 1, k =>
    match i.nearest? k with
    | some c => if c == 0 then i.search n (k - 1) else (c, k)
    | none => i.search n (k - 1)

/-- The decimal `(c, k)` for `c · 10 ^ k` chosen for a positive `m · 2 ^ e`. -/
def decimalOf (m : Nat) (e : Int) : Nat × Int :=
  let i := intervalOf m e
  -- a power of ten above the number
  let top : Int := ((m.log2 : Int) + 1 + e) * 30103 / 100000 + 1
  i.search 25 top

/-! ## The text -/

/-- Digits with the zeros at the end dropped, and the exponent raised for each. -/
def trimZeros (ds : List Char) (k : Int) : List Char × Int :=
  let kept := Text.dropEnd (· == '0') ds
  (kept, k + (ds.length - kept.length : Nat))

/-- The exponent after its mark: a sign and at least two digits. -/
def exponentText (e : Int) : String :=
  let digits := toString e.natAbs
  (if e < 0 then "-" else "+") ++ (if digits.length < 2 then "0" ++ digits else digits)

/-- The digits `ds`, of which `point` stand before the point. -/
def positional (ds : List Char) (point : Int) : String :=
  if point ≤ 0 then
    "0." ++ String.ofList (List.replicate (-point).toNat '0') ++ String.ofList ds
  else if point.toNat < ds.length then
    String.ofList (ds.take point.toNat) ++ "." ++ String.ofList (ds.drop point.toNat)
  else
    String.ofList ds ++ String.ofList (List.replicate (point.toNat - ds.length) '0') ++ ".0"

/-- The digits `ds` with the point after the first of them and an exponent. -/
def scientific (ds : List Char) (point : Int) : String :=
  String.ofList (ds.take 1) ++ (if ds.length < 2 then "" else "." ++ String.ofList (ds.drop 1)) ++
    "e" ++ exponentText (point - 1)

/-- The text of a number: the fewest digits that read back. -/
def text (x : Double) : String :=
  match x.magnitude? with
  | none => if x.isNaN then "nan" else if x.negative then "-inf" else "inf"
  | some (m, e) =>
    let unsigned :=
      if m == 0 then "0.0" else
      let (c, k) := decimalOf m e
      let (ds, k) := trimZeros (toString c).toList k
      let point : Int := ds.length + k
      if -4 < point && point ≤ 16 then positional ds point else scientific ds point
    if x.negative then "-" ++ unsigned else unsigned

end CodecForge.Double
