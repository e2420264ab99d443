/-
  CodecForge — places of numbers in sets.

  A set keeps its items in a row of places, and they are shown in the order of
  the places.  A number asks for the place that its residue tells; where that one
  and those beside it are taken, the number moves on to other parts of the row.

  * `residue` and `Double.residue?` are residues of numbers modulo a prime, with a
    sign: equal numbers have equal residues, whole or not;
  * `freePlace` finds the place of a residue, `inserted` puts an item there; a row
    of which more than three fifths are taken gives way to a longer one;
  * `inPlaces` is the order in which items stand that are added one by one.
-/
import CodecForge.Number.Double

namespace CodecForge

/-! ## Residues -/

/-- The modulus of residues, a prime. -/
def residueModulus : Nat := Nat.pow 2 61 - 1

/-- A residue with a sign as a word of 64 bits.  Minus one is no residue: minus two
    stands for it, too. -/
def signedResidue (negative : Bool) (r : Nat) : Nat :=
  if !negative || r = 0 then r else Nat.pow 2 64 - max r 2

/-- The residue of an integer. -/
def residue (n : Int) : Nat := signedResidue (n < 0) (n.natAbs % residueModulus)

/-- The residue of a number; that of infinity is arbitrary.  As `2 ^ 61` is one
    modulo the prime, exponents count modulo 61. -/
def Double.residue? (x : Double) : Option Nat :=
  match x.magnitude? with
  | some (m, e) =>
    some (signedResidue x.negative (m * Nat.pow 2 (e.emod 61).toNat % residueModulus))
  | none => if x.isInfinite then some (signedResidue x.negative 314159) else none

namespace Coding

/-! ## Rows -/

/-- A row of places: items with their residues, where one is taken. -/
abbrev Row (α : Type) := List (Option (Nat × α))

variable {α : Type}

/-- The first free place that a residue is led to, from a place on: one of the ten
    places there if the row has as many, else that one.  `rest` is what of the
    residue has not yet led anywhere; when it is spent, every place is visited in
    turn, so there are as many steps as places and a few more. -/
def freePlace (row : Row α) : Nat → Nat → Nat → Nat
  | 0, place, _ => place
  | fuel + 1, place, rest =>
    let near := if place + 9 < row.length then 10 else 1
    match ((row.drop place).take near).findIdx? (·.isNone) with
    | some k => place + k
    | none =>
      let rest := rest / 32
      freePlace row fuel ((place * 5 + 1 + rest) % row.length) rest

/-- A row with an item put at its place. -/
def inserted (row : Row α) (x : Nat × α) : Row α :=
  row.set (freePlace row (row.length + 16) (x.1 % row.length) x.1) (some x)

/-- The items of a row in the order of their places. -/
def taken (row : Row α) : List (Nat × α) := row.filterMap id

/-- A row without items. -/
def emptyRow (length : Nat) : Row α := List.replicate length none

/-- A row with an item added: if it gets too full, its items move to one that has
    more than four places for each of them, a power of two. -/
def added (row : Row α) (x : Nat × α) : Row α :=
  let row := inserted row x
  let count := (taken row).length
  if count * 5 < (row.length - 1) * 3 then row
  else (taken row).foldl inserted (emptyRow (Nat.pow 2 ((count * 4).log2 + 1)))

/-- Items with their residues in the order of their places. -/
def inPlaces (xs : List (Nat × α)) : List α :=
  (taken (xs.foldl added (emptyRow 8))).map (·.2)

end Coding

end CodecForge
