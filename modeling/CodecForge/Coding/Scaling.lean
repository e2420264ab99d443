/-
  CodecForge — values times a number, and parts of values.

  * `Value.times` multiplies a number and repeats a sequence;
  * `Value.floorPart` is the greatest whole number that is no greater than a part
    of a number.
-/
import CodecForge.Coding.Error

namespace CodecForge.Coding.Value

/-- Items repeated `k` times. -/
def repeated {α : Type} (k : Nat) (xs : List α) : List α := (List.replicate k xs).flatten

/-- A value `k` times. -/
def times (k : Nat) (v : Value) : Except Failure Value :=
  match v.plain with
  | bool b => .ok (int (if b then k else 0))
  | int n => .ok (int (k * n))
  | float x => .ok (float (x.timesNat k))
  | str s => .ok (str (String.ofList (repeated k s.toList)))
  | list xs => .ok (list (repeated k xs))
  | tuple xs => .ok (tuple (repeated k xs))
  | bytes bs => .ok (bytes (repeated k bs))
  | bytearray bs => .ok (bytearray (repeated k bs))
  | _ => .error .badOperand

/-- The `k`-th part of a value, rounded down. -/
def floorPart (k : Nat) (v : Value) : Except Failure Value :=
  match v.plain with
  | float x => .ok (float (x.floorDivNat k))
  | v =>
    match v.asInt? with
    | some n => .ok (int (Int.fdiv n k))
    | none => .error .badOperand

end CodecForge.Coding.Value
