/-
  CodecForge — JSON values with their entries in order.

  * `sorted` puts the entries of every object into the order of their keys;
  * `isFinite` tells the values that hold no number beyond JSON.
-/
import CodecForge.Json.Basic

namespace CodecForge.Json

/-- Entries in the order of their keys. -/
def byKey (es : List (String × Json)) : List (String × Json) :=
  es.mergeSort fun a b => decide (a.1 ≤ b.1)

mutual

/-- A value with the entries of every object in the order of their keys. -/
def sorted : Json → Json
  | .arr xs => .arr (sortedItems xs)
  | .obj es => .obj (byKey (sortedEntries es))
  | v => v

def sortedItems : List Json → List Json
  | [] => []
  | x :: xs => x.sorted :: sortedItems xs

def sortedEntries : List (String × Json) → List (String × Json)
  | [] => []
  | (k, v) :: es => (k, v.sorted) :: sortedEntries es

end

mutual

/-- Whether every number of a value is finite. -/
def isFinite : Json → Bool
  | .float x => !x.isNaN && !x.isInfinite
  | .arr xs => areFinite xs
  | .obj es => entriesFinite es
  | _ => true

def areFinite : List Json → Bool
  | [] => true
  | x :: xs => x.isFinite && areFinite xs

def entriesFinite : List (String × Json) → Bool
  | [] => true
  | (_, v) :: es => v.isFinite && entriesFinite es

end

end CodecForge.Json
