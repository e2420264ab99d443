/-
  CodecForge — values inside values.

  * `Value.child?` is what stands under a key of a dictionary, or in a list at the index
    that the key denotes in decimal; `Value.at?` follows a path of such keys, and one path
    after another (`at?_append`);
  * each item of a list is found at its index (`child?_list`), and each entry of a
    dictionary in which no text stands twice is found under its key (`child?_ofTexts`).
-/
import CodecForge.Proofs.Coding.JsonValue

namespace CodecForge.Coding

namespace Value

/-- The value that a key leads to. -/
def child? (v : Value) (key : String) : Option Value :=
  match v with
  | dict es => lookup (.str key) es
  | list xs => ((List.range xs.length).find? (toString · == key)).bind (xs[·]?)
  | _ => none

/-- The value that a path leads to. -/
def at? (v : Value) : CodingPath → Option Value
  | [] => some v
  | key :: path => (v.child? key).bind (at? · path)

@[simp] theorem at?_nil (v : Value) : v.at? [] = some v := rfl

theorem at?_cons (v : Value) (key : String) (path : CodingPath) :
    v.at? (key :: path) = (v.child? key).bind (at? · path) := rfl

theorem at?_append (v : Value) (path path' : CodingPath) :
    v.at? (path ++ path') = (v.at? path).bind (at? · path') := by
  induction path generalizing v with
  | nil => rfl
  | cons key path ih =>
    rw [List.cons_append, at?_cons, at?_cons, Option.bind_assoc]
    congr 1
    funext w
    exact ih w

theorem child?_list (xs : List Value) (x : Value) (ys : List Value) :
    (list (xs ++ x :: ys)).child? (toString xs.length) = some x := by
  have hfind : (List.range (xs ++ x :: ys).length).find? (toString · == toString xs.length) =
      some xs.length := by
    rw [List.find?_range_eq_some]
    refine ⟨by simp, by simp, fun i hi => ?_⟩
    have hne : toString i ≠ toString xs.length := fun h => hi.ne (Nat.repr_inj.1 h)
    simpa using hne
  rw [child?, hfind]
  simp

theorem child?_ofTexts {ps : List (String × Value)} (hkeys : (ps.map (·.1)).Nodup)
    {p : String × Value} (hp : p ∈ ps) : (dict (ofTexts ps)).child? p.1 = some p.2 := by
  rw [child?, lookup_ofTexts, Entries.get?_of_mem hkeys hp]

end Value

end CodecForge.Coding
