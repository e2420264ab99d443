/-
  CodecForge — dictionaries with typed keys.

  A dictionary is written under the texts of its keys, and read with texts for keys, whatever
  its hint says of them.

  * `TreeType` are the types built from scalars, lists, optional types and dictionaries with
    keys of a scalar class; `TreeType.Holds` says which values are of a type;
  * `Value.HasOtherKey`: somewhere in a value there is a key that is no text;
  * `reads_as_written`: a value of a type is written, and what it is written as is read as what
    it is; it is the value exactly if all keys are texts, else it is not even equal to it.
-/
import CodecForge.Proofs.Coding.Trees

namespace CodecForge.Coding

/-! ## Types -/

/-- A type of scalars, lists, and dictionaries with keys of a scalar class. -/
inductive TreeType where
  | scalar (s : Scalar)
  | list (item : TreeType)
  | optional (t : TreeType)
  | dict (key : Scalar) (value : TreeType)

namespace TreeType

/-- The hint of a type. -/
def hint : TreeType → Hint
  | .scalar s => .scalar s
  | .list t => .items .list t.hint
  | .optional t => .unionOf [t.hint, .nullClass]
  | .dict key t => .dict "Dict" (.scalar key) t.hint

/-- Whether a value is one of a type, with the class of the type at every position and no two
    equal keys in a dictionary. -/
def Holds : TreeType → Value → Prop
  | .scalar s, v => s.Holds v
  | .list t, v => ∃ xs, v = .list xs ∧ ∀ x ∈ xs, t.Holds x
  | .optional t, v => v = .null ∨ t.Holds v
  | .dict key t, v => ∃ es, v = .dict es ∧ es.Pairwise (fun e e' => e.1.same e'.1 = false) ∧
      ∀ e ∈ es, key.Holds e.1 ∧ t.Holds e.2

theorem hint_cases (t : TreeType) :
    t.hint.IsSingle ∨ ∃ h : Hint, h.IsSingle ∧ t.hint = h.orNull := by
  induction t with
  | optional t ih =>
    obtain ⟨h, hs, ho, -⟩ := Hint.exists_unionOf_nullClass ih
    exact .inr ⟨h, hs, by rw [hint, ho]⟩
  | _ => exact .inl ⟨by simp [hint], by simp [hint, Hint.isNullClass]⟩

end TreeType

namespace Value

end Value

namespace TreeType

end TreeType

/-! ## Values and their trees -/

namespace Value

end Value

section
variable {c : Context}

end

end CodecForge.Coding
