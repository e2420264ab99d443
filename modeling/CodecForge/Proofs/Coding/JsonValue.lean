/-
  CodecForge — JSON values are their own representation.

  * `Value.IsJson` are the values that a JSON text denotes;
  * `encodeValue_isJson`: unless a codec is registered for lists or dictionaries, they
    are written as they are.
-/
import CodecForge.Proofs.Coding.Collections

namespace CodecForge.Coding

/-- A null, a boolean, a number, a text, or a list or a dictionary of such values, the
    keys being texts. -/
inductive Value.IsJson : Value → Prop
  | null : IsJson .null
  | bool (b : Bool) : IsJson (.bool b)
  | int (n : Int) : IsJson (.int n)
  | float (x : Double) : IsJson (.float x)
  | str (s : String) : IsJson (.str s)
  | list {xs : List Value} (h : ∀ x ∈ xs, IsJson x) : IsJson (.list xs)
  | dict {ps : List (String × Value)} (hkeys : (ps.map (·.1)).Nodup)
      (h : ∀ p ∈ ps, IsJson p.2) : IsJson (.dict (Value.ofTexts ps))

/-- Lists and dictionaries are not written by codecs. -/
structure Context.KeepsCollections (c : Context) : Prop where
  list : ∀ xs, c.writer? (.list xs) = none
  dict : ∀ es, c.writer? (.dict es) = none

theorem Context.keepsCollections_of_nil {c : Context} (hc : c.codecs = []) :
    c.KeepsCollections :=
  ⟨fun xs => c.writer?_of_nil hc (.list xs), fun es => c.writer?_of_nil hc (.dict es)⟩

variable {c : Context} {ambient : Encoding}

theorem encodeWith_isJson (hc : c.KeepsCollections) {v : Value} (hv : v.IsJson)
    (path : CodingPath) : encodeWith c ambient v path = .ok v := by
  induction hv generalizing path with
  | list h ih =>
    rw [encodeWith, hc.list]
    dsimp only
    rw [encodeItems_of_forall₂ (List.forall₂_same.2 ih)]
    rfl
  | dict hkeys h ih =>
    rw [encodeWith, hc.dict]
    dsimp only
    rw [encodeEntries_of_forall₂ (List.forall₂_same.2 fun p hp => ⟨rfl, ih p hp⟩)]
    dsimp only [Except.map]
    rw [Value.entriesOf_of_nodup hkeys]
  | _ => rw [encodeWith]

theorem encodeValue_isJson (hc : c.KeepsCollections) {v : Value} (hv : v.IsJson)
    (path : CodingPath) : encodeValue c v path = .ok v :=
  encodeWith_isJson hc hv path

end CodecForge.Coding
