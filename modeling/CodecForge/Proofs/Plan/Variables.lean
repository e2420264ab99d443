/-
  CodecForge — the variables of containers.

  No two candidates for a variable are the same, so among one more candidate than
  there are taken names one is free (`freshVariable_not_mem`).  Each group's
  variable joins the taken names of the groups after it, whence the variables of
  the containers of a schema differ (`nodup_variables`).
-/
import CodecForge.Plan
import Mathlib

namespace CodecForge

/-- Numbered candidates with one base differ from each other, and from the base. -/
theorem candidate_inj (base separator : String) {m n : Int}
    (h : (if m = 1 then base else base ++ separator ++ toString m) =
      if n = 1 then base else base ++ separator ++ toString n) : m = n := by
  have hne : ∀ k : Int, base ++ separator ++ toString k ≠ base := by
    intro k hk
    rw [String.append_assoc, String.append_eq_left_iff, String.append_eq_empty_iff] at hk
    have hread := Int.toInt?_repr k
    rw [show k.repr = "" from hk.2, show "".toInt? = none by cbv] at hread
    cases hread
  split_ifs at h with hm hn hn
  · rw [hm, hn]
  · exact absurd h.symm (hne n)
  · exact absurd h (hne m)
  · exact Int.repr_injective ((String.append_right_inj _).1 h)

theorem containerVariable_inj {style : VariableStyle} {localName : String} {m n : Int}
    (h : containerVariable style localName m = containerVariable style localName n) : m = n := by
  cases style with
  | camel =>
    exact candidate_inj (localName ++ "Container") "" (by simpa [containerVariable] using h)
  | snake => exact candidate_inj (Naming.toSnake localName ++ "_" ++ rootVariable) "_" h

/-- **The variable of a group is not taken.** -/
theorem freshVariable_not_mem (style : VariableStyle) (localName : String) (taken : List String) :
    freshVariable style localName taken ∉ taken := by
  unfold freshVariable
  dsimp only
  generalize hc : (List.range (taken.length + 1)).map
    (fun i : Nat => containerVariable style localName ((i : Int) + 1)) = candidates
  have hlen : candidates.length = taken.length + 1 := by simp [← hc]
  have hnd : candidates.Nodup := by
    rw [← hc]
    exact List.nodup_range.map fun m n hmn => by have := containerVariable_inj hmn; omega
  cases hf : candidates.find? (fun v => !taken.contains v) with
  | some v => simpa using List.find?_some hf
  | none =>
    have hsub : candidates ⊆ taken := fun v hv => by simpa using List.find?_eq_none.1 hf v hv
    have := hnd.length_le_of_subset hsub
    omega

theorem variables_groupContainers (style : VariableStyle) (s : Schema) :
    ∀ (gs : List (FieldInfo × Schema)) (taken : List String),
      ((groupContainers style s taken gs).map (·.variable_)).Nodup ∧
        ∀ c ∈ groupContainers style s taken gs, c.variable_ ∉ taken
  | [], _ => by simp [groupContainers]
  | (f, g) :: gs, taken => by
    obtain ⟨hnd, hfresh⟩ :=
      variables_groupContainers style s gs (freshVariable style f.localName taken :: taken)
    simp only [groupContainers, List.map_cons, List.nodup_cons, List.mem_map, List.mem_cons]
    refine ⟨⟨?_, hnd⟩, ?_⟩
    · rintro ⟨c, hc, hv⟩
      exact hfresh c hc (hv ▸ List.mem_cons_self)
    · rintro c (rfl | hc)
      · exact freshVariable_not_mem style f.localName taken
      · exact fun hm => hfresh c hc (List.mem_cons_of_mem _ hm)

/-- **The variables of the containers of a schema differ.** -/
theorem nodup_variables (s : Schema) (style : VariableStyle) :
    ((s.containers style).map (·.variable_)).Nodup := by
  obtain ⟨hnd, hfresh⟩ := variables_groupContainers style s s.groups s.takenNames
  refine List.nodup_cons.2 ⟨fun hm => ?_, hnd⟩
  obtain ⟨c, hc, hv⟩ := List.mem_map.1 hm
  exact hfresh c hc (by rw [hv]; exact List.mem_cons_self)

end CodecForge
