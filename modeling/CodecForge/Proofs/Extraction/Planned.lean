/-
  CodecForge — the plans of extracted types.

  A walk can stop at a group without a container, but not the walk of a schema that was
  extracted.  So an extracted type has a plan for each of its directions (`exists_plansOf`),
  and a generator makes plans for every list of such types (`exists_withPlans`).
-/
import CodecForge.Generator
import CodecForge.Proofs.Extraction.Accepted
import CodecForge.Proofs.Plan.Steps

namespace CodecForge

/-- A type that some declaration is extracted as, under some overrides. -/
def CodableType.IsExtracted (t : CodableType) : Prop :=
  ∃ d overrides, Extraction.Yields (Extraction.run d overrides) t

/-- `p` is a plan of a procedure of `t`. -/
structure CodecPlan.IsOf (p : CodecPlan) (t : CodableType) : Prop where
  typeName : p.typeName = t.typeName
  isPublic : p.isPublic = t.isPublic

/-- `ps` are the plans of `t`, one for each of its directions. -/
structure CodableType.HasPlans (t : CodableType) (ps : List CodecPlan) : Prop where
  directions : ps.map (·.direction) = [Direction.encode, .decode].filter t.directions.contains
  isOf : ∀ p ∈ ps, p.IsOf t

variable {t : CodableType}

theorem CodableType.HasPlans.mem_directions {ps : List CodecPlan} (h : t.HasPlans ps)
    {d : Direction} : d ∈ t.directions ↔ ∃ p ∈ ps, p.direction = d := by
  rw [← List.mem_map, h.directions, List.mem_filter, List.contains_iff_mem]
  cases d <;> simp

theorem exists_plan (ht : t.IsExtracted) (d : Direction) (style : VariableStyle) :
    ∃ p, t.plan d style = .ok p ∧ p.direction = d ∧ p.IsOf t := by
  obtain ⟨declaration, overrides, n, n', hrun⟩ := ht
  cases hs : t.shape with
  | keyed s =>
    obtain ⟨steps, hp, -⟩ := plan_of_regular hs (Extraction.regular_of_run hrun hs) d style
    exact ⟨_, hp, rfl, rfl, rfl⟩
  | singleValue b =>
    exact ⟨⟨t.typeName, d, t.isPublic, .singleValue b⟩, by rw [CodableType.plan, hs]; rfl,
      rfl, rfl, rfl⟩
  | singleValueForEnum s =>
    exact ⟨⟨t.typeName, d, t.isPublic, .singleValueForEnum s.name (s.fields.map (·.info))⟩,
      by rw [CodableType.plan, hs]; rfl, rfl, rfl, rfl⟩

namespace Generator

variable (g : Generator)

/-- **An extracted type has a plan for each of its directions.** -/
theorem exists_plansOf (ht : t.IsExtracted) : ∃ ps, g.plansOf t = .ok ps ∧ t.HasPlans ps := by
  have hplan : ∀ d ∈ [Direction.encode, .decode].filter t.directions.contains,
      ∃ p, t.plan d g.target.style = .ok p ∧ p.direction = d ∧ p.IsOf t :=
    fun d _ => exists_plan ht d g.target.style
  obtain ⟨ps, hps, hf⟩ := exists_mapM_eq_ok hplan
  refine ⟨ps, hps, ?_, fun p hp => ?_⟩
  · rw [map_eq_of_forall₂ hf (f := id) fun _ _ _ h => h.1, List.map_id]
  · obtain ⟨d, -, h⟩ := exists_of_mem_right hf p hp
    exact h.2

/-- **A generator plans every list of extracted types.** -/
theorem exists_withPlans {types : List CodableType} (h : ∀ t ∈ types, t.IsExtracted) :
    ∃ planned, g.withPlans types = .ok planned ∧ planned.map (·.1) = types ∧
      ∀ q ∈ planned, q.1.HasPlans q.2 := by
  have hplans : ∀ t ∈ types, ∃ q : CodableType × List CodecPlan,
      (do return (t, ← g.plansOf t)) = Except.ok q ∧ q.1 = t ∧ q.1.HasPlans q.2 := by
    intro t ht
    obtain ⟨ps, hps, hplans⟩ := g.exists_plansOf (h t ht)
    exact ⟨(t, ps), by rw [hps]; rfl, rfl, hplans⟩
  obtain ⟨planned, hplanned, hf⟩ := exists_mapM_eq_ok hplans
  refine ⟨planned, hplanned, ?_, fun q hq => ?_⟩
  · rw [map_eq_of_forall₂ hf (f := id) fun _ _ _ h => h.1, List.map_id]
  · obtain ⟨t, -, h⟩ := exists_of_mem_right hf q hq
    exact h.2

end Generator

end CodecForge
