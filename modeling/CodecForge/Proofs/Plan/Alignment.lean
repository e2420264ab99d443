/-
  CodecForge — plans that are made alike.

  All plans of a keyed type come from one walk of its schema, which names the containers
  differently in each style.

  * `CodecPlan.Aligned` says of two plans that their containers differ by their variables only,
    and that each of their steps has the same leaf and its container at the same position;
  * `position_containerFor`: of the containers under two styles, the searches for the
    container of a leaf end at one position;
  * `aligned_of_run`: hence the plans of an accepted type are aligned.
-/
import CodecForge.Proofs.Extraction.Accepted
import CodecForge.Proofs.Plan.Steps
import CodecForge.Proofs.Plan.Variables

namespace CodecForge

/-! ## Alignment -/

/-- Containers that differ by their variables at most. -/
structure Container.Agrees (c c' : Container) : Prop where
  keysName : c'.keysName = c.keysName
  key : c'.key = c.key
  localName : c'.localName = c.localName
  parent : c'.parent = c.parent

/-- The container of a step stands at a position of a list, and at no other. -/
def FieldStep.StandsAt (st : FieldStep) (cs : List Container) (j : Nat) : Prop :=
  ∀ k, cs[k]? = some st.container ↔ k = j

/-- Plans with containers that agree and steps for the same leaves, each at the same
    container. -/
structure CodecPlan.Aligned (p p' : CodecPlan) : Prop where
  containers : List.Forall₂ Container.Agrees p.containers p'.containers
  steps : List.Forall₂ (fun st st' => st'.field = st.field ∧
    ∃ j, st.StandsAt p.containers j ∧ st'.StandsAt p'.containers j) p.steps p'.steps

/-! ## Containers under two styles -/

section
variable (s : Schema) (style style' : VariableStyle)

theorem agrees_groupContainers :
    ∀ (gs : List (FieldInfo × Schema)) (taken taken' : List String),
      List.Forall₂ Container.Agrees (groupContainers style s taken gs)
        (groupContainers style' s taken' gs)
  | [], _, _ => .nil
  | (_, _) :: gs, _, _ => .cons ⟨rfl, rfl, rfl, rfl⟩ (agrees_groupContainers gs _ _)

theorem agrees_containers :
    List.Forall₂ Container.Agrees (s.containers style) (s.containers style') :=
  .cons ⟨rfl, rfl, rfl, rfl⟩ (agrees_groupContainers s style style' s.groups _ _)

/-- No container of a schema is listed twice. -/
theorem nodup_containers : (s.containers style).Nodup := (nodup_variables s style).of_map

variable {s style style'}

/-- **The searches for the container of a leaf end at one position.**  They look at local names
    only, which agree. -/
theorem position_containerFor {holder : Option FieldInfo} {c c' : Container}
    (hc : Schema.containerFor (s.containers style) (rootContainer s) holder = some c)
    (hc' : Schema.containerFor (s.containers style') (rootContainer s) holder = some c') :
    ∃ j : Nat, (s.containers style)[j]? = some c ∧ (s.containers style')[j]? = some c' := by
  cases holder with
  | none =>
    cases hc
    cases hc'
    exact ⟨0, rfl, rfl⟩
  | some i =>
    have hrel := List.forall₂_reverse_iff.2 (forall₂_position (agrees_containers s style style'))
    have hfound := related_of_find? hrel (fun b b' h => by rw [h.1.localName]) hc hc'
    exact hfound.2

theorem standsAt_of_getElem? {st : FieldStep} {j : Nat}
    (h : (s.containers style)[j]? = some st.container) :
    st.StandsAt (s.containers style) j := by
  intro k
  obtain ⟨hlt, -⟩ := List.getElem?_eq_some_iff.1 h
  rw [← h, eq_comm, List.getElem?_inj hlt (nodup_containers s style), eq_comm]

end

/-! ## Plans of accepted types -/

variable {d : Declaration} {overrides : List (String × Json)} {t : CodableType} {n n' : Notices}
  {s : Schema}

/-- **All plans of an accepted keyed type are made alike.**  They are aligned, whatever their
    directions and styles; in one style they have the same containers, and in one direction the
    same adapters. -/
theorem aligned_of_run (h : Extraction.run d overrides n = .ok t n') (hs : t.shape = .keyed s)
    (dir dir' : Direction) (style style' : VariableStyle) :
    ∃ p p', t.plan dir style = .ok p ∧ t.plan dir' style' = .ok p' ∧ p.Aligned p' ∧
      (style' = style → p'.containers = p.containers ∧
        p'.steps.map (·.container) = p.steps.map (·.container)) ∧
      (dir' = dir → p'.steps.map (·.transform) = p.steps.map (·.transform)) := by
  have hreg := Extraction.regular_of_run h hs
  obtain ⟨steps, hp, hf⟩ := plan_of_regular hs hreg dir style
  obtain ⟨steps', hp', hf'⟩ := plan_of_regular hs hreg dir' style'
  -- the steps of both plans are made for the leaves of one schema
  have hsteps := forall₂_of_common hf hf'
  refine ⟨_, _, hp, hp', ⟨agrees_containers s style style', hsteps.imp fun st st' hst => ?_⟩,
    ?_, ?_⟩
  · obtain ⟨leaf, hfor, hfor'⟩ := hst
    obtain ⟨j, hj, hj'⟩ := position_containerFor hfor.container hfor'.container
    exact ⟨hfor'.field.trans hfor.field.symm, j, standsAt_of_getElem? hj,
      standsAt_of_getElem? hj'⟩
  · rintro rfl
    refine ⟨rfl, map_eq_of_forall₂ hsteps fun st _ st' hst => ?_⟩
    obtain ⟨leaf, hfor, hfor'⟩ := hst
    exact Option.some.inj (hfor'.container.symm.trans hfor.container)
  · rintro rfl
    refine map_eq_of_forall₂ hsteps fun st _ st' hst => ?_
    obtain ⟨leaf, hfor, hfor'⟩ := hst
    exact hfor'.transform.trans hfor.transform.symm

/-! ## Windows -/

/-- Two groups whose names are spelled alike in snake case, the name of one leaf in the way of
    a variable in camel case, and an adapter for one direction. -/
def window : Declaration where
  typeName := "Window"
  kind := "extension"
  typeKind := "struct"
  enums := [{
    name := "CodingKeys"
    inherits := ["String", "CodingKey"]
    cases := [⟨"topLeft", some "from", [⟨"Group", some "From"⟩]⟩,
      ⟨"top_left", some "to", [⟨"Group", some "To"⟩]⟩,
      ⟨"topLeftContainer", some "in", [⟨"EncodedValue", some "Name"⟩]⟩]
    enums := [⟨"From", ["String", "CodingKey"], [⟨"x", none, []⟩], []⟩,
      ⟨"To", ["String", "CodingKey"], [⟨"y", none, []⟩], []⟩] }]
  options := []

/-- The schema of `window`. -/
def windowSchema : Schema where
  name := "CodingKeys"
  fields := [
    .group ⟨"from", "topLeft", false, none, none, none⟩ "From"
      [.leaf ⟨"x", "x", false, none, none, none⟩],
    .group ⟨"to", "top_left", false, none, none, none⟩ "To"
      [.leaf ⟨"y", "y", false, none, none, none⟩],
    .leaf ⟨"in", "topLeftContainer", false, none, some "Name", none⟩]

/-- The type of `window`. -/
def windowType : CodableType :=
  ⟨"Window", .keyed windowSchema, .internal, [.encode, .decode], []⟩

/-- The variables of the two plans are chosen differently, and the plans are aligned. -/
theorem aligned_of_run_window :
    Extraction.run window [] {} = .ok windowType {} ∧ windowType.shape = .keyed windowSchema ∧
      ∃ p p', windowType.plan .encode .snake = .ok p ∧ windowType.plan .decode .camel = .ok p' ∧
        p.Aligned p' ∧
        p.containers.map (·.variable_) =
          ["container", "top_left_container", "top_left_container_2"] ∧
        p'.containers.map (·.variable_) =
          ["container", "topLeftContainer2", "top_leftContainer"] ∧
        p.steps.map (·.transform) = [none, none, some "Name"] ∧
        p'.steps.map (·.transform) = [none, none, none] := by
  have hrun : Extraction.run window [] {} = .ok windowType {} := by rfl
  have hshape : windowType.shape = .keyed windowSchema := rfl
  obtain ⟨p, p', hp, hp', haligned, -⟩ := aligned_of_run hrun hshape .encode .decode .snake .camel
  refine ⟨hrun, hshape, p, p', hp, hp', haligned, ?_⟩
  cases hp
  cases hp'
  exact ⟨rfl, rfl, rfl, rfl⟩

end CodecForge
