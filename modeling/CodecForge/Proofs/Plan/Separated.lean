/-
  CodecForge — plans whose steps go to different places.

  The place of a step is the key of its container with its own key.

  * `Separated` says of the containers and steps of a plan what keeps them apart: the
    containers differ by variable and by key, the steps by place, and no step at the top
    goes where a container stands;
  * `separated_of_regular`: the plan of a regular schema whose fields differ by name is
    separated, and each step goes to the place of its leaf.
-/
import CodecForge.Proofs.Plan.Steps
import CodecForge.Proofs.Plan.Variables

namespace CodecForge

/-- The key of the container of a step, none for the root, with its own key. -/
def FieldStep.place (st : FieldStep) : Option String × String := (st.container.key, st.field.key)

/-- `c` is opened in `root`, under a key. -/
structure Container.IsIn (c root : Container) : Prop where
  parent : c.parent = some root.variable_
  key : ∃ k, c.key = some k

/-- Containers and steps that do not get into each other's way. -/
structure Separated (root : Container) (nested : List Container) (steps : List FieldStep) :
    Prop where
  rootParent : root.parent = none
  rootKey : root.key = none
  isIn : ∀ c ∈ nested, c.IsIn root
  variableNames : ((root :: nested).map (·.variable_)).Nodup
  keys : ((root :: nested).map (·.key)).Nodup
  mem : ∀ st ∈ steps, st.container ∈ root :: nested
  places : (steps.map (·.place)).Nodup
  free : ∀ st ∈ steps, st.container.key = none → ∀ c ∈ nested, c.key ≠ some st.field.key

section
variable {root : Container} {nested : List Container} {steps : List FieldStep}

theorem Separated.eq_of_key_eq (h : Separated root nested steps) {c c' : Container}
    (hc : c ∈ root :: nested) (hc' : c' ∈ root :: nested) (he : c.key = c'.key) : c = c' :=
  List.inj_on_of_nodup_map h.keys hc hc' he

/-- No container stands under the key of a step at the top. -/
theorem Separated.notMem_keys (h : Separated root nested steps) {st : FieldStep} (hst : st ∈ steps)
    (hroot : st.container = root) : some st.field.key ∉ (root :: nested).map (·.key) := by
  intro hmem
  rcases List.mem_cons.1 hmem with hkey | hkey
  · cases hkey.trans h.rootKey
  · obtain ⟨c, hc, hkey⟩ := List.mem_map.1 hkey
    exact h.free st hst (by rw [hroot, h.rootKey]) c hc hkey

end

/-- Two steps for one leaf and one place. -/
structure FieldStep.Matches (st st' : FieldStep) : Prop where
  field : st'.field = st.field
  transform : st'.transform = st.transform
  key : st'.container.key = st.container.key

variable {s : Schema}

theorem keys_groupContainers (style : VariableStyle) (s : Schema) :
    ∀ (gs : List (FieldInfo × Schema)) (taken : List String),
      (groupContainers style s taken gs).map (·.key) = gs.map fun g => some g.1.key
  | [], _ => rfl
  | (f, g) :: gs, taken => by
    simp only [groupContainers, List.map_cons, keys_groupContainers style s gs]
    rfl

theorem groupKeys_sublist (name : String) :
    ∀ fs : List Field, ((Schema.mk name fs).groups.map fun g => g.1.key).Sublist
      (fs.map (·.info.key))
  | [] => .slnil
  | .leaf _ :: fs => (groupKeys_sublist name fs).cons _
  | .group .. :: fs => (groupKeys_sublist name fs).cons_cons _

theorem nodup_keys (hs : s.Regular) (style : VariableStyle) :
    ((s.containers style).map (·.key)).Nodup := by
  have hkeys : (s.groups.map fun g => g.1.key).Nodup :=
    (groupKeys_sublist s.name s.fields).nodup hs.keys_nodup
  have hsome := hkeys.map fun _ _ => Option.some.inj
  rw [List.map_map] at hsome
  rw [Schema.containers, List.map_cons, keys_groupContainers]
  exact List.nodup_cons.2 ⟨by simp [rootContainer], hsome⟩

/-- With fields that differ by name a leaf goes to its place. -/
theorem place_of_isFor (hs : s.Regular) (hnames : (s.fields.map (·.info.localName)).Nodup)
    {d : Direction} {style : VariableStyle} {p : FieldInfo × Option FieldInfo}
    (hp : p ∈ s.flattened) {st : FieldStep} (hst : st.IsFor s d style p) :
    st.container ∈ s.containers style ∧ st.place = leafPlace p := by
  have hfind := hst.container
  unfold FieldStep.place leafPlace
  rw [hst.field]
  obtain ⟨f, _ | i⟩ := p
  · have hc : rootContainer s = st.container := Option.some.inj hfind
    rw [← hc]
    exact ⟨List.mem_cons_self, rfl⟩
  · obtain ⟨name, members, hg, -⟩ := hs.mem_flattened_some.1 hp
    obtain ⟨before, after, hsplit⟩ := List.append_of_mem hg
    obtain ⟨c, hc, hmem, hiff⟩ := containerFor_group hs hsplit style
    have hopen : c.IsOpenedFor s i name := by
      refine hiff.2 fun j name' members' hj he => ?_
      rw [hsplit] at hnames
      exact (notMem_map_of_nodup hnames).2 (List.mem_map.2 ⟨_, hj, he⟩)
    have hcst : c = st.container := by
      rw [← Option.some_inj, ← hc, hfind]
    rw [← hcst, hopen.key]
    exact ⟨List.mem_of_mem_tail hmem, rfl⟩

/-- **The plan of a regular schema whose fields differ by name is separated.** -/
theorem separated_of_regular (hs : s.Regular) (hnames : (s.fields.map (·.info.localName)).Nodup)
    {d : Direction} {style : VariableStyle} {steps : List FieldStep}
    (h : List.Forall₂ (fun p st => FieldStep.IsFor st s d style p) s.flattened steps) :
    Separated (rootContainer s) (groupContainers style s s.takenNames s.groups) steps where
  rootParent := rfl
  rootKey := rfl
  isIn c hc := by
    obtain ⟨g, -, hopen⟩ := isOpenedFor_of_mem hc
    exact ⟨hopen.parent, _, hopen.key⟩
  variableNames := nodup_variables s style
  keys := nodup_keys hs style
  mem st hst := by
    obtain ⟨p, hp, hfor⟩ := exists_of_mem_right h st hst
    exact (place_of_isFor hs hnames hp hfor).1
  places := by
    have hplaces : steps.map (·.place) = s.flattened.map leafPlace :=
      map_eq_of_forall₂ h fun p hp st hst => (place_of_isFor hs hnames hp hst).2
    rw [hplaces]
    exact hs.nodup_places
  free st hst hroot c hc hkey := by
    obtain ⟨p, hp, hfor⟩ := exists_of_mem_right h st hst
    obtain ⟨g, hg, hopen⟩ := isOpenedFor_of_mem hc
    have hplace := (place_of_isFor hs hnames hp hfor).2
    obtain ⟨f, _ | i⟩ := p
    · -- the group has the key of a leaf at the top
      have hleaf := hs.mem_flattened_none.1 hp
      have hgroup := mem_groups.1 (show (g.1, g.2) ∈ s.groups from hg)
      have he : g.1.key = f.key := by
        rw [← Option.some_inj, ← hopen.key, hkey, hfor.field]
      cases hs.field_eq_of_key_eq hgroup hleaf he
    · rw [FieldStep.place, hroot] at hplace
      cases hplace

end CodecForge
