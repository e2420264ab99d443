/-
  CodecForge — leaves and the containers of their groups.

  A declaration may list two cases of one name that group different enumerations
  under different keys.  `step_container_iff` says for every accepted declaration
  where the steps of a plan go: a leaf at the top to the root, a leaf of a group to
  the container of that group exactly if no later group has its name.  In
  `addresses` there is such a later group.
-/
import CodecForge.Proofs.Extraction.Accepted
import CodecForge.Proofs.Plan.Steps

namespace CodecForge

variable {d : Declaration} {overrides : List (String × Json)} {t : CodableType} {n n' : Notices}
  {s : Schema}

/-- **Where the leaves of an accepted keyed type are written and read.**  In every plan
    a leaf at the top belongs to the root container, and a leaf of a group belongs to
    the container opened for that group if and only if no later group has the group's
    name. -/
theorem step_container_iff (h : Extraction.run d overrides n = .ok t n')
    (hs : t.shape = .keyed s) (dir : Direction) (style : VariableStyle) :
    ∃ p, t.plan dir style = .ok p ∧ p.steps.map (·.field) = s.leaves ∧
      (∀ st ∈ p.steps, Field.leaf st.field ∈ s.fields →
        p.containers.head? = some st.container ∧ st.container.isRoot) ∧
      ∀ before i name members after, s.fields = before ++ .group i name members :: after →
        ∀ st ∈ p.steps, Field.leaf st.field ∈ members → st.container ∈ p.nested ∧
          (st.container.IsOpenedFor s i name ↔
            ∀ j name' members', Field.group j name' members' ∈ after →
              j.localName ≠ i.localName) := by
  have hreg := Extraction.regular_of_run h hs
  obtain ⟨steps, hp, hf⟩ := plan_of_regular hs hreg dir style
  refine ⟨_, hp, fields_of_isFor hf, fun st hst hleaf => ?_, ?_⟩
  · obtain ⟨p, hmem, hfor⟩ := exists_of_mem_right hf st hst
    have hpe := hreg.eq_of_leaf_eq hmem (hreg.mem_flattened_none.2 hleaf) hfor.field.symm
    have hc : some (rootContainer s) = some st.container := by
      rw [← hfor.container, hpe]
      rfl
    exact ⟨hc, by rw [← Option.some.inj hc]; rfl⟩
  · intro before i name members after hsplit st hst hleaf
    obtain ⟨p, hmem, hfor⟩ := exists_of_mem_right hf st hst
    have hgroup : Field.group i name members ∈ s.fields := by simp [hsplit]
    have hpe := hreg.eq_of_leaf_eq hmem
      (hreg.mem_flattened_some.2 ⟨name, members, hgroup, hleaf⟩) hfor.field.symm
    obtain ⟨c, hfind, hnested, hiff⟩ := containerFor_group hreg hsplit style
    have hc : c = st.container := by
      rw [← Option.some_inj, ← hfind, ← hfor.container, hpe]
    exact hc ▸ ⟨hnested, hiff⟩

/-! ## Two groups of one name -/

/-- A sender and a receiver that both stand under the name `address`. -/
def addresses : Declaration where
  typeName := "Parcel"
  kind := "extension"
  typeKind := "struct"
  enums := [{
    name := "CodingKeys"
    inherits := ["String", "CodingKey"]
    cases := [⟨"address", some "from", [⟨"Group", some "Sender"⟩]⟩,
      ⟨"address", some "to", [⟨"Group", some "Receiver"⟩]⟩]
    enums := [⟨"Sender", ["String", "CodingKey"], [⟨"origin", none, []⟩], []⟩,
      ⟨"Receiver", ["String", "CodingKey"], [⟨"target", none, []⟩], []⟩] }]
  options := []

def sender : FieldInfo := ⟨"from", "address", false, none, none, none⟩

def receiver : FieldInfo := ⟨"to", "address", false, none, none, none⟩

def origin : FieldInfo := ⟨"origin", "origin", false, none, none, none⟩

def target : FieldInfo := ⟨"target", "target", false, none, none, none⟩

/-- The schema of `addresses`. -/
def addressSchema : Schema where
  name := "CodingKeys"
  fields := [.group sender "Sender" [.leaf origin], .group receiver "Receiver" [.leaf target]]

/-- The type of `addresses`. -/
def addressType : CodableType :=
  ⟨"Parcel", .keyed addressSchema, .internal, [.encode, .decode], []⟩

/-- The leaf of the receiver goes to its own container, that of the sender does not. -/
theorem step_container_iff_addresses :
    Extraction.run addresses [] {} = .ok addressType {} ∧ addressType.shape = .keyed addressSchema ∧
      ∃ p, addressType.plan .encode .snake = .ok p ∧ ∀ st ∈ p.steps,
        (st.field.localName = "target" →
          st.container.IsOpenedFor addressSchema receiver "Receiver") ∧
        (st.field.localName = "origin" →
          ¬ st.container.IsOpenedFor addressSchema sender "Sender") := by
  have hrun : Extraction.run addresses [] {} = .ok addressType {} := by rfl
  have hshape : addressType.shape = .keyed addressSchema := rfl
  obtain ⟨p, hp, hfields, -, hgroup⟩ := step_container_iff hrun hshape .encode .snake
  refine ⟨hrun, hshape, p, hp, fun st hst => ?_⟩
  have hmem : st.field ∈ [origin, target] := by
    rw [show [origin, target] = addressSchema.leaves from rfl, ← hfields]
    exact List.mem_map_of_mem hst
  have hleaf : st.field = origin ∨ st.field = target := by simpa using hmem
  rcases hleaf with horigin | htarget
  · refine ⟨fun h => absurd h (by rw [horigin]; decide), fun _ hopen => ?_⟩
    have hown := hgroup [] sender "Sender" _ _ rfl st hst (by simp [horigin])
    exact hown.2.1 hopen receiver "Receiver" _ List.mem_cons_self rfl
  · refine ⟨fun _ => ?_, fun h => absurd h (by rw [htarget]; decide)⟩
    have hown := hgroup [_] receiver "Receiver" _ _ rfl st hst (by simp [htarget])
    exact hown.2.2 nofun

/-- The leaf of the sender goes to the container of the receiver. -/
theorem origin_step_in_receiver :
    Extraction.run addresses [] {} = .ok addressType {} ∧
      ∃ p st, addressType.plan .encode .snake = .ok p ∧ st ∈ p.steps ∧
        st.field.localName = "origin" ∧ st.container.key = some "to" ∧
        st.container.keysName = "CodingKeys.Receiver" := by
  exact ⟨by rfl, _, _, rfl, List.mem_cons_self, rfl, rfl, rfl⟩

end CodecForge
