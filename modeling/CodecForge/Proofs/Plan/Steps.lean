/-
  CodecForge — the containers of steps.

  A plan of a regular schema always exists; it opens the root and a container for
  each group at the top, and it has one step for each leaf, in wire order
  (`plan_of_regular`).  The container of a step is found by the name of its group,
  so of two groups with one name the later one takes the leaves of both:

  * `containerFor_group`: what is found for the leaves of a group is its own
    container exactly if no later group has its name;
  * `visitsOf_eq`: leaves are visited as far as containers are found.
-/
import CodecForge.Plan
import CodecForge.Proofs.Related
import CodecForge.Proofs.Schema.Regular

namespace CodecForge

/-! ## Containers -/

/-- `c` is the container opened for the group `i` of the enumeration `name`. -/
structure Container.IsOpenedFor (c : Container) (s : Schema) (i : FieldInfo) (name : String) :
    Prop where
  key : c.key = some i.key
  localName : c.localName = some i.localName
  keysName : c.keysName = s.name ++ "." ++ name
  parent : c.parent = some rootVariable

/-- The containers of groups, one for each. -/
theorem isOpenedFor_groupContainers (style : VariableStyle) (s : Schema) :
    ∀ (gs : List (FieldInfo × Schema)) (taken : List String),
      List.Forall₂ (fun g c => Container.IsOpenedFor c s g.1 g.2.name) gs
        (groupContainers style s taken gs)
  | [], _ => .nil
  | (_, _) :: gs, _ => .cons ⟨rfl, rfl, rfl, rfl⟩ (isOpenedFor_groupContainers style s gs _)

theorem isOpenedFor_of_mem {style : VariableStyle} {s : Schema} {c : Container}
    {gs : List (FieldInfo × Schema)} {taken : List String}
    (h : c ∈ groupContainers style s taken gs) : ∃ g ∈ gs, c.IsOpenedFor s g.1 g.2.name :=
  exists_of_mem_right (isOpenedFor_groupContainers style s gs taken) c h

theorem exists_groupContainer (style : VariableStyle) (s : Schema) {i : FieldInfo} {g : Schema}
    {gs : List (FieldInfo × Schema)} (taken : List String) (h : (i, g) ∈ gs) :
    ∃ c ∈ groupContainers style s taken gs, c.IsOpenedFor s i g.name :=
  exists_of_mem_right (isOpenedFor_groupContainers style s gs taken).flip (i, g) h

theorem groupContainers_append (style : VariableStyle) (s : Schema)
    (hs : List (FieldInfo × Schema)) :
    ∀ (gs : List (FieldInfo × Schema)) (taken : List String), ∃ taken',
      groupContainers style s taken (gs ++ hs) =
        groupContainers style s taken gs ++ groupContainers style s taken' hs
  | [], taken => ⟨taken, rfl⟩
  | (f, g) :: gs, taken => by
    obtain ⟨taken', h⟩ := groupContainers_append style s hs gs
      (freshVariable style f.localName taken :: taken)
    exact ⟨taken', by simp only [List.cons_append, groupContainers, h]⟩

theorem mem_groups {s : Schema} {i : FieldInfo} {g : Schema} :
    (i, g) ∈ s.groups ↔ Field.group i g.name g.fields ∈ s.fields := by
  simp only [Schema.groups, List.mem_filterMap, Option.map_eq_some_iff]
  constructor
  · rintro ⟨_ | ⟨j, name, members⟩, hf, _, hg, he⟩
    · cases hg
    · cases hg; cases he; exact hf
  · exact fun h => ⟨_, h, _, rfl, rfl⟩

/-- The containers of a schema, split at one of its groups. -/
theorem containers_split {s : Schema} {before after : List Field} {i : FieldInfo} {name : String}
    {members : List Field} (h : s.fields = before ++ .group i name members :: after)
    (style : VariableStyle) : ∃ front v taken, s.containers style =
      rootContainer s :: front ++ groupContainer s i ⟨name, members⟩ v ::
        groupContainers style s taken (Schema.mk s.name after).groups := by
  have hg : s.groups = (Schema.mk s.name before).groups ++
      (i, ⟨name, members⟩) :: (Schema.mk s.name after).groups := by
    simp [Schema.groups, h, Field.schema?, Field.info]
  obtain ⟨taken', hc⟩ := groupContainers_append style s
    ((i, ⟨name, members⟩) :: (Schema.mk s.name after).groups) (Schema.mk s.name before).groups
    s.takenNames
  rw [Schema.containers, hg, hc]
  exact ⟨_, _, _, rfl⟩

/-- What is found for the leaves of a group: the container of a later group of the
    same name, or else its own. -/
theorem containerFor_split (front : List Container) {c : Container} (back : List Container)
    (root : Container) {i : FieldInfo} (hc : c.localName = some i.localName) :
    ∃ c', Schema.containerFor (front ++ c :: back) root (some i) = some c' ∧
      c'.localName = some i.localName ∧
      (c' ∈ back ∨ c' = c ∧ ∀ b ∈ back, b.localName ≠ some i.localName) := by
  simp only [Schema.containerFor, List.reverse_append, List.reverse_cons, List.append_assoc,
    List.find?_append]
  cases hf : back.reverse.find? (fun b => b.localName == some i.localName) with
  | some c' =>
    refine ⟨c', rfl, by simpa using List.find?_some hf, .inl ?_⟩
    simpa using List.mem_of_find?_eq_some hf
  | none =>
    refine ⟨c, by simp [hc], hc, .inr ⟨rfl, fun b hb => ?_⟩⟩
    simpa using List.find?_eq_none.1 hf b (by simpa using hb)

/-- **The leaves of a group go to its own container exactly if no later group bears its
    name.** -/
theorem containerFor_group {s : Schema} (hs : s.Regular) {before after : List Field}
    {i : FieldInfo} {name : String} {members : List Field}
    (h : s.fields = before ++ .group i name members :: after) (style : VariableStyle) :
    ∃ c, Schema.containerFor (s.containers style) (rootContainer s) (some i) = some c ∧
      c ∈ (s.containers style).tail ∧
      (c.IsOpenedFor s i name ↔
        ∀ j name' members', Field.group j name' members' ∈ after → j.localName ≠ i.localName) := by
  obtain ⟨front, v, taken, hsplit⟩ := containers_split h style
  obtain ⟨c, hfind, hname, hc⟩ := containerFor_split (rootContainer s :: front)
    (groupContainers style s taken (Schema.mk s.name after).groups) (rootContainer s)
    (show (groupContainer s i ⟨name, members⟩ v).localName = some i.localName from rfl)
  rw [hsplit]
  refine ⟨c, hfind, ?_, ?_⟩
  · rcases hc with hc | ⟨rfl, -⟩
    · simp [hc]
    · simp
  · rcases hc with hc | ⟨rfl, hback⟩
    · -- the container of a later group has another key
      obtain ⟨⟨j, g⟩, hg, hopen⟩ := isOpenedFor_of_mem hc
      have hg := mem_groups.1 hg
      have hnd : (s.fields.map (·.info.key)).Nodup := hs.keys_nodup
      rw [h] at hnd
      have hne : i.key ≠ j.key := by
        intro he
        exact (notMem_map_of_nodup hnd).2 (List.mem_map.2 ⟨_, hg, he.symm⟩)
      refine ⟨fun hi => absurd (Option.some.inj (hi.key.symm.trans hopen.key)) hne, fun hi => ?_⟩
      exact absurd (Option.some.inj (hopen.localName.symm.trans hname)) (hi j g.name g.fields hg)
    · refine ⟨fun _ j name' members' hj he => ?_, fun _ => ⟨rfl, rfl, rfl, rfl⟩⟩
      obtain ⟨b, hb, hopen⟩ := exists_groupContainer style s taken
        (mem_groups (s := ⟨s.name, after⟩) (g := ⟨name', members'⟩).2 hj)
      exact hback b hb (by rw [hopen.localName, he])

/-! ## Steps -/

/-- `st` is the step of a leaf in a direction. -/
structure FieldStep.IsFor (st : FieldStep) (s : Schema) (d : Direction) (style : VariableStyle)
    (p : FieldInfo × Option FieldInfo) : Prop where
  field : st.field = p.1
  transform : st.transform = p.1.transformFor d
  container : Schema.containerFor (s.containers style) (rootContainer s) p.2 = some st.container

theorem fields_of_isFor {s : Schema} {d : Direction} {style : VariableStyle}
    {steps : List FieldStep}
    (h : List.Forall₂ (fun p st => FieldStep.IsFor st s d style p) s.flattened steps) :
    steps.map (·.field) = s.leaves :=
  map_eq_of_forall₂ h fun _ _ _ hst => hst.field

/-- **The visits go as far as containers are found.**  Where one is missing, the group is told
    and no more leaf is visited. -/
theorem visitsOf_eq (cs : List Container) (root : Container) :
    ∀ qs : List (FieldInfo × Option FieldInfo),
      List.Forall₂ (fun q v => v.1 = q.1 ∧ Schema.containerFor cs root q.2 = some v.2)
        (qs.takeWhile fun q => (Schema.containerFor cs root q.2).isSome)
        (visitsOf cs root qs).1 ∧
      (visitsOf cs root qs).2 =
        (qs.find? fun q => !(Schema.containerFor cs root q.2).isSome).bind fun q =>
          q.2.map (·.localName)
  | [] => ⟨.nil, rfl⟩
  | (f, holder) :: qs => by
    obtain ⟨hvisits, hmissing⟩ := visitsOf_eq cs root qs
    rw [visitsOf, List.takeWhile_cons, List.find?_cons]
    cases hc : Schema.containerFor cs root holder with
    | none => exact ⟨.nil, rfl⟩
    | some c => exact ⟨.cons ⟨rfl, hc⟩ hvisits, hmissing⟩

theorem visitsOf_total (cs : List Container) (root : Container)
    {fs : List (FieldInfo × Option FieldInfo)}
    (h : ∀ p ∈ fs, ∃ c, Schema.containerFor cs root p.2 = some c) :
    ∃ vs, visitsOf cs root fs = (vs, none) ∧
      List.Forall₂ (fun p v => v.1 = p.1 ∧ Schema.containerFor cs root p.2 = some v.2) fs vs := by
  have hfound : ∀ p ∈ fs, (Schema.containerFor cs root p.2).isSome :=
    fun p hp => Option.isSome_iff_exists.2 (h p hp)
  obtain ⟨hvisits, hmissing⟩ := visitsOf_eq cs root fs
  rw [List.takeWhile_eq_self_iff.2 hfound] at hvisits
  rw [List.find?_eq_none.2 fun p hp => by simp [hfound p hp]] at hmissing
  exact ⟨_, Prod.ext rfl hmissing, hvisits⟩

theorem exists_containerFor {s : Schema} (hs : s.Regular) (style : VariableStyle)
    {p : FieldInfo × Option FieldInfo} (hp : p ∈ s.flattened) :
    ∃ c, Schema.containerFor (s.containers style) (rootContainer s) p.2 = some c := by
  obtain ⟨f, _ | i⟩ := p
  · exact ⟨_, rfl⟩
  · obtain ⟨name, members, hg, -⟩ := hs.mem_flattened_some.1 hp
    obtain ⟨before, after, h⟩ := List.append_of_mem hg
    obtain ⟨c, hc, -⟩ := containerFor_group hs h style
    exact ⟨c, hc⟩

/-- **A type with a regular schema has a plan, with a step for each leaf.** -/
theorem plan_of_regular {t : CodableType} {s : Schema} (ht : t.shape = .keyed s) (hs : s.Regular)
    (d : Direction) (style : VariableStyle) :
    ∃ steps, t.plan d style = .ok ⟨t.typeName, d, t.isPublic, .keyed (s.containers style) steps⟩ ∧
      List.Forall₂ (fun p st => FieldStep.IsFor st s d style p) s.flattened steps := by
  obtain ⟨vs, hvs, hf⟩ := visitsOf_total (s.containers style) (rootContainer s)
    fun p hp => exists_containerFor hs style hp
  refine ⟨vs.map fun v => ⟨v.1, v.2, v.1.transformFor d⟩, ?_, ?_⟩
  · simp only [CodableType.plan, ht, Shape.planBody, Schema.walk, hvs]
    rfl
  · rw [List.forall₂_map_right_iff]
    exact hf.imp fun p v h => ⟨h.1, by rw [← h.1], h.2⟩

/-- A plan of a regular schema has a nested container for each group, and writes the leaves. -/
theorem exists_plan_of_regular {t : CodableType} {s : Schema} (ht : t.shape = .keyed s)
    (hs : s.Regular) (d : Direction) (style : VariableStyle) : ∃ p, t.plan d style = .ok p ∧
      List.Forall₂ (fun g c => Container.IsOpenedFor c s g.1 g.2.name) s.groups p.nested ∧
      p.steps.map (·.field) = s.leaves := by
  obtain ⟨steps, hp, hsteps⟩ := plan_of_regular ht hs d style
  exact ⟨_, hp, isOpenedFor_groupContainers style s s.groups s.takenNames,
    fields_of_isFor hsteps⟩

/-- The adapters of a plan are those of its steps. -/
theorem mem_transforms {p : CodecPlan} {a : String} :
    a ∈ p.transforms ↔ ∃ st ∈ p.steps, st.transform = some a := by
  have hfold : ∀ (ts seen : List String),
      a ∈ ts.foldl (fun seen t => if seen.contains t then seen else seen ++ [t]) seen ↔
        a ∈ seen ∨ a ∈ ts := by
    intro ts
    induction ts with
    | nil => simp
    | cons t ts ih =>
      intro seen
      rw [List.foldl_cons, ih]
      split <;> grind
  rw [CodecPlan.transforms, hfold]
  simp

end CodecForge
