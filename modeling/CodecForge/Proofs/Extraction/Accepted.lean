/-
  CodecForge — what an accepted declaration looks like.

  `Yields x a` says of an extraction that it returns `a` from some notices.

  * the strategy of an accepted type is that of the options (`strategy_of_run`), its schema
    the one that the first enumeration of coding keys stands for, which has no fault
    (`top_of_run`, `tagged_of_run`);
  * `regular_of_run`: the schema of a keyed type that is accepted is regular;
  * `localNames_of_run`: its fields bear the names of the cases.
-/
import CodecForge.Proofs.Extraction.KeyedTypes

namespace CodecForge

/-! ## Schemas of enumerations -/

namespace Enumeration

variable {e : Enumeration} {i : FieldInfo} {name : String} {members : List Field}

theorem keys_schema : e.schema.keys = e.cases.map (·.key) := by
  rw [Schema.keys, schema, List.map_map]
  exact List.map_congr_left fun c _ => (Extraction.info_field e c).1

theorem keys_members (g : Enumeration) : g.members.map (·.info.key) = g.cases.map (·.key) := by
  rw [Enumeration.members, List.map_map]
  rfl

/-- A group of the schema is what a case claims. -/
theorem claimed_of_mem_fields (h : Field.group i name members ∈ e.schema.fields) :
    ∃ c ∈ e.cases, ∃ g, e.claimed? c = some g ∧
      Field.group i name members = .group c.plain g.name g.members := by
  obtain ⟨c, hc, hfield⟩ := List.mem_map.1 h
  unfold field at hfield
  cases hg : e.claimed? c with
  | none =>
    rw [hg] at hfield
    cases hfield
  | some g =>
    rw [hg] at hfield
    exact ⟨c, hc, g, hg, hfield.symm⟩

/-- **The schema of an enumeration that may list the coding keys is regular.** -/
theorem IsTop.regular (h : e.IsTop) : e.schema.Regular where
  keys_nodup := keys_schema ▸ h.keys
  leaf_of_member hmem := by
    obtain ⟨c, -, g, -, hgroup⟩ := claimed_of_mem_fields hmem
    cases hgroup
    exact fun f hf => leaf_of_mem_members hf
  memberKeys_nodup hmem := by
    obtain ⟨c, hc, g, hg, hgroup⟩ := claimed_of_mem_fields hmem
    cases hgroup
    exact keys_members g ▸ (h.groups c hc g hg).keys
  leafNames_nodup := leafNames_schema ▸ h.leafNames

end Enumeration

/-! ## Accepted declarations -/

namespace Extraction

/-- `x` returns `a` from some notices. -/
def Yields {α : Type} (x : Extraction α) (a : α) : Prop := ∃ n n', x n = .ok a n'

variable {d : Declaration} {overrides : List (String × Json)} {t : CodableType} {n n' : Notices}
  {s : Schema}

/-- The strategy of an accepted type is that of the options. -/
theorem strategy_of_run (h : run d overrides n = .ok t n') :
    ∃ options, CodingOptions.resolve d.options overrides = .ok options ∧
      t.strategy = options.strategy := by
  obtain ⟨-, options, shape, ignored, ho, -, hdenotes, rfl⟩ := faultless_of_run h
  obtain ⟨access, strategy, directions⟩ := options
  dsimp only at hdenotes
  refine ⟨_, ho, ?_⟩
  cases hdenotes <;> rfl

/-- The schema of an accepted keyed type is that of the coding keys. -/
theorem top_of_run (h : run d overrides n = .ok t n') (hs : t.shape = .keyed s) :
    ∃ e, d.codingKeys? = some e ∧ e.IsTop ∧ s = e.schema := by
  obtain ⟨-, options, shape, ignored, -, hfault, hdenotes, rfl⟩ := faultless_of_run h
  obtain ⟨access, strategy, directions⟩ := options
  dsimp only at hs hfault hdenotes
  subst hs
  cases hdenotes with
  | @keyed e he =>
    obtain ⟨e', he', htop⟩ := shapeFault?_keyed_eq_none.1 hfault
    cases he.symm.trans he'
    exact ⟨e, he, htop, rfl⟩

/-- The schema of an accepted type that is written as a tag is that of the coding keys. -/
theorem tagged_of_run (h : run d overrides n = .ok t n') (hs : t.shape = .singleValueForEnum s) :
    ∃ e, d.codingKeys? = some e ∧ tagsFault? d.typeName e = none ∧ s = e.tags := by
  obtain ⟨-, options, shape, ignored, -, hfault, hdenotes, rfl⟩ := faultless_of_run h
  obtain ⟨access, strategy, directions⟩ := options
  dsimp only at hs hfault hdenotes
  subst hs
  cases hdenotes with
  | @tags e he =>
    unfold Declaration.shapeFault? at hfault
    rw [he] at hfault
    exact ⟨e, he, hfault, rfl⟩

/-- A schema of an accepted type is that of the coding keys, as fields or as tags. -/
theorem codingKeys_of_run (h : run d overrides n = .ok t n') (hs : t.schema? = some s) :
    ∃ e, d.codingKeys? = some e ∧
      (t.shape = .keyed s ∧ e.IsTop ∧ s = e.schema ∨
        t.shape = .singleValueForEnum s ∧ tagsFault? d.typeName e = none ∧ s = e.tags) := by
  rw [CodableType.schema?] at hs
  cases hshape : t.shape with
  | keyed s' =>
    rw [hshape] at hs
    cases hs
    obtain ⟨e, he, htop, heq⟩ := top_of_run h hshape
    exact ⟨e, he, .inl ⟨rfl, htop, heq⟩⟩
  | singleValue b =>
    rw [hshape] at hs
    cases hs
  | singleValueForEnum s' =>
    rw [hshape] at hs
    cases hs
    obtain ⟨e, he, hfault, heq⟩ := tagged_of_run h hshape
    exact ⟨e, he, .inr ⟨rfl, hfault, heq⟩⟩

/-- **The schema of an accepted keyed type is regular.** -/
theorem regular_of_run (h : run d overrides n = .ok t n') (hs : t.shape = .keyed s) :
    s.Regular := by
  obtain ⟨e, -, htop, rfl⟩ := top_of_run h hs
  exact htop.regular

/-- The fields of an accepted keyed type bear the names of the cases. -/
theorem localNames_of_run (h : run d overrides n = .ok t n') (hs : t.shape = .keyed s) :
    ∃ e, d.codingKeys? = some e ∧
      s.fields.map (·.info.localName) = e.cases.map (·.name) := by
  obtain ⟨e, he, -, rfl⟩ := top_of_run h hs
  refine ⟨e, he, ?_⟩
  rw [Enumeration.schema, List.map_map]
  exact List.map_congr_left fun c _ => (info_field e c).2

end Extraction

end CodecForge
