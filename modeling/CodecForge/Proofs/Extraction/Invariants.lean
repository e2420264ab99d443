/-
  CodecForge — what generators rely on.

  * `Schema.Level` are the schemas at the levels of a schema; `Schema.Follows` says what the
    schema that was read from an enumeration has at every level;
  * `follows_schema`, `follows_tags`: the schemas that an enumeration without a fault stands
    for have it;
  * `invariants_of_run`: hence the schema of every accepted type has it, with the name of a
    property in its place if a single value is written, and all plans of the type exist.
-/
import CodecForge.Proofs.Extraction.KeyedTypes
import CodecForge.Proofs.Extraction.Planned

namespace CodecForge

open Extraction

/-! ## Levels -/

/-- The schemas at the levels of a schema: itself, and the groups at a level. -/
inductive Schema.Level (s : Schema) : Schema → Prop
  | top : Level s s
  | group {l g : Schema} {i : FieldInfo} (hl : Level s l) (hg : (i, g) ∈ l.groups) : Level s g

/-- A field that is always written, and as it stands. -/
structure FieldInfo.IsPlain (i : FieldInfo) : Prop where
  conditional : i.conditional = false
  hasTransform : i.hasTransform = false

/-- What a schema that was read from an enumeration has. -/
structure Schema.Follows (s : Schema) (e : Enumeration) : Prop where
  name : s.name = e.name
  fields : List.Forall₂ (fun (c : Case) (f : Field) => f.info.localName = c.name ∧
    f.info.key = c.key) e.cases s.fields
  keys : ∀ l, s.Level l → l.keys.Nodup
  leafNames : (s.leaves.map (·.localName)).Nodup
  depth : s.depth ≤ 2
  groups : ∀ l, s.Level l → ∀ i g, (i, g) ∈ l.groups → i.IsPlain

/-! ## Depth -/

theorem depthOfFields_le {k : Nat} : ∀ {fs : List Field}, (∀ f ∈ fs, f.depth ≤ k) →
    depthOfFields fs ≤ k
  | [], _ => Nat.zero_le k
  | f :: fs, h => by
    rw [depthOfFields]
    exact max_le (h f List.mem_cons_self)
      (depthOfFields_le fun g hg => h g (List.mem_cons_of_mem f hg))

/-- Leaves have no levels. -/
theorem depthOfFields_leaves (infos : List FieldInfo) : depthOfFields (infos.map .leaf) = 0 := by
  refine Nat.le_zero.1 (depthOfFields_le fun f hf => ?_)
  obtain ⟨i, -, rfl⟩ := List.mem_map.1 hf
  exact Nat.le_refl 0

theorem groups_leaves (name : String) (infos : List FieldInfo) :
    (Schema.mk name (infos.map .leaf)).groups = [] := by
  simp [Schema.groups, Field.schema?]

/-! ## Schemas of enumerations -/

namespace Enumeration

variable {e g : Enumeration} {c : Case} {i : FieldInfo} {l : Schema}

theorem members_eq : g.members = (g.cases.map (·.leaf)).map .leaf := by
  rw [members, List.map_map]
  rfl

theorem fields_tags : e.tags.fields = (e.cases.map (·.plain)).map .leaf := by
  rw [tags, List.map_map]
  rfl

theorem keys_tags : e.tags.keys = e.cases.map (·.key) := by
  rw [Schema.keys, tags, List.map_map]
  rfl

theorem depth_field_le (e : Enumeration) (c : Case) : (e.field c).depth ≤ 1 := by
  unfold field
  cases e.claimed? c with
  | none => exact Nat.zero_le 1
  | some g => rw [Field.depth, members_eq, depthOfFields_leaves]

theorem claimed_of_mem_groups (h : (i, l) ∈ e.schema.groups) :
    ∃ c ∈ e.cases, ∃ g, e.claimed? c = some g ∧ i = c.plain ∧ l = ⟨g.name, g.members⟩ := by
  obtain ⟨c, hc, g, hg, hgroup⟩ := claimed_of_mem_fields (mem_groups.1 h)
  cases l
  cases hgroup
  exact ⟨c, hc, g, hg, rfl, rfl⟩

/-- The levels of the schema are itself and the groups that its cases claim. -/
theorem eq_of_level (h : e.schema.Level l) :
    l = e.schema ∨ ∃ c ∈ e.cases, ∃ g, e.claimed? c = some g ∧ l = ⟨g.name, g.members⟩ := by
  induction h with
  | top => exact .inl rfl
  | group _ hmem ih =>
    rcases ih with rfl | ⟨c, -, g, -, rfl⟩
    · obtain ⟨c, hc, g, hg, -, hl⟩ := claimed_of_mem_groups hmem
      exact .inr ⟨c, hc, g, hg, hl⟩
    · -- the members of a group are leaves, so there is no third level
      rw [members_eq, groups_leaves] at hmem
      cases hmem

theorem groups_tags : e.tags.groups = [] := by
  rw [Schema.groups, fields_tags]
  exact groups_leaves e.name _

theorem eq_of_level_tags (h : e.tags.Level l) : l = e.tags := by
  induction h with
  | top => rfl
  | group _ hmem ih =>
    rw [ih, groups_tags] at hmem
    cases hmem

theorem isPlain_plain (c : Case) : c.plain.IsPlain := ⟨rfl, rfl⟩

/-- **The schema of an enumeration that may list the coding keys follows it.** -/
theorem follows_schema (h : e.IsTop) : e.schema.Follows e where
  name := rfl
  fields := by
    rw [schema, List.forall₂_map_right_iff, List.forall₂_same]
    exact fun c _ => (info_field e c).symm
  keys l hl := by
    rcases eq_of_level hl with rfl | ⟨c, hc, g, hg, rfl⟩
    · exact keys_schema ▸ h.keys
    · rw [Schema.keys, keys_members]
      exact (h.groups c hc g hg).keys
  leafNames := leafNames_schema ▸ h.leafNames
  depth := by
    refine Nat.succ_le_succ (depthOfFields_le fun f hf => ?_)
    obtain ⟨c, -, rfl⟩ := List.mem_map.1 hf
    exact depth_field_le e c
  groups l hl i g hmem := by
    rcases eq_of_level hl with rfl | ⟨c, -, g, -, rfl⟩
    · obtain ⟨c, -, -, -, rfl, -⟩ := claimed_of_mem_groups hmem
      exact isPlain_plain c
    · rw [members_eq, groups_leaves] at hmem
      cases hmem

theorem leaf_of_mem_tags {f : Field} (h : f ∈ e.tags.fields) :
    ∃ i : FieldInfo, f = .leaf i ∧ i.IsPlain := by
  obtain ⟨c, -, rfl⟩ := List.mem_map.1 h
  exact ⟨c.plain, rfl, isPlain_plain c⟩

theorem depth_tags : e.tags.depth = 1 := by
  rw [Schema.depth, fields_tags, depthOfFields_leaves]

/-- **The schema of an enumeration whose cases may be tags follows it, too.** -/
theorem follows_tags {typeName : String} (h : tagsFault? typeName e = none) :
    e.tags.Follows e := by
  rw [tagsFault?, Option.or_eq_none_iff, Option.or_eq_none_iff, keysFault?_eq_none,
    leavesFault?_eq_none] at h
  obtain ⟨-, hkeys, hleaves⟩ := h
  exact {
    name := rfl
    fields := by
      rw [tags, List.forall₂_map_right_iff, List.forall₂_same]
      exact fun _ _ => ⟨rfl, rfl⟩
    keys := fun l hl => by rw [eq_of_level_tags hl, keys_tags]; exact hkeys
    leafNames := hleaves
    depth := by rw [depth_tags]; exact Nat.le_succ 1
    groups := fun l hl i g hmem => by
      rw [eq_of_level_tags hl, groups_tags] at hmem
      cases hmem }

end Enumeration

/-! ## Bindings -/

namespace CodingOptions

variable {binding : String}

theorem isAsciiIdentifier_of_bindingOf {v : Json} (h : bindingOf v = .ok (.singleValue binding)) :
    Text.isAsciiIdentifier binding := by
  unfold bindingOf at h
  split at h
  · split at h
    · cases h
      assumption
    · cases h
  · cases h

theorem isAsciiIdentifier_of_containerOf {v : Json}
    (h : containerOf v = .ok (.singleValue binding)) : Text.isAsciiIdentifier binding := by
  unfold containerOf at h
  split at h
  · unfold containerOfText at h
    dsimp only at h
    split at h
    · exact isAsciiIdentifier_of_bindingOf h
    · split at h <;> cases h
  · split at h
    · exact isAsciiIdentifier_of_bindingOf h
    · cases h
  · cases h

/-- The value that the options of a declaration, with overrides, give for the container. -/
def container? (own overrides : List (String × Json)) : Option Json :=
  Entries.get? "container" (Entries.putAll (normalized own) (normalized overrides))

section
variable {own overrides : List (String × Json)} {options : CodingOptions}
  (h : resolve own overrides = .ok options) (hs : options.strategy = .singleValue binding)
include h hs

/-- A binding that the options of a declaration come to is read off the container. -/
theorem exists_container_of_resolve :
    ∃ v, container? own overrides = some v ∧ containerOf v = .ok (.singleValue binding) := by
  unfold resolve at h
  dsimp only at h
  split at h
  · cases h
  · obtain ⟨strategy, hread, h⟩ := exists_of_bind_eq_ok h
    obtain ⟨access, -, h⟩ := exists_of_bind_eq_ok h
    obtain ⟨directions, -, h⟩ := exists_of_bind_eq_ok h
    cases h
    subst hs
    unfold readOr at hread
    split at hread
    · cases hread
    · next v hv => exact ⟨v, hv, hread⟩

/-- It is an identifier. -/
theorem isAsciiIdentifier_of_resolve : Text.isAsciiIdentifier binding := by
  obtain ⟨v, -, hv⟩ := exists_container_of_resolve h hs
  exact isAsciiIdentifier_of_containerOf hv

end

end CodingOptions

/-! ## Types -/

variable {d : Declaration} {overrides : List (String × Json)} {t : CodableType} {n n' : Notices}

/-- **What every accepted type has.**  Its strategy is the one of the options.  A schema follows
    the first enumeration that lists coding keys; that of a type written as a tag has one level,
    of plain leaves.  In the place of a schema a single value has the name of its property, and
    the plans of all directions and styles exist. -/
theorem invariants_of_run (h : run d overrides n = .ok t n') :
    (∃ options, CodingOptions.resolve d.options overrides = .ok options ∧
      t.strategy = options.strategy) ∧
    (∀ s, t.schema? = some s → ∃ e, d.codingKeys? = some e ∧ s.Follows e ∧
      (t.strategy.kind = .singleValueForEnum →
        s.depth = 1 ∧ ∀ f ∈ s.fields, ∃ i : FieldInfo, f = .leaf i ∧ i.IsPlain)) ∧
    (t.schema? = none ↔ t.strategy.kind = .singleValue) ∧
    (t.strategy.kind = .singleValue →
      ∃ b, t.strategy.binding? = some b ∧ Text.isAsciiIdentifier b) ∧
    ∀ dir style, ∃ p, t.plan dir style = .ok p := by
  have hplans : ∀ dir style, ∃ p, t.plan dir style = .ok p := by
    intro dir style
    obtain ⟨p, hp, -⟩ := exists_plan ⟨d, overrides, n, n', h⟩ dir style
    exact ⟨p, hp⟩
  obtain ⟨options, ho, hstrategy⟩ := strategy_of_run h
  obtain ⟨typeName, shape, access, directions, ignored⟩ := t
  cases shape with
  | singleValue b =>
    refine ⟨⟨options, ho, hstrategy⟩, nofun, iff_of_true rfl rfl, fun _ => ⟨b, rfl, ?_⟩, hplans⟩
    exact CodingOptions.isAsciiIdentifier_of_resolve ho hstrategy.symm
  | singleValueForEnum s =>
    obtain ⟨e, he, hfault, rfl⟩ := tagged_of_run h rfl
    refine ⟨⟨options, ho, hstrategy⟩, fun s hs => ?_, ⟨nofun, nofun⟩, nofun, hplans⟩
    cases hs
    exact ⟨e, he, Enumeration.follows_tags hfault, fun _ =>
      ⟨Enumeration.depth_tags, fun _ => Enumeration.leaf_of_mem_tags⟩⟩
  | keyed s =>
    obtain ⟨e, he, htop, rfl⟩ := top_of_run h rfl
    refine ⟨⟨options, ho, hstrategy⟩, fun s hs => ?_, ⟨nofun, nofun⟩, nofun, hplans⟩
    cases hs
    exact ⟨e, he, Enumeration.follows_schema htop, nofun⟩

/-- The ledger's schema has two levels, with one key in both of its groups. -/
theorem invariants_of_run_ledger : ∃ t n' s,
    run (ledger "Amount.self") [] {} = .ok t n' ∧ t.schema? = some s ∧ s.depth = 2 ∧
      s.leaves.map (·.key) = ["owner", "net", "net"] ∧
      (∃ e, (ledger "Amount.self").codingKeys? = some e ∧ s.Follows e) ∧
      ∀ dir style, ∃ p, t.plan dir style = .ok p := by
  obtain ⟨t, n', h, hshape⟩ : ∃ t n', run (ledger "Amount.self") [] {} = .ok t n' ∧
      ∃ s, t.schema? = some s ∧ s.depth = 2 ∧ s.leaves.map (·.key) = ["owner", "net", "net"] :=
    ⟨_, _, rfl, _, rfl, rfl, rfl⟩
  obtain ⟨s, hs, hdepth, hkeys⟩ := hshape
  obtain ⟨-, hschema, -, -, hplans⟩ := invariants_of_run h
  obtain ⟨e, he, hfollows, -⟩ := hschema s hs
  exact ⟨t, n', s, h, hs, hdepth, hkeys, ⟨e, he, hfollows⟩, hplans⟩

end CodecForge
