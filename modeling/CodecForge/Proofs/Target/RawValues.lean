/-
  CodecForge — raw values as keys.

  A case of the coding keys has a raw value: the text that it declares, or its name.  Swift
  source writes the label of a case and leaves its raw value to the enumeration; Python source
  writes the key that was extracted for it.

  * `Case.KeyedBy` says of a key that it is the raw value of a case, unless that is an empty
    text; `Case.keyedBy_key`: so are the keys of cases that have a name;
  * `leaves_schema`, `groups_schema`: the leaves and groups of a schema are those of cases;
  * `keys_of_run`: so the fields of an accepted type, and the keys in its Python functions beside
    the labels in its Swift members, are keyed by the cases.
-/
import CodecForge.Proofs.Coding.Tags
import CodecForge.Proofs.Extraction.Identifiers
import CodecForge.Target.Python
import CodecForge.Target.Swift

namespace CodecForge

open Extraction

/-! ## Raw values -/

namespace Case

/-- The raw value of a case: the text that it declares, its name if it declares none. -/
def rawText (c : Case) : String := c.rawValue.getD c.name

/-- `key` is the raw value of a case, unless an empty text is declared; then it is the name. -/
structure KeyedBy (c : Case) (key : String) : Prop where
  eq_rawText_iff : key = c.rawText ↔ c.rawValue ≠ some ""
  eq_name : c.rawValue = some "" → key = c.name

theorem keyedBy_key {c : Case} (h : c.name ≠ "") : c.KeyedBy c.key := by
  unfold key
  cases hraw : c.rawValue with
  | none => exact ⟨by simp [rawText, hraw], fun hnone => by cases hraw.symm.trans hnone⟩
  | some raw =>
    by_cases hempty : raw = ""
    · subst hempty
      exact ⟨by simp [rawText, hraw, h], fun _ => rfl⟩
    · have hne : some raw ≠ some "" := fun he => hempty (Option.some.inj he)
      refine ⟨?_, fun he => absurd (hraw.symm.trans he) hne⟩
      simp [rawText, hraw, hempty]

/-- `f` stands for a case, under its key. -/
structure StoodForBy (c : Case) (f : Field) : Prop where
  localName : f.info.localName = c.name
  key : c.KeyedBy f.info.key

end Case

theorem Text.ne_empty_of_isAsciiIdentifier {s : String} (h : isAsciiIdentifier s) : s ≠ "" := by
  rintro rfl
  cases h

/-! ## Schemas of cases -/

/-- The fields of a schema stand for the cases of an enumeration, and those of a group for the
    cases of the enumeration that is claimed as the group. -/
structure Schema.StandsFor (s : Schema) (e : Enumeration) : Prop where
  fields : List.Forall₂ Case.StoodForBy e.cases s.fields
  groups : ∀ i l, (i, l) ∈ s.groups → ∃ c ∈ e.cases, ∃ g, e.claimed? c = some g ∧
    i.localName = c.name ∧ List.Forall₂ Case.StoodForBy g.cases l.fields

namespace Enumeration

variable {e : Enumeration}

/-- The cases that stand for groups. -/
def groupCases (e : Enumeration) : List Case := e.cases.filter fun c => (e.claimed? c).isSome

/-- The cases that stand for leaves, those of a group in the place of the case that claims it. -/
def leafCases (e : Enumeration) : List Case :=
  e.cases.flatMap fun c =>
    match e.claimed? c with
    | some g => g.cases
    | none => [c]

theorem leaves_schema : e.schema.leaves = e.leafCases.map Case.leaf := by
  have hfield : ∀ c, ((e.field c).flattenedIn none).map (·.1) =
      (match e.claimed? c with | some g => g.cases | none => [c]).map Case.leaf := by
    intro c
    unfold field
    cases e.claimed? c with
    | none => rfl
    | some g =>
      rw [Field.flattenedIn, flattenedFields_leaves _ fun _ => leaf_of_mem_members, members,
        List.map_map, List.map_map]
      rfl
  rw [Schema.leaves, Schema.flattened, schema, leafCases]
  dsimp only
  induction e.cases with
  | nil => rfl
  | cons c cs ih =>
    rw [List.map_cons, flattenedFields, List.map_append, ih, hfield, List.flatMap_cons,
      List.map_append]

theorem groups_schema : e.schema.groups.map (·.1) = e.groupCases.map (·.plain) := by
  rw [Schema.groups, schema, groupCases]
  dsimp only
  induction e.cases with
  | nil => rfl
  | cons c cs ih =>
    rw [List.map_cons, List.filterMap_cons, List.filter_cons, field]
    cases e.claimed? c with
    | none => exact ih
    | some g => exact congrArg (c.plain :: ·) ih

namespace IsTop

variable (h : e.IsTop)
include h

theorem keyedBy_cases : ∀ c ∈ e.cases, c.KeyedBy c.key :=
  fun c hc => Case.keyedBy_key (Text.ne_empty_of_isAsciiIdentifier (h.names c hc))

theorem keyedBy_group {c : Case} (hc : c ∈ e.cases) {g : Enumeration} (hg : e.claimed? c = some g) :
    ∀ m ∈ g.cases, m.KeyedBy m.key :=
  fun m hm => Case.keyedBy_key
    (Text.ne_empty_of_isAsciiIdentifier ((h.groups c hc g hg).names m hm))

theorem keyedBy_leafCases : ∀ c ∈ e.leafCases, c.KeyedBy c.key := by
  intro m hm
  obtain ⟨c, hc, hm⟩ := List.mem_flatMap.1 hm
  split at hm
  · next g hg => exact h.keyedBy_group hc hg m hm
  · rw [List.mem_singleton] at hm
    exact hm ▸ h.keyedBy_cases c hc

/-- **The fields of the schema stand for the cases.** -/
theorem standsFor_schema : e.schema.StandsFor e where
  fields := by
    rw [schema, List.forall₂_map_right_iff, List.forall₂_same]
    intro c hc
    obtain ⟨hkey, hname⟩ := info_field e c
    exact ⟨hname, hkey ▸ h.keyedBy_cases c hc⟩
  groups := by
    intro i l hl
    obtain ⟨c, hc, g, hg, rfl, rfl⟩ := claimed_of_mem_groups hl
    refine ⟨c, hc, g, hg, rfl, ?_⟩
    rw [members, List.forall₂_map_right_iff, List.forall₂_same]
    exact fun m hm => ⟨rfl, h.keyedBy_group hc hg m hm⟩

end IsTop

theorem keyedBy_of_tagsFault? {typeName : String} (h : tagsFault? typeName e = none) :
    ∀ c ∈ e.cases, c.KeyedBy c.key :=
  fun c hc => Case.keyedBy_key
    (Text.ne_empty_of_isAsciiIdentifier (isAsciiIdentifier_of_tagsFault? h c hc))

theorem standsFor_tags {typeName : String} (h : tagsFault? typeName e = none) :
    e.tags.StandsFor e where
  fields := by
    rw [tags, List.forall₂_map_right_iff, List.forall₂_same]
    exact fun c hc => ⟨rfl, keyedBy_of_tagsFault? h c hc⟩
  groups := by simp [groups_tags]

end Enumeration

/-! ## Source -/

/-- What source writes for cases: their keys in Python, their labels in Swift. -/
structure WrittenFor (cases : List Case) (keys labels : List String) : Prop where
  keys : List.Forall₂ Case.KeyedBy cases keys
  labels : labels = cases.map (·.name)

theorem writtenFor_map {cases : List Case} {f : Case → FieldInfo}
    (hf : ∀ c, (f c).key = c.key ∧ (f c).localName = c.name)
    (hkeys : ∀ c ∈ cases, c.KeyedBy c.key) :
    WrittenFor cases ((cases.map f).map (·.key)) ((cases.map f).map (·.localName)) where
  keys := by
    rw [List.map_map, List.forall₂_map_right_iff, List.forall₂_same]
    intro c hc
    rw [Function.comp_apply, (hf c).1]
    exact hkeys c hc
  labels := by
    rw [List.map_map]
    exact List.map_congr_left fun c _ => (hf c).2

variable {d : Declaration} {overrides : List (String × Json)} {t : CodableType} {n n' : Notices}
  {s : Schema}

/-- What Python source writes for the groups and leaves of a plan. -/
theorem keys_functionOf {p : CodecPlan} (own : PythonSettings)
    (hnested : List.Forall₂ (fun g c => Container.IsOpenedFor c s g.1 g.2.name) s.groups p.nested)
    (hsteps : p.steps.map (·.field) = s.leaves) :
    (Python.functionOf own p).containers.map (·.key) = (s.groups.map (·.1)).map (·.key) ∧
      (Python.functionOf own p).steps.map (·.key) = s.leaves.map (·.key) := by
  rw [Python.functionOf, ← hsteps, List.map_map, List.map_map, List.map_map, List.map_map]
  refine ⟨map_eq_of_forall₂ hnested fun g c _ hc => ?_, rfl⟩
  rw [Function.comp_apply, hc.key]
  rfl

/-- What Swift source writes for the groups and leaves of a plan. -/
theorem labels_memberOf {p : CodecPlan}
    (hnested : List.Forall₂ (fun g c => Container.IsOpenedFor c s g.1 g.2.name) s.groups p.nested)
    (hsteps : p.steps.map (·.field) = s.leaves) :
    (Swift.memberOf p).containers.map (·.label) = (s.groups.map (·.1)).map (·.localName) ∧
      (Swift.memberOf p).steps.map (·.label) = s.leaves.map (·.localName) := by
  rw [Swift.memberOf, ← hsteps, List.map_map, List.map_map, List.map_map, List.map_map]
  refine ⟨map_eq_of_forall₂ hnested fun g c _ hc => ?_, rfl⟩
  rw [Function.comp_apply, hc.localName]
  rfl

/-! ## Accepted types -/

/-- **Which keys stand for the cases of an accepted type.**  The key of a field at any level is
    the raw value of its case, except for the empty text: a case that declares it has its name
    for a key.  So it is with the keys that Python source writes where Swift source writes the
    cases themselves, for groups, leaves and tags. -/
theorem keys_of_run (h : run d overrides n = .ok t n') (hs : t.schema? = some s)
    (own : PythonSettings) (dir : Direction) :
    ∃ e p q, d.codingKeys? = some e ∧ s.StandsFor e ∧
      t.plan dir .snake = .ok p ∧ t.plan dir .camel = .ok q ∧
      (t.shape = .keyed s →
        WrittenFor e.groupCases ((Python.functionOf own p).containers.map (·.key))
            ((Swift.memberOf q).containers.map (·.label)) ∧
          WrittenFor e.leafCases ((Python.functionOf own p).steps.map (·.key))
            ((Swift.memberOf q).steps.map (·.label))) ∧
      (t.shape = .singleValueForEnum s →
        WrittenFor e.cases ((Python.functionOf own p).cases.map (·.key))
          (Swift.memberOf q).cases) := by
  obtain ⟨e, he, ⟨hshape, htop, rfl⟩ | ⟨hshape, hfault, rfl⟩⟩ := codingKeys_of_run h hs
  · obtain ⟨p, hp, hnested, hsteps⟩ := exists_plan_of_regular hshape htop.regular dir .snake
    obtain ⟨q, hq, hnested', hsteps'⟩ := exists_plan_of_regular hshape htop.regular dir .camel
    refine ⟨e, p, q, he, htop.standsFor_schema, hp, hq, fun _ => ⟨?_, ?_⟩,
      fun htags => (nomatch hshape.symm.trans htags)⟩
    · rw [(keys_functionOf own hnested hsteps).1, (labels_memberOf hnested' hsteps').1,
        Enumeration.groups_schema]
      exact writtenFor_map (fun _ => ⟨rfl, rfl⟩)
        fun c hc => htop.keyedBy_cases c (List.mem_of_mem_filter hc)
    · rw [(keys_functionOf own hnested hsteps).2, (labels_memberOf hnested' hsteps').2,
        Enumeration.leaves_schema]
      exact writtenFor_map (fun _ => ⟨rfl, rfl⟩) htop.keyedBy_leafCases
  · obtain ⟨p, hp, -, hcases⟩ := Enumeration.exists_plan_tags hshape dir .snake
    obtain ⟨q, hq, -, hcases'⟩ := Enumeration.exists_plan_tags hshape dir .camel
    refine ⟨e, p, q, he, Enumeration.standsFor_tags hfault, hp, hq,
      fun hkeyed => (nomatch hshape.symm.trans hkeyed), fun _ => ?_⟩
    rw [Python.functionOf, Swift.memberOf, hcases, hcases', List.map_map]
    exact writtenFor_map (f := Case.plain) (fun _ => ⟨rfl, rfl⟩)
      (Enumeration.keyedBy_of_tagsFault? hfault)

/-! ## A parcel -/

/-- A parcel with the empty text for the raw values of a leaf and of a group. -/
def parcel : Declaration where
  typeName := "Parcel"
  kind := "extension"
  typeKind := "struct"
  enums := [⟨"CodingKeys", ["String", "CodingKey"],
    [⟨"note", some "", []⟩, ⟨"weight", some "w", []⟩, ⟨"route", some "", []⟩],
    [⟨"RouteCodingKeys", ["String", "CodingKey"],
      [⟨"origin", some "from", []⟩, ⟨"via", none, []⟩], []⟩]⟩]
  options := []

/-- The keys as tags. -/
def asTag : List (String × Json) := [("container", .str "single_value_for_enum")]

/-- The leaf and the group are written as `note` and `route`. -/
theorem keys_of_run_parcel :
    (∃ t n' s, run parcel [] {} = .ok t n' ∧ t.schema? = some s ∧
      ∃ p q, t.plan .encode .snake = .ok p ∧ t.plan .encode .camel = .ok q ∧
        WrittenFor [⟨"route", some "", []⟩]
          ((Python.functionOf (.ofEntries []) p).containers.map (·.key))
          ((Swift.memberOf q).containers.map (·.label)) ∧
        WrittenFor [⟨"note", some "", []⟩, ⟨"weight", some "w", []⟩, ⟨"origin", some "from", []⟩,
            ⟨"via", none, []⟩]
          ((Python.functionOf (.ofEntries []) p).steps.map (·.key))
          ((Swift.memberOf q).steps.map (·.label))) ∧
    ∃ t n' s, run parcel asTag {} = .ok t n' ∧ t.schema? = some s ∧
      ∃ p q, t.plan .decode .snake = .ok p ∧ t.plan .decode .camel = .ok q ∧
        WrittenFor [⟨"note", some "", []⟩, ⟨"weight", some "w", []⟩, ⟨"route", some "", []⟩]
          ((Python.functionOf (.ofEntries []) p).cases.map (·.key)) (Swift.memberOf q).cases := by
  constructor
  · obtain ⟨t, n', s, h, hs⟩ : ∃ t n' s, run parcel [] {} = .ok t n' ∧ t.shape = .keyed s :=
      ⟨_, _, _, rfl, rfl⟩
    have hschema : t.schema? = some s := by
      rw [CodableType.schema?, hs]
      rfl
    obtain ⟨e, p, q, he, -, hp, hq, hkeyed, -⟩ := keys_of_run h hschema (.ofEntries []) .encode
    cases he
    exact ⟨t, n', s, h, hschema, p, q, hp, hq, (hkeyed hs).1, (hkeyed hs).2⟩
  · obtain ⟨t, n', s, h, hs⟩ :
        ∃ t n' s, run parcel asTag {} = .ok t n' ∧ t.shape = .singleValueForEnum s :=
      ⟨_, _, _, rfl, rfl⟩
    have hschema : t.schema? = some s := by
      rw [CodableType.schema?, hs]
      rfl
    obtain ⟨e, p, q, he, -, hp, hq, -, htags⟩ := keys_of_run h hschema (.ofEntries []) .decode
    cases he
    exact ⟨t, n', s, h, hschema, p, q, hp, hq, htags hs⟩

/-- Not every key is the raw value that a case declares. -/
theorem exists_key_ne_rawText : ¬ ∀ (d : Declaration) (overrides : List (String × Json))
    (n : Notices) (t : CodableType) (n' : Notices) (s : Schema), run d overrides n = .ok t n' →
      t.schema? = some s → ∀ e, d.codingKeys? = some e →
        List.Forall₂ (fun c f => f.info.key = c.rawText) e.cases s.fields := by
  intro h
  obtain ⟨t, n', s, hrun, hs, rest, hfields⟩ : ∃ t n' s, run parcel asTag {} = .ok t n' ∧
      t.schema? = some s ∧ ∃ rest,
        s.fields = .leaf ⟨"note", "note", false, none, none, none⟩ :: rest :=
    ⟨_, _, _, rfl, rfl, _, rfl⟩
  have hkeys := h parcel asTag {} t n' s hrun hs _ rfl
  rw [hfields] at hkeys
  have hnote := (List.forall₂_cons.1 hkeys).1
  revert hnote
  decide

end CodecForge
