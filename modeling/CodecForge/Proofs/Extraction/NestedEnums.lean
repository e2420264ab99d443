/-
  CodecForge — what becomes of nested enumerations.

  An enumeration nested in the coding keys is the group of a field, or it plays no part; what is
  nested in a group plays none.

  * `Schema.HasGroup` says that a field of a schema is the group of an enumeration; among
    siblings with names of their own it is one if a case claims the name
    (`hasGroup_schema_iff`);
  * `mem_ignored_iff` lists what plays no part, and `count_ignored` says how often an
    enumeration that is not claimed stands there;
  * `filter_warnings`: of what plays no part each generator warns once;
  * `accounted_of_run`: so every nested enumeration of an accepted type is accounted for.
-/
import CodecForge.Proofs.Extraction.Accepted
import CodecForge.Proofs.Target.FunctionNames

namespace CodecForge

/-! ## Groups -/

/-- A field of the schema is the group of the enumeration. -/
def Schema.HasGroup (s : Schema) (g : Enumeration) : Prop :=
  ∃ i, Field.group i g.name g.members ∈ s.fields

namespace Enumeration

/-- The nested enumerations have names of their own, without dots. -/
structure NamesApart (e : Enumeration) : Prop where
  nodup : (e.enums.map (·.name)).Nodup
  noDot : ∀ nested ∈ e.enums, '.' ∉ nested.name.toList

variable {e g nested : Enumeration} {c : Case} {name : String}

/-- The names that the cases claim. -/
def claims (e : Enumeration) : List String :=
  e.cases.filterMap fun c => (e.claimed? c).map (·.name)

theorem mem_claims :
    name ∈ e.claims ↔ ∃ c ∈ e.cases, ∃ g, e.claimed? c = some g ∧ g.name = name := by
  simp [claims]

theorem mem_enums_of_claimed (h : e.claimed? c = some g) : g ∈ e.enums := by
  unfold claimed? at h
  split at h <;> exact List.mem_of_find?_eq_some h

/-- **An enumeration is the group of a field exactly if a case claims its name.** -/
theorem hasGroup_schema_iff (h : e.NamesApart) (hg : g ∈ e.enums) :
    e.schema.HasGroup g ↔ g.name ∈ e.claims := by
  rw [mem_claims]
  constructor
  · rintro ⟨i, hi⟩
    obtain ⟨c, hc, g', hg', heq⟩ := claimed_of_mem_fields hi
    rw [Field.group.injEq] at heq
    exact ⟨c, hc, g', hg', heq.2.1.symm⟩
  · rintro ⟨c, hc, g', hg', hname⟩
    obtain rfl := List.inj_on_of_nodup_map h.nodup (mem_enums_of_claimed hg') hg hname
    refine ⟨c.plain, List.mem_map.2 ⟨c, hc, ?_⟩⟩
    rw [field, hg']

/-! ## What plays no part -/

theorem mem_unclaimed {claimed : List String} :
    name ∈ e.unclaimed claimed ↔
      ∃ nested ∈ e.enums, nested.name ∉ claimed ∧ nested.name = name := by
  simp [unclaimed, and_assoc]

theorem mem_ignoredBelow : name ∈ e.ignoredBelow c ↔
    ∃ g, e.claimed? c = some g ∧ ∃ nested ∈ g.enums, s!"{g.name}.{nested.name}" = name := by
  unfold ignoredBelow
  cases e.claimed? c with
  | none => simp
  | some g => simp [mem_unclaimed, toString, String.append_assoc]

/-- **What plays no part**: what stands in a claimed group, and what no case claims. -/
theorem mem_ignored_iff : name ∈ e.ignored ↔
    (∃ c ∈ e.cases, ∃ g, e.claimed? c = some g ∧
      ∃ nested ∈ g.enums, s!"{g.name}.{nested.name}" = name) ∨
    ∃ nested ∈ e.enums, nested.name ∉ e.claims ∧ nested.name = name := by
  rw [ignored, List.mem_append, List.mem_flatMap, ← claims, mem_unclaimed]
  simp only [mem_ignoredBelow]

theorem notMem_ignoredBelow (h : e.NamesApart) (hn : nested ∈ e.enums) (c : Case) :
    nested.name ∉ e.ignoredBelow c := by
  intro hmem
  obtain ⟨g, -, inner, -, heq⟩ := mem_ignoredBelow.1 hmem
  -- what stands in a group is listed with a dot
  refine h.noDot nested hn ?_
  rw [← heq]
  simp [toString]

/-- An enumeration that is not claimed is listed once, a claimed one never. -/
theorem count_ignored (h : e.NamesApart) (hn : nested ∈ e.enums) :
    e.ignored.count nested.name = if nested.name ∈ e.claims then 0 else 1 := by
  have hbelow : nested.name ∉ e.cases.flatMap e.ignoredBelow := by
    rw [List.mem_flatMap]
    rintro ⟨c, -, hc⟩
    exact notMem_ignoredBelow h hn c hc
  have hname : nested.name ∈ e.enums.map (·.name) := List.mem_map_of_mem hn
  rw [ignored, List.count_append, List.count_eq_zero_of_not_mem hbelow, Nat.zero_add, ← claims]
  split
  · next hclaimed =>
    refine List.count_eq_zero_of_not_mem fun hmem => ?_
    obtain ⟨_, -, hnot, heq⟩ := mem_unclaimed.1 hmem
    exact hnot (heq ▸ hclaimed)
  · next hclaimed =>
    rw [unclaimed_eq, List.count_filter (by simpa using hclaimed)]
    exact List.count_eq_one_of_mem h.nodup hname

end Enumeration

/-! ## Warnings -/

namespace Generator

/-- The warning for a nested enumeration that plays no part. -/
def ignoredText (typeName name : String) : String :=
  s!"Nested enum {typeName}.{name} is not used as a field group and was ignored"

/-- Whether a warning is about a nested enumeration. -/
def isAboutNested (w : String) : Bool := opening w = "Neste".toList

theorem filter_isAboutNested_eq_nil {ws : List String}
    (h : ∀ w ∈ ws, opening w ≠ "Neste".toList) : ws.filter isAboutNested = [] :=
  List.filter_eq_nil_iff.2 fun w hw => by simpa [isAboutNested] using h w hw

theorem filter_ignoredText (t : CodableType) :
    (t.ignoredEnums.map (ignoredText t.typeName)).filter isAboutNested =
      t.ignoredEnums.map (ignoredText t.typeName) := by
  rw [List.filter_eq_self, List.forall_mem_map]
  intro name _
  simp [isAboutNested, opening, ignoredText, toString]

theorem filter_typeWarnings (seen : List String) (t : CodableType) :
    (typeWarnings seen t).filter isAboutNested = t.ignoredEnums.map (ignoredText t.typeName) := by
  have hif : ∀ (p : Prop) [Decidable p] {v : String}, opening v ≠ "Neste".toList →
      ∀ w ∈ (if p then [v] else []), opening w ≠ "Neste".toList := by
    intro p _ v hv
    split
    · exact List.forall_mem_singleton.2 hv
    · exact List.forall_mem_nil _
  have hempty : opening s!"Type '{t.typeName}' has no coding keys" ≠ "Neste".toList := by
    simp [opening, toString]
  have hgroups : opening s!"Groups of enum '{t.typeName}' are ignored by the single value container"
      ≠ "Neste".toList := by
    simp [opening, toString]
  unfold typeWarnings
  rw [List.append_assoc, List.filter_append, List.filter_append,
    filter_isAboutNested_eq_nil (hif _ (by simp [opening, toString])), List.nil_append]
  refine (congrArg₂ (· ++ ·) (filter_ignoredText t) (filter_isAboutNested_eq_nil ?_)).trans
    (List.append_nil _)
  cases t.shape with
  | singleValue _ => exact List.forall_mem_nil _
  | keyed s => exact hif _ hempty
  | singleValueForEnum s =>
    refine List.forall_mem_append.2 ⟨hif _ hempty, ?_⟩
    split
    · exact List.forall_mem_nil _
    · exact List.forall_mem_singleton.2 hgroups

theorem filter_commonWarnings (seen : List String) (types : List CodableType) :
    (commonWarnings seen types).filter isAboutNested =
      types.flatMap fun t => t.ignoredEnums.map (ignoredText t.typeName) := by
  induction types generalizing seen with
  | nil => rfl
  | cons t types ih =>
    rw [commonWarnings, List.filter_append, filter_typeWarnings, ih, List.flatMap_cons]

/-- **Of each nested enumeration that plays no part a generator warns**, in the order of the
    types, and of no other. -/
theorem filter_warnings (g : Generator) (types : List CodableType) :
    (g.warnings types).filter isAboutNested =
      types.flatMap fun t => t.ignoredEnums.map (ignoredText t.typeName) := by
  have hpython : ∀ w ∈ pythonWarnings [] types, opening w ≠ "Neste".toList := by
    intro w hw
    rcases mem_pythonWarnings.1 hw with ⟨t, -, hw⟩ | ⟨k, -, rfl⟩
    · simp [opening_of_mem_attributeWarnings hw]
    · simp [opening_clash]
  unfold warnings
  rw [List.filter_append, filter_commonWarnings]
  cases g with
  | python s own =>
    dsimp only
    rw [filter_isAboutNested_eq_nil hpython, List.append_nil]
  | swift s own => exact List.append_nil _

end Generator

/-! ## Accepted types -/

namespace Extraction

variable {d : Declaration} {overrides : List (String × Json)} {t : CodableType} {n n' : Notices}
  {s : Schema}

/-- What plays no part in an accepted keyed type is what does so in the coding keys. -/
theorem ignoredEnums_of_run (h : run d overrides n = .ok t n') (hs : t.shape = .keyed s) :
    ∃ e, d.codingKeys? = some e ∧ s = e.schema ∧ t.ignoredEnums = e.ignored := by
  obtain ⟨-, options, shape, ignored, -, -, hdenotes, rfl⟩ := faultless_of_run h
  obtain ⟨access, strategy, directions⟩ := options
  dsimp only at hs hdenotes
  subst hs
  cases hdenotes with
  | @keyed e he => exact ⟨e, he, rfl, rfl⟩

/-- **Every nested enumeration is accounted for.**  What is nested in the coding keys of an
    accepted keyed type is the group of a field, or listed once among what is ignored, and not
    both; what is nested in a group is listed under the group; nothing else is listed, and a
    generator warns of all that is listed and of no other nested enumeration. -/
theorem accounted_of_run (h : run d overrides n = .ok t n') (hs : t.shape = .keyed s)
    (hapart : ∀ e, d.codingKeys? = some e → e.NamesApart) :
    ∃ e, d.codingKeys? = some e ∧
      (∀ nested ∈ e.enums, (s.HasGroup nested ∧ nested.name ∉ t.ignoredEnums) ∨
        (¬ s.HasGroup nested ∧ t.ignoredEnums.count nested.name = 1)) ∧
      (∀ g ∈ e.enums, s.HasGroup g → ∀ nested ∈ g.enums,
        s!"{g.name}.{nested.name}" ∈ t.ignoredEnums) ∧
      (∀ name ∈ t.ignoredEnums, (∃ nested ∈ e.enums, ¬ s.HasGroup nested ∧ name = nested.name) ∨
        ∃ g ∈ e.enums, s.HasGroup g ∧ ∃ nested ∈ g.enums, name = s!"{g.name}.{nested.name}") ∧
      ∀ (g : Generator) (types : List CodableType),
        (g.warnings types).filter Generator.isAboutNested =
          types.flatMap fun t => t.ignoredEnums.map (Generator.ignoredText t.typeName) := by
  obtain ⟨e, he, rfl, hignored⟩ := ignoredEnums_of_run h hs
  have hnames := hapart e he
  rw [hignored]
  refine ⟨e, he, fun nested hn => ?_, fun g hg hgroup nested hn => ?_, fun name hname => ?_,
    Generator.filter_warnings⟩
  · have hcount := Enumeration.count_ignored hnames hn
    rw [Enumeration.hasGroup_schema_iff hnames hn]
    by_cases hclaimed : nested.name ∈ e.claims
    · rw [if_pos hclaimed] at hcount
      exact .inl ⟨hclaimed, List.count_eq_zero.1 hcount⟩
    · rw [if_neg hclaimed] at hcount
      exact .inr ⟨hclaimed, hcount⟩
  · rw [Enumeration.hasGroup_schema_iff hnames hg, Enumeration.mem_claims] at hgroup
    obtain ⟨c, hc, g', hg', hname⟩ := hgroup
    obtain rfl := List.inj_on_of_nodup_map hnames.nodup (Enumeration.mem_enums_of_claimed hg') hg
      hname
    exact Enumeration.mem_ignored_iff.2 (.inl ⟨c, hc, g', hg', nested, hn, rfl⟩)
  · rcases Enumeration.mem_ignored_iff.1 hname with ⟨c, hc, g, hg, nested, hn, rfl⟩ |
      ⟨nested, hn, hclaimed, rfl⟩
    · have hmem := Enumeration.mem_enums_of_claimed hg
      refine .inr ⟨g, hmem, (Enumeration.hasGroup_schema_iff hnames hmem).2 ?_, nested, hn, rfl⟩
      exact Enumeration.mem_claims.2 ⟨c, hc, g, hg, rfl⟩
    · exact .inl ⟨nested, hn, fun hgroup =>
        hclaimed ((Enumeration.hasGroup_schema_iff hnames hn).1 hgroup), rfl⟩

/-- The keys of a route, with an enumeration in them. -/
def routeKeys : Enumeration :=
  ⟨"RouteCodingKeys", ["CodingKey"], [⟨"origin", none, []⟩], [⟨"Leg", [], [], []⟩]⟩

/-- What a fare may be: an enumeration with the name of a group that lists no coding keys. -/
def fareKeys : Enumeration := ⟨"FareCodingKeys", ["String"], [⟨"reduced", none, []⟩], []⟩

/-- A trip with a route, which is a group, and a fare, which is none. -/
def trip : Declaration where
  typeName := "Trip"
  kind := "extension"
  typeKind := "struct"
  enums := [⟨"CodingKeys", ["CodingKey"], [⟨"route", none, []⟩, ⟨"fare", none, []⟩],
    [routeKeys, fareKeys]⟩]
  options := []

theorem accounted_of_run_trip : ∃ t n' s, run trip [] {} = .ok t n' ∧ t.shape = .keyed s ∧
    (∀ e, trip.codingKeys? = some e → e.NamesApart) ∧
    s.HasGroup routeKeys ∧ routeKeys.name ∉ t.ignoredEnums ∧
    "RouteCodingKeys.Leg" ∈ t.ignoredEnums ∧
    ¬ s.HasGroup fareKeys ∧ t.ignoredEnums.count fareKeys.name = 1 := by
  obtain ⟨t, n', s, h, hs, hroute, hfare⟩ : ∃ t n' s, run trip [] {} = .ok t n' ∧
      t.shape = .keyed s ∧ s.HasGroup routeKeys ∧ fareKeys.name ∈ t.ignoredEnums :=
    ⟨_, _, _, rfl, rfl, ⟨_, List.mem_cons_self⟩, by decide⟩
  have hapart : ∀ e, trip.codingKeys? = some e → e.NamesApart := by
    rintro e ⟨⟩
    exact ⟨by decide, by decide⟩
  obtain ⟨e, he, hused, hbelow, -, -⟩ := accounted_of_run h hs hapart
  cases he
  refine ⟨t, n', s, h, hs, hapart, hroute, ?_, ?_, ?_⟩
  · rcases hused routeKeys (by simp) with ⟨-, hnot⟩ | ⟨hnot, -⟩
    · exact hnot
    · exact absurd hroute hnot
  · exact hbelow routeKeys (by simp) hroute ⟨"Leg", [], [], []⟩ (by simp [routeKeys])
  · rcases hused fareKeys (by simp) with ⟨-, hnot⟩ | hunused
    · exact absurd hfare hnot
    · exact hunused

end Extraction

end CodecForge
