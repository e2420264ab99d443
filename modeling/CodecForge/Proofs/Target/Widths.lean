/-
  CodecForge — the source for types at every width.

  Source is laid out by counting blanks in the finished text, so its structure is kept only if
  all lines are written in whole levels.

  * `Generator.withIndent` is the generator with another width, which writes the same source
    before it is laid out (`module_withIndent`);
  * `Generator.aligned_moduleOf_iff`: the source for accepted types is in whole levels, whatever
    keys and headers say, unless a docstring names a single value with a line feed;
  * `reindented_iff_of_extracted`: so these are the types whose code has the same lines at every
    width, each indented by as many levels.
-/
import CodecForge.Proofs.Target.PythonLayout
import CodecForge.Proofs.Target.SwiftLayout

namespace CodecForge

open Extraction
open Layout (Aligned Reindented unit leadingBlanks)
open Text (OneLine)

/-! ## Plans of extracted types -/

theorem CodingOptions.directions_ne_nil {own overrides : List (String × Json)}
    {options : CodingOptions} (h : resolve own overrides = .ok options) :
    options.directions ≠ [] := by
  have hread : ∀ v ds, directionsOf v = .ok ds → ds ≠ [] := by
    intro v ds hds
    unfold directionsOf at hds
    split at hds <;> cases hds <;> exact List.cons_ne_nil _ _
  unfold resolve at h
  dsimp only at h
  split at h
  · cases h
  · obtain ⟨strategy, -, h⟩ := exists_of_bind_eq_ok h
    obtain ⟨access, -, h⟩ := exists_of_bind_eq_ok h
    obtain ⟨directions, hdirections, h⟩ := exists_of_bind_eq_ok h
    cases h
    unfold readOr at hdirections
    split at hdirections
    · cases hdirections
      exact List.cons_ne_nil _ _
    · exact hread _ _ hdirections

/-- An accepted type has at least one direction. -/
theorem directions_ne_nil_of_run {d : Declaration} {overrides : List (String × Json)}
    {t : CodableType} {n n' : Notices} (h : run d overrides n = .ok t n') :
    t.directions ≠ [] := by
  obtain ⟨-, options, shape, ignored, ho, -, -, rfl⟩ := faultless_of_run h
  exact CodingOptions.directions_ne_nil ho

theorem binding?_of_plan {t : CodableType} {d : Direction} {style : VariableStyle} {p : CodecPlan}
    (h : t.plan d style = .ok p) : p.binding? = t.strategy.binding? := by
  obtain ⟨body, hbody, h⟩ := exists_of_bind_eq_ok h
  cases h
  rw [CodableType.strategy]
  cases hs : t.shape with
  | keyed s =>
    rw [hs] at hbody
    unfold Shape.planBody at hbody
    dsimp only at hbody
    split at hbody <;> cases hbody
    rfl
  | singleValue b | singleValueForEnum s =>
    rw [hs] at hbody
    cases hbody
    rfl

namespace Generator

/-- Types with their plans, if all names are on one line but perhaps a single value. -/
structure PlannedOnOneLine (types : List CodableType)
    (planned : List (CodableType × List CodecPlan)) : Prop where
  oneLine : ∀ q ∈ planned, OneLine q.1.typeName ∧ ∀ p ∈ q.2, p.OneLine
  bindings : ∀ b, (∃ q ∈ planned, ∃ p ∈ q.2, p.binding? = some b) ↔
    ∃ t ∈ types, t.strategy.binding? = some b

variable (g : Generator) {types : List CodableType}

theorem exists_plan_of_mem_plansOf {t : CodableType} {ps : List CodecPlan} {p : CodecPlan}
    (h : g.plansOf t = .ok ps) (hp : p ∈ ps) : ∃ d, t.plan d g.target.style = .ok p := by
  unfold plansOf at h
  rcases mapM_cases (fun d => t.plan d g.target.style)
    ([Direction.encode, .decode].filter t.directions.contains) with
    ⟨ps', hps', hf⟩ | ⟨_, _, _, e, -, -, -, herror⟩
  · cases hps'.symm.trans h
    obtain ⟨d, -, hd⟩ := exists_of_mem_right hf p hp
    exact ⟨d, hd⟩
  · cases herror.symm.trans h

/-- An extracted type has plans, whose names are on one line if its own are. -/
theorem exists_oneLine_plansOf {t : CodableType} (h : t.IsExtracted)
    (ht : ∀ name, t.Mentions name → OneLine name) : ∃ ps, g.plansOf t = .ok ps ∧ ps ≠ [] ∧
      ∀ p ∈ ps, p.OneLine ∧ p.binding? = t.strategy.binding? := by
  obtain ⟨ps, hps, hdirections⟩ := g.exists_plansOf h
  obtain ⟨d, overrides, n, n', hrun⟩ := h
  refine ⟨ps, hps, ?_, fun p hp => ?_⟩
  · rintro rfl
    obtain ⟨dir, hdir⟩ := List.exists_mem_of_ne_nil _ (directions_ne_nil_of_run hrun)
    obtain ⟨p, hp, -⟩ := hdirections.mem_directions.1 hdir
    cases hp
  · obtain ⟨dir, hplan⟩ := g.exists_plan_of_mem_plansOf hps hp
    exact ⟨oneLine_of_plan hrun ht hplan, binding?_of_plan hplan⟩

theorem exists_plannedOnOneLine (h : ∀ t ∈ types, t.IsExtracted)
    (ht : ∀ t ∈ types, ∀ name, t.Mentions name → OneLine name) :
    ∃ planned, g.withPlans types = .ok planned ∧ PlannedOnOneLine types planned := by
  have hplans : ∀ t ∈ types, ∃ q : CodableType × List CodecPlan,
      (do return (t, ← g.plansOf t)) = Except.ok q ∧ q.1 = t ∧ q.2 ≠ [] ∧
        ∀ p ∈ q.2, p.OneLine ∧ p.binding? = t.strategy.binding? := by
    intro t hmem
    obtain ⟨ps, hps, hplans⟩ := g.exists_oneLine_plansOf (h t hmem) (ht t hmem)
    exact ⟨(t, ps), by rw [hps]; rfl, rfl, hplans⟩
  obtain ⟨planned, hplanned, hf⟩ := exists_mapM_eq_ok hplans
  refine ⟨planned, hplanned, ?_, fun b => ?_⟩
  · intro q hq
    obtain ⟨t, hmem, rfl, -, hp⟩ := exists_of_mem_right hf q hq
    exact ⟨ht q.1 hmem _ .typeName, fun p hmem' => (hp p hmem').1⟩
  · constructor
    · rintro ⟨q, hq, p, hp, hb⟩
      obtain ⟨t, hmem, rfl, -, hall⟩ := exists_of_mem_right hf q hq
      exact ⟨q.1, hmem, (hall p hp).2 ▸ hb⟩
    · rintro ⟨t, hmem, hb⟩
      obtain ⟨q, hq, rfl, hne, hall⟩ := exists_of_mem_right hf.flip t hmem
      obtain ⟨p, hp⟩ := List.exists_mem_of_ne_nil _ hne
      exact ⟨q, hq, p, hp, (hall p hp).2.trans hb⟩

/-! ## Source in whole levels -/

/-- The modules that the source of a generator names, as they stand in it. -/
def moduleNames : Generator → List String
  | python _ own => own.runtimeModule.text :: own.typeModule.toList.map (·.text)
  | swift _ own => own.imports.map (·.text)

/-- Whether the source of a generator describes its functions. -/
def describes : Generator → Bool
  | python _ own => own.docstrings
  | swift _ _ => false

variable {g} {planned : List (CodableType × List CodecPlan)}

/-- **Source is in whole levels unless a docstring names a single value with a line feed.** -/
theorem aligned_moduleOf_iff (hg : ∀ name ∈ g.moduleNames, OneLine name)
    (h : PlannedOnOneLine types planned) : Aligned (g.moduleOf planned) ↔
      (g.describes → ∀ t ∈ types, ∀ b, t.strategy.binding? = some b → '\n' ∉ b.toList) := by
  have hbindings : (∀ q ∈ planned, ∀ p ∈ q.2, ∀ b, p.binding? = some b → '\n' ∉ b.toList) ↔
      ∀ t ∈ types, ∀ b, t.strategy.binding? = some b → '\n' ∉ b.toList := by
    constructor
    · intro hfree t ht b hb
      obtain ⟨q, hq, p, hp, hb⟩ := (h.bindings b).2 ⟨t, ht, hb⟩
      exact hfree q hq p hp b hb
    · intro hfree q hq p hp b hb
      obtain ⟨t, ht, hb⟩ := (h.bindings b).1 ⟨q, hq, p, hp, hb⟩
      exact hfree t ht b hb
  cases g with
  | python s own =>
    have htypes : OneLine (own.typeModule.getD .null).text := by
      cases hmodule : own.typeModule with
      | none => exact Text.avoids_ofList rfl
      | some m => exact hg _ (List.mem_cons_of_mem _ (by simp [hmodule]))
    rw [← hbindings]
    exact Python.aligned_moduleOf_iff (hg _ List.mem_cons_self).noFeed htypes.noFeed
      fun q hq => ⟨(h.oneLine q hq).1.noFeed, (h.oneLine q hq).2⟩
  | swift s own =>
    refine iff_of_true (Swift.aligned_source ?_ ?_) nofun
    · exact hg
    · simp only [Swift.fileOf, List.forall_mem_map]
      exact fun q hq => Swift.aligned_blockOf (h.oneLine q hq).1 (h.oneLine q hq).2

/-! ## Widths -/

variable (g)

/-- The generator with `n` blanks for a level of indentation. -/
def withIndent (n : Nat) : Generator → Generator
  | python s own => python { s with indentSize := .int n } own
  | swift s own => swift { s with indentSize := .int n } own

/-- The width decides nothing before the source is laid out. -/
theorem module_withIndent (n : Nat) (types : List CodableType) :
    (g.withIndent n).module types = g.module types := by
  cases g <;> rfl

/-- What is generated at a width: the source laid out, if there is room for it. -/
theorem generate_withIndent_eq_ok_iff (n : Nat) {types : List CodableType} {code : String}
    (h : g.module types = .ok code) {r : Generated} :
    (g.withIndent n).generate types = .ok r ↔ Layout.HasRoom n code ∧
      r = ⟨Layout.format n code, g.warnings types, .ofTypes g.target types⟩ := by
  have hsize : (g.withIndent n).settings.indentSize = .int n := by cases g <;> rfl
  have hwarnings : (g.withIndent n).warnings types = g.warnings types := by cases g <;> rfl
  have htarget : (g.withIndent n).target = g.target := by cases g <;> rfl
  have hgenerate : (g.withIndent n).generate types =
      (Layout.formatWith (.int n) code).mapError GenerationError.layout >>= fun text =>
        .ok ⟨text, g.warnings types, .ofTypes g.target types⟩ := by
    rw [generate, module_withIndent, h, hsize, hwarnings, htarget]
    rfl
  rw [hgenerate]
  cases hformat : Layout.formatWith (.int n) code with
  | error e =>
    refine iff_of_false nofun fun hr => ?_
    cases hformat.symm.trans (Layout.formatWith_eq_ok_iff.2 ⟨hr.1, rfl⟩)
  | ok text =>
    obtain ⟨hroom, rfl⟩ := Layout.formatWith_eq_ok_iff.1 hformat
    exact ⟨fun hr => ⟨hroom, (Except.ok.inj hr).symm⟩, fun hr => congrArg Except.ok hr.2.symm⟩

/-- Extracted types have source, in whole levels unless a docstring is broken. -/
theorem exists_module (hg : ∀ name ∈ g.moduleNames, OneLine name)
    (h : ∀ t ∈ types, t.IsExtracted)
    (ht : ∀ t ∈ types, ∀ name, t.Mentions name → OneLine name) :
    ∃ code, g.module types = .ok code ∧ (Aligned code ↔
      (g.describes → ∀ t ∈ types, ∀ b, t.strategy.binding? = some b → '\n' ∉ b.toList)) := by
  obtain ⟨planned, hplanned, hnames⟩ := g.exists_plannedOnOneLine h ht
  refine ⟨g.moduleOf planned, ?_, aligned_moduleOf_iff hg hnames⟩
  rw [module, hplanned]
  rfl

/-- **When the code for extracted types keeps its structure at every width.**  The names of
    types, enumerations, cases, adapters and modules are on one line each.  Then there is code at
    the width of the source, and at another width exactly if there is room for its lines; it has
    as many lines at every width.  Each line is the line at the width of the source, with the
    blanks of its levels exchanged for those of the width, exactly if no docstring names a single
    value with a line feed. -/
theorem reindented_iff_of_extracted (hg : ∀ name ∈ g.moduleNames, OneLine name)
    (h : ∀ t ∈ types, t.IsExtracted)
    (ht : ∀ t ∈ types, ∀ name, t.Mentions name → OneLine name) :
    ∃ r, (g.withIndent unit).generate types = .ok r ∧ ∀ n : Nat,
      ((∃ r', (g.withIndent n).generate types = .ok r') ↔ n = unit ∨
        ∀ l ∈ Text.lines r.code, Layout.widthOf n (leadingBlanks l.toList) < Layout.roomBound) ∧
      ∀ r', (g.withIndent n).generate types = .ok r' →
        (Text.lines r'.code).length = (Text.lines r.code).length ∧
        (List.Forall₂ (Reindented n) (Text.lines r.code) (Text.lines r'.code) ↔
          (g.describes → ∀ t ∈ types, ∀ b, t.strategy.binding? = some b → '\n' ∉ b.toList)) := by
  obtain ⟨code, hmodule, haligned⟩ := g.exists_module hg h ht
  have hgenerate := fun n r => g.generate_withIndent_eq_ok_iff n hmodule (r := r)
  refine ⟨_, (hgenerate unit _).2 ⟨.inl rfl, rfl⟩, fun n => ⟨?_, fun r' hr' => ?_⟩⟩
  · constructor
    · rintro ⟨r', hr'⟩
      exact ((hgenerate n _).1 hr').1
    · exact fun hroom => ⟨_, (hgenerate n _).2 ⟨hroom, rfl⟩⟩
  · obtain ⟨-, rfl⟩ := (hgenerate n _).1 hr'
    dsimp only
    rw [← haligned, ← Layout.reindented_format_iff n code, Layout.lines_format n, List.length_map]
    exact ⟨rfl, Iff.rfl⟩

/-! ### A parcel and a counter -/

/-- A parcel with a group of sizes, one of which has an adapter. -/
def parcel : Declaration where
  typeName := "Parcel"
  kind := "extension"
  typeKind := "struct"
  enums := [⟨"CodingKeys", ["String", "CodingKey"], [⟨"label", none, []⟩, ⟨"size", none, []⟩],
    [⟨"SizeCodingKeys", ["String", "CodingKey"],
      [⟨"width", none, [⟨"ValueTransform", some "Meters.self"⟩]⟩], []⟩]⟩]
  options := []

/-- The sizes of a parcel. -/
def sizeKeys : Schema :=
  ⟨"SizeCodingKeys", [.leaf ⟨"width", "width", false, some "Meters", none, none⟩]⟩

/-- The schema of a parcel. -/
def parcelKeys : Schema :=
  ⟨"CodingKeys", [.leaf ⟨"label", "label", false, none, none, none⟩,
    .group ⟨"size", "size", false, none, none, none⟩ sizeKeys.name sizeKeys.fields]⟩

/-- The type of a parcel. -/
def parcelType : CodableType := ⟨"Parcel", .keyed parcelKeys, .internal, [.encode, .decode], []⟩

/-- A counter that is written as one of its properties. -/
def counterAs (property : String) : Declaration where
  typeName := "Counter"
  kind := "extension"
  typeKind := "struct"
  enums := []
  options := [("container", .obj [("single_value", .str property)])]

/-- The type of such a counter. -/
def counterType (property : String) : CodableType :=
  ⟨"Counter", .singleValue property, .internal, [.encode, .decode], []⟩

/-- A generator that describes the functions it writes. -/
def describing : Generator := python {} { PythonSettings.ofEntries [] with docstrings := true }

theorem oneLine_moduleNames_describing : ∀ name ∈ describing.moduleNames, OneLine name := by
  intro name hname
  cases List.mem_singleton.1 hname
  exact Text.avoids_ofList rfl

theorem oneLine_of_mentions_counter (property : String) :
    ∀ name, (counterType property).Mentions name → OneLine name := by
  intro name hname
  cases hname with
  | typeName => exact Text.avoids_ofList rfl
  | enumeration hs | case hs | adapter hs => cases hs

theorem level_parcelKeys {l : Schema} (h : parcelKeys.Level l) : l = parcelKeys ∨ l = sizeKeys := by
  induction h with
  | top => exact .inl rfl
  | group _ hg ih =>
    rcases ih with rfl | rfl
    · cases List.mem_singleton.1 hg
      exact .inr rfl
    · cases hg

theorem oneLine_of_mentions_parcel : ∀ name, parcelType.Mentions name → OneLine name := by
  intro name hname
  cases hname with
  | typeName => exact Text.avoids_ofList rfl
  | enumeration hs hl =>
    cases hs
    rcases level_parcelKeys hl with rfl | rfl <;> exact Text.avoids_ofList rfl
  | case hs hl hf =>
    cases hs
    rcases level_parcelKeys hl with rfl | rfl
    · rcases List.mem_pair.1 hf with rfl | rfl <;> exact Text.avoids_ofList rfl
    · cases List.mem_singleton.1 hf
      exact Text.avoids_ofList rfl
  | @adapter s l f d a hs hl hf ha =>
    cases hs
    rcases level_parcelKeys hl with rfl | rfl
    · rcases List.mem_pair.1 hf with rfl | rfl <;> cases d <;> cases ha
    · cases List.mem_singleton.1 hf
      cases d <;> cases ha <;> exact Text.avoids_ofList rfl

theorem isExtracted_parcel : parcelType.IsExtracted := ⟨parcel, [], {}, {}, by rfl⟩

/-- The code for a parcel and a counter of counts is laid out level by level at every width, that
    for a counter whose property has a line feed at none. -/
theorem reindented_iff_of_extracted_parcel :
    (∃ r, (describing.withIndent unit).generate [parcelType, counterType "count"] = .ok r ∧
      ∀ n r', (describing.withIndent n).generate [parcelType, counterType "count"] = .ok r' →
        List.Forall₂ (Reindented n) (Text.lines r.code) (Text.lines r'.code)) ∧
    ∃ r, (describing.withIndent unit).generate [counterType "count\n"] = .ok r ∧
      ∀ n r', (describing.withIndent n).generate [counterType "count\n"] = .ok r' →
        (Text.lines r'.code).length = (Text.lines r.code).length ∧
          ¬ List.Forall₂ (Reindented n) (Text.lines r.code) (Text.lines r'.code) := by
  have hcount : (counterType "count").IsExtracted := ⟨counterAs "count", [], {}, {}, by rfl⟩
  have hcount' : (counterType "count\n").IsExtracted := ⟨counterAs "count\n", [], {}, {}, by rfl⟩
  constructor
  · have hextracted : ∀ t ∈ [parcelType, counterType "count"], t.IsExtracted := by
      simpa using ⟨isExtracted_parcel, hcount⟩
    have hnames : ∀ t ∈ [parcelType, counterType "count"], ∀ name, t.Mentions name →
        OneLine name := by
      simpa using ⟨oneLine_of_mentions_parcel, oneLine_of_mentions_counter "count"⟩
    obtain ⟨r, hr, hwidths⟩ := describing.reindented_iff_of_extracted
      oneLine_moduleNames_describing hextracted hnames
    refine ⟨r, hr, fun n r' hr' => ((hwidths n).2 r' hr').2.2 fun _ t ht b hb => ?_⟩
    rcases List.mem_pair.1 ht with rfl | rfl
    · cases hb
    · cases hb
      decide
  · have hextracted : ∀ t ∈ [counterType "count\n"], t.IsExtracted := by simpa using hcount'
    have hnames : ∀ t ∈ [counterType "count\n"], ∀ name, t.Mentions name → OneLine name := by
      simpa using oneLine_of_mentions_counter "count\n"
    obtain ⟨r, hr, hwidths⟩ := describing.reindented_iff_of_extracted
      oneLine_moduleNames_describing hextracted hnames
    refine ⟨r, hr, fun n r' hr' => ⟨((hwidths n).2 r' hr').1, fun hlines => ?_⟩⟩
    have hfree := ((hwidths n).2 r' hr').2.1 hlines rfl _ List.mem_cons_self "count\n" rfl
    exact hfree (by decide)

/-- The structure is not kept for all types and settings whose other names are on one line. -/
theorem exists_misaligned_line : ¬ ∀ (g : Generator) (types : List CodableType),
    (∀ name ∈ g.moduleNames, OneLine name) → (∀ t ∈ types, t.IsExtracted) →
    (∀ t ∈ types, ∀ name, t.Mentions name → OneLine name) → ∀ n : Nat, 1 ≤ n → ∀ r r',
      (g.withIndent unit).generate types = .ok r → (g.withIndent n).generate types = .ok r' →
        List.Forall₂ (Reindented n) (Text.lines r.code) (Text.lines r'.code) := by
  intro h
  have hextracted : ∀ t ∈ [counterType "count\n"], t.IsExtracted := by
    intro t ht
    cases List.mem_singleton.1 ht
    exact ⟨counterAs "count\n", [], {}, {}, by rfl⟩
  have hnames : ∀ t ∈ [counterType "count\n"], ∀ name, t.Mentions name → OneLine name := by
    simpa using oneLine_of_mentions_counter "count\n"
  obtain ⟨code, hmodule, haligned⟩ :=
    describing.exists_module oneLine_moduleNames_describing hextracted hnames
  have hgenerate := (describing.generate_withIndent_eq_ok_iff unit hmodule).2 ⟨.inl rfl, rfl⟩
  have hlines := h describing _ oneLine_moduleNames_describing hextracted hnames unit (by decide)
    _ _ hgenerate hgenerate
  have hfree := haligned.1 ((Layout.reindented_format_iff unit code).1 hlines) rfl _
    List.mem_cons_self "count\n" rfl
  exact hfree (by decide)

end Generator

end CodecForge
