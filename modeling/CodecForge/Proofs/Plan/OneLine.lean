/-
  CodecForge — the names in plans, if the names of a type are on one line each.

  * `CodableType.Mentions` are the names that the text of a type is made of, besides the
    property of a single value: those of the type, of its enumerations, of their cases and of
    adapters;
  * `CodecPlan.OneLine`: no name in a plan has a line break, and the names of variables and of
    leaves are words; a single value keeps to what passes for an identifier;
  * `oneLine_of_plan`: the plans of an accepted type are so if the names it mentions are.
-/
import CodecForge.Proofs.Layout.Aligned

namespace CodecForge

open Extraction
open Text (IsWord OneLine)

/-! ## Names -/

/-- The names that the text of a type is made of, besides the property of a single value. -/
inductive CodableType.Mentions (t : CodableType) : String → Prop
  | typeName : Mentions t t.typeName
  | enumeration {s l : Schema} (hs : t.schema? = some s) (hl : s.Level l) : Mentions t l.name
  | case {s l : Schema} {f : Field} (hs : t.schema? = some s) (hl : s.Level l)
      (hf : f ∈ l.fields) : Mentions t f.info.localName
  | adapter {s l : Schema} {f : Field} {d : Direction} {a : String} (hs : t.schema? = some s)
      (hl : s.Level l) (hf : f ∈ l.fields) (ha : f.info.transformFor d = some a) : Mentions t a

/-! ## Plans -/

/-- A container whose names are on one line, opened in a variable that is a word. -/
structure Container.OneLine (c : Container) : Prop where
  variable_ : IsWord c.variable_
  keysName : Text.OneLine c.keysName
  parent : Text.OneLine (c.parent.getD "")
  localName : Text.OneLine (c.localName.getD "")

/-- A step of a leaf that is called by a word, in such a container. -/
structure FieldStep.OneLine (st : FieldStep) : Prop where
  container : IsWord st.container.variable_
  localName : IsWord st.field.localName
  transform : ∀ a, st.transform = some a → Text.OneLine a

/-- A plan of which all names are on one line, but perhaps for a single value. -/
structure CodecPlan.OneLine (p : CodecPlan) : Prop where
  typeName : Text.OneLine p.typeName
  keysName : ∀ name, p.keysName? = some name → Text.OneLine name
  nested : ∀ c ∈ p.nested, c.OneLine
  steps : ∀ st ∈ p.steps, st.OneLine
  cases : ∀ c ∈ p.cases, IsWord c.localName
  binding : ∀ b, p.binding? = some b → Text.isAsciiIdentifier b

theorem exists_binding_of_kind {p : CodecPlan} (hk : p.kind = .singleValue) :
    ∃ b, p.binding? = some b := by
  obtain ⟨typeName, d, isPublic, body⟩ := p
  cases body with
  | singleValue b => exact ⟨b, rfl⟩
  | keyed | singleValueForEnum => cases hk

/-! ## Plans of accepted types -/

variable {d : Declaration} {overrides : List (String × Json)} {t : CodableType} {n n' : Notices}
  (h : run d overrides n = .ok t n') (ht : ∀ name, t.Mentions name → OneLine name)
include h ht

theorem isWord_localName {s l : Schema} {f : Field} (hs : t.schema? = some s) (hl : s.Level l)
    (hf : f ∈ l.fields) : IsWord f.info.localName := by
  have hid := isAsciiIdentifier_of_names h (.field hs hl hf)
  have hfeed := Text.noFeed_iff.1 (ht _ (.case hs hl hf)).noFeed
  exact Text.isWord_of_isPlainName ((Text.isPlainName_iff_of_isAsciiIdentifier hid).2 hfeed)

section
variable {s : Schema} (hs : t.shape = .keyed s)
include hs

theorem isWord_variable {style : VariableStyle} {c : Container} (hc : c ∈ s.containers style) :
    IsWord c.variable_ := by
  have hschema : t.schema? = some s := by rw [CodableType.schema?, hs]; rfl
  refine isWord_of_mem_containers (fun g hg => ?_) hc
  exact isWord_localName h ht hschema .top (mem_groups.1 hg)

theorem oneLine_groupContainers {style : VariableStyle} {c : Container}
    (hc : c ∈ groupContainers style s s.takenNames s.groups) : c.OneLine := by
  have hschema : t.schema? = some s := by rw [CodableType.schema?, hs]; rfl
  obtain ⟨⟨i, g⟩, hg, hopen⟩ := isOpenedFor_of_mem hc
  have hname := isWord_localName h ht hschema .top (mem_groups.1 hg)
  refine ⟨isWord_variable h ht hs (List.mem_cons_of_mem _ hc), ?_, ?_, ?_⟩
  · rw [hopen.keysName]
    exact ((ht _ (.enumeration hschema .top)).append (Text.avoids_ofList rfl)).append
      (ht _ (.enumeration hschema (.group .top hg)))
  · rw [hopen.parent]
    exact Text.avoids_ofList rfl
  · rw [hopen.localName]
    exact hname.oneLine

theorem oneLine_of_isFor {style : VariableStyle} {dir : Direction} {st : FieldStep}
    {q : FieldInfo × Option FieldInfo} (hq : q ∈ s.flattened) (hst : st.IsFor s dir style q) :
    st.OneLine := by
  have hschema : t.schema? = some s := by rw [CodableType.schema?, hs]; rfl
  have hregular := regular_of_run h hs
  obtain ⟨l, hl, hf⟩ : ∃ l, s.Level l ∧ Field.leaf q.1 ∈ l.fields := by
    obtain ⟨f, _ | i⟩ := q
    · exact ⟨s, .top, hregular.mem_flattened_none.1 hq⟩
    · obtain ⟨name, members, hg, hf⟩ := hregular.mem_flattened_some.1 hq
      exact ⟨⟨name, members⟩, .group .top (mem_groups (g := ⟨name, members⟩).2 hg), hf⟩
  refine ⟨?_, ?_, fun a ha => ?_⟩
  · have hcontainer : st.container ∈ s.containers style := by
      have hfind := hst.container
      unfold Schema.containerFor at hfind
      split at hfind
      · rw [← Option.some.inj hfind]
        exact List.mem_cons_self
      · exact List.mem_reverse.1 (List.mem_of_find?_eq_some hfind)
    exact isWord_variable h ht hs hcontainer
  · rw [hst.field]
    exact isWord_localName h ht hschema hl hf
  · rw [hst.transform] at ha
    exact ht a (.adapter hschema hl hf ha)

end

/-- **The plans of an accepted type are on one line if the names it mentions are.** -/
theorem oneLine_of_plan {dir : Direction} {style : VariableStyle} {p : CodecPlan}
    (hp : t.plan dir style = .ok p) : p.OneLine := by
  cases hs : t.shape with
  | keyed s =>
    have hschema : t.schema? = some s := by rw [CodableType.schema?, hs]; rfl
    obtain ⟨steps, hplan, hsteps⟩ := plan_of_regular hs (regular_of_run h hs) dir style
    cases hplan.symm.trans hp
    refine ⟨ht _ .typeName, fun name hname => ?_, fun c => oneLine_groupContainers h ht hs,
      fun st hst => ?_, List.forall_mem_nil _, fun _ hb => by cases hb⟩
    · cases hname
      exact ht _ (.enumeration hschema .top)
    · obtain ⟨q, hq, hfor⟩ := exists_of_mem_right hsteps st hst
      exact oneLine_of_isFor h ht hs hq hfor
  | singleValue b =>
    rw [CodableType.plan, hs] at hp
    cases hp
    refine ⟨ht _ .typeName, fun _ hname => (by cases hname), List.forall_mem_nil _,
      List.forall_mem_nil _, List.forall_mem_nil _, fun b' hb => ?_⟩
    cases hb
    exact isAsciiIdentifier_of_names h (.binding (by rw [CodableType.strategy, hs]; rfl))
  | singleValueForEnum s =>
    have hschema : t.schema? = some s := by rw [CodableType.schema?, hs]; rfl
    rw [CodableType.plan, hs] at hp
    cases hp
    refine ⟨ht _ .typeName, fun name hname => ?_, List.forall_mem_nil _, List.forall_mem_nil _,
      fun i hi => ?_, fun _ hb => by cases hb⟩
    · cases hname
      exact ht _ (.enumeration hschema .top)
    · obtain ⟨f, hf, rfl⟩ := List.mem_map.1 hi
      exact isWord_localName h ht hschema .top hf

end CodecForge
