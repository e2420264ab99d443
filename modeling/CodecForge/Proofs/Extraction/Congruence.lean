/-
  CodecForge — declarations that are read alike.

  An extraction looks at parts of a declaration only.  Where declarations agree in these, they
  are extracted alike, up to what an error quotes: `view` is what is looked at of an error.

  * `Case.ReadAlike` says that cases agree in all that is read of them, with attributes that
    may be spelled differently if no `view` of an error shows it; `Enumeration.ReadAlike` says
    so of enumerations;
  * `Enumeration.ReadAlike.schema_eq`, `ignored_eq` and `levelFault?_eq`: coding keys that are
    read alike have one schema, and faults of one view;
  * `Declaration.Alike` says so of what declarations stand for under a strategy, and
    `mapError_extracted_congr` that such declarations are extracted alike.
-/
import CodecForge.Proofs.Extraction.Outcome

namespace CodecForge

open Extraction

variable (view : SchemaError → SchemaError)

/-! ## What is read -/

/-- Attributes that say the same; how they are spelled shows in no view of an error. -/
structure Attribute.ReadAlike (a a' : Attribute) : Prop where
  argument : a'.argument = a.argument
  groupWithoutName (place name : String) :
    view (.groupWithoutName place name a'.name) = view (.groupWithoutName place name a.name)
  markerWithoutType (place name : String) :
    view (.markerWithoutType place name a'.name) = view (.markerWithoutType place name a.name)

/-- Cases of one name and raw value, of which the same is read under each known marker. -/
structure Case.ReadAlike (c c' : Case) : Prop where
  name : c'.name = c.name
  rawValue : c'.rawValue = c.rawValue
  attribute? : ∀ m ∈ knownMarkers,
    Option.Rel (Attribute.ReadAlike view) (c.attribute? m) (c'.attribute? m)

/-- Enumerations whose cases are read alike, as those of the enumerations nested in them. -/
inductive Enumeration.ReadAlike : Enumeration → Enumeration → Prop
  | mk {name : String} {inherits : List String} {cases cases' : List Case}
      {enums enums' : List Enumeration} (hcases : List.Forall₂ (Case.ReadAlike view) cases cases')
      (henums : List.Forall₂ ReadAlike enums enums') :
      ReadAlike ⟨name, inherits, cases, enums⟩ ⟨name, inherits, cases', enums'⟩

/-- Declarations with the same name, kind and options. -/
structure Declaration.SameHead (d d' : Declaration) : Prop where
  typeName : d'.typeName = d.typeName
  kind : d'.kind = d.kind
  options : d'.options = d.options

variable {view}

theorem Attribute.ReadAlike.adapter_eq {a a' : Attribute} (h : a.ReadAlike view a') :
    a'.adapter = a.adapter := by
  rw [adapter, h.argument, adapter]

/-! ### An attribute, a case and an enumeration are read as themselves -/

theorem Attribute.rel_refl (a : Option Attribute) :
    Option.Rel (Attribute.ReadAlike view) a a := by
  cases a with
  | none => exact .none
  | some a => exact .some ⟨rfl, fun _ _ => rfl, fun _ _ => rfl⟩

theorem Case.ReadAlike.refl (c : Case) : c.ReadAlike view c :=
  ⟨rfl, rfl, fun m _ => Attribute.rel_refl (c.attribute? m)⟩

theorem Enumeration.ReadAlike.refl : ∀ e : Enumeration, e.ReadAlike view e
  | ⟨_, _, cases, enums⟩ =>
    .mk ((List.forall₂_same).2 fun c (_ : c ∈ cases) => Case.ReadAlike.refl c)
      ((List.forall₂_same).2 fun e (_ : e ∈ enums) => Enumeration.ReadAlike.refl e)

/-! ## Cases -/

namespace Case.ReadAlike

variable {c c' : Case} (h : c.ReadAlike view c') (place : String) {m : String}
include h

theorem hasAttribute_eq (hm : m ∈ knownMarkers) : c'.hasAttribute m = c.hasAttribute m := by
  have hattribute := h.attribute? m hm
  unfold hasAttribute
  generalize c.attribute? m = a, c'.attribute? m = a' at hattribute ⊢
  cases hattribute <;> rfl

theorem key_eq : c'.key = c.key := by
  rw [key, h.rawValue, h.name, key]

theorem plain_eq : c'.plain = c.plain := by
  rw [plain, h.key_eq, h.name, plain]

theorem adapter?_eq (hm : m ∈ knownMarkers) : c'.adapter? m = c.adapter? m := by
  have hattribute := h.attribute? m hm
  unfold adapter?
  generalize c.attribute? m = a, c'.attribute? m = a' at hattribute ⊢
  cases hattribute with
  | none => rfl
  | some ha => rw [Option.map_some, ha.adapter_eq, Option.map_some]

theorem leaf_eq : c'.leaf = c.leaf := by
  rw [leaf, h.key_eq, h.name, h.hasAttribute_eq (by decide), h.adapter?_eq (by decide),
    h.adapter?_eq (by decide), h.adapter?_eq (by decide), leaf]

theorem nameFault?_eq : nameFault? place c' = nameFault? place c := by
  rw [nameFault?, h.name, nameFault?]

theorem adapterFault?_eq (hm : m ∈ knownMarkers) :
    (adapterFault? place c' m).map view = (adapterFault? place c m).map view := by
  have hattribute := h.attribute? m hm
  unfold adapterFault?
  generalize c.attribute? m = a, c'.attribute? m = a' at hattribute ⊢
  cases hattribute with
  | none => rfl
  | some ha =>
    dsimp only
    rw [ha.adapter_eq, h.name]
    split
    · exact congrArg some (ha.markerWithoutType place c.name)
    · rfl

theorem leafFault?_eq : (leafFault? place c').map view = (leafFault? place c).map view := by
  simp only [leafFault?, Option.map_or]
  rw [h.adapterFault?_eq place (by decide), h.adapterFault?_eq place (by decide),
    h.adapterFault?_eq place (by decide)]

theorem memberFault?_eq : (memberFault? place c').map view = (memberFault? place c).map view := by
  simp only [memberFault?, Option.map_or]
  rw [h.nameFault?_eq, h.hasAttribute_eq (by decide), h.name]
  split
  · rfl
  · rw [h.leafFault?_eq]

theorem markedFault?_eq : markedFault? place c' = markedFault? place c := by
  have hfind : leafMarkers.find? (c'.hasAttribute ·) = leafMarkers.find? (c.hasAttribute ·) :=
    List.find?_congr fun m hm => h.hasAttribute_eq (List.mem_append_left _ hm)
  rw [markedFault?, hfind, h.name, markedFault?]

end Case.ReadAlike

/-! ## Enumerations -/

/-- An enumeration that is the same as a tag: attributes and what is nested in nested
    enumerations may differ. -/
structure Enumeration.SameTags (e e' : Enumeration) : Prop where
  name : e'.name = e.name
  cases : List.Forall₂ (fun c c' : Case => c'.name = c.name ∧ c'.rawValue = c.rawValue)
    e.cases e'.cases
  enums : e'.enums.map (·.name) = e.enums.map (·.name)

namespace Enumeration.SameTags

variable {e e' : Enumeration} (h : e.SameTags e') (typeName : String)
include h

theorem tags_eq : e'.tags = e.tags := by
  have hfields : (e'.cases.map fun c => Field.leaf c.plain) =
      e.cases.map fun c => Field.leaf c.plain :=
    map_eq_of_forall₂ h.cases fun c _ c' hc => by
      rw [Case.plain, Case.key, hc.1, hc.2, Case.plain, Case.key]
  rw [tags, h.name, hfields, tags]

theorem keys_eq : e'.cases.map (·.key) = e.cases.map (·.key) :=
  map_eq_of_forall₂ h.cases fun c _ c' hc => by rw [Case.key, hc.1, hc.2, Case.key]

theorem placeIn_eq : placeIn typeName e' = placeIn typeName e := by
  rw [placeIn, h.name, placeIn]

theorem tagsFault?_eq : tagsFault? typeName e' = tagsFault? typeName e := by
  have hnames : e'.cases.findSome? (nameFault? (placeIn typeName e)) =
      e.cases.findSome? (nameFault? (placeIn typeName e)) :=
    findSome?_eq_of_forall₂ h.cases fun c c' hc => by rw [nameFault?, hc.1, nameFault?]
  rw [tagsFault?, h.placeIn_eq, hnames, h.keys_eq, h.tags_eq, tagsFault?]

theorem below_eq : (e'.enums.map fun nested => s!"{e.name}.{nested.name}") =
    e.enums.map fun nested => s!"{e.name}.{nested.name}" := by
  have hmap := congrArg (List.map fun name => s!"{e.name}.{name}") h.enums
  rw [List.map_map, List.map_map] at hmap
  exact hmap

end Enumeration.SameTags

namespace Enumeration.ReadAlike

variable {e e' : Enumeration} (h : e.ReadAlike view e') (place typeName : String)
include h

theorem name_eq : e'.name = e.name := by
  cases h
  rfl

theorem isCodingKeys_eq : e'.isCodingKeys = e.isCodingKeys := by
  cases h
  rfl

theorem cases : List.Forall₂ (Case.ReadAlike view) e.cases e'.cases := by
  cases h
  assumption

theorem enums : List.Forall₂ (Enumeration.ReadAlike view) e.enums e'.enums := by
  cases h
  assumption

theorem sameTags : e.SameTags e' :=
  ⟨h.name_eq, h.cases.imp fun _ _ hc => ⟨hc.name, hc.rawValue⟩,
    map_eq_of_forall₂ h.enums fun _ _ _ hg => hg.name_eq⟩

theorem findGroup_rel (name : String) :
    Option.Rel (Enumeration.ReadAlike view) (e.findGroup name) (e'.findGroup name) :=
  rel_find? h.enums fun _ _ hg => by rw [hg.isCodingKeys_eq, hg.name_eq]

theorem unclaimed_eq (claimed : List String) : e'.unclaimed claimed = e.unclaimed claimed := by
  rw [Enumeration.unclaimed_eq, h.sameTags.enums, Enumeration.unclaimed_eq]

theorem members_eq : e'.members = e.members :=
  map_eq_of_forall₂ h.cases fun _ _ _ hc => by rw [hc.leaf_eq]

theorem groupFault?_eq : (groupFault? place e').map view = (groupFault? place e).map view := by
  have hmembers : e'.cases.findSome? (fun c => (memberFault? (placeIn place e) c).map view) =
      e.cases.findSome? fun c => (memberFault? (placeIn place e) c).map view :=
    findSome?_eq_of_forall₂ h.cases fun _ _ hc => hc.memberFault?_eq _
  simp only [groupFault?, Option.map_or, List.map_findSome?, h.sameTags.placeIn_eq,
    h.sameTags.keys_eq]
  exact congrArg (Option.or · _) hmembers

/-! ### A case of an enumeration -/

section
variable {c c' : Case} (hc : c.ReadAlike view c')
include hc

theorem claimed?_rel :
    Option.Rel (Enumeration.ReadAlike view) (e.claimed? c) (e'.claimed? c') := by
  have hattribute := hc.attribute? group (by decide)
  unfold Enumeration.claimed?
  rw [hc.name]
  generalize c.attribute? group = a, c'.attribute? group = a' at hattribute ⊢
  cases hattribute with
  | none => exact h.findGroup_rel _
  | some ha =>
    dsimp only
    rw [ha.argument]
    exact h.findGroup_rel _

theorem claimed_name_eq : (e'.claimed? c').map (·.name) = (e.claimed? c).map (·.name) := by
  have hclaimed := h.claimed?_rel hc
  generalize e.claimed? c = g, e'.claimed? c' = g' at hclaimed ⊢
  cases hclaimed with
  | none => rfl
  | some hg => rw [Option.map_some, hg.name_eq, Option.map_some]

theorem field_eq : e'.field c' = e.field c := by
  have hclaimed := h.claimed?_rel hc
  unfold Enumeration.field
  generalize e.claimed? c = g, e'.claimed? c' = g' at hclaimed ⊢
  cases hclaimed with
  | none => rw [hc.leaf_eq]
  | some hg => simp only [hc.plain_eq, hg.name_eq, hg.members_eq]

theorem ignoredBelow_eq : e'.ignoredBelow c' = e.ignoredBelow c := by
  have hclaimed := h.claimed?_rel hc
  unfold Enumeration.ignoredBelow
  generalize e.claimed? c = g, e'.claimed? c' = g' at hclaimed ⊢
  cases hclaimed with
  | none => rfl
  | some hg => simp only [hg.name_eq, hg.unclaimed_eq]

theorem claimFault?_eq :
    (claimFault? place e' c').map view = (claimFault? place e c).map view := by
  have hfound : ∀ name, (e'.findGroup name).isSome = (e.findGroup name).isSome := by
    intro name
    have hgroup := h.findGroup_rel name
    generalize e.findGroup name = g, e'.findGroup name = g' at hgroup ⊢
    cases hgroup <;> rfl
  have hattribute := hc.attribute? group (by decide)
  unfold claimFault?
  rw [hc.name]
  generalize c.attribute? group = a, c'.attribute? group = a' at hattribute ⊢
  cases hattribute with
  | none => rfl
  | some ha =>
    dsimp only
    rw [ha.argument, hfound]
    split
    · exact congrArg some (ha.groupWithoutName place c.name)
    · rfl

theorem caseFault?_eq : (caseFault? place e' c').map view = (caseFault? place e c).map view := by
  have hclaimed := h.claimed?_rel hc
  simp only [caseFault?, Option.map_or]
  rw [hc.nameFault?_eq, h.claimFault?_eq place hc]
  generalize e.claimed? c = g, e'.claimed? c' = g' at hclaimed ⊢
  cases hclaimed with
  | none => simp only [hc.leafFault?_eq]
  | some hg => simp only [Option.map_or, hc.markedFault?_eq, hg.groupFault?_eq]

end

/-! ### The coding keys -/

/-- **Coding keys that are read alike have the same schema.** -/
theorem schema_eq : e'.schema = e.schema := by
  have hfields : e'.cases.map e'.field = e.cases.map e.field :=
    map_eq_of_forall₂ h.cases fun _ _ _ hc => h.field_eq hc
  rw [schema, h.name_eq, hfields, schema]

theorem ignored_eq : e'.ignored = e.ignored := by
  have hbelow : e'.cases.flatMap e'.ignoredBelow = e.cases.flatMap e.ignoredBelow :=
    congrArg List.flatten (map_eq_of_forall₂ h.cases fun _ _ _ hc => h.ignoredBelow_eq hc)
  have hclaimed : (e'.cases.filterMap fun c => (e'.claimed? c).map (·.name)) =
      e.cases.filterMap fun c => (e.claimed? c).map (·.name) := by
    have hnames := congrArg (List.filterMap id)
      (map_eq_of_forall₂ h.cases fun _ _ _ hc => h.claimed_name_eq hc)
    rwa [List.filterMap_map, List.filterMap_map] at hnames
  rw [ignored, hbelow, hclaimed, h.unclaimed_eq, ignored]

/-- **Coding keys that are read alike have faults of one view.** -/
theorem levelFault?_eq :
    (levelFault? typeName e').map view = (levelFault? typeName e).map view := by
  have hcases : e'.cases.findSome? (fun c => (caseFault? (placeIn typeName e) e' c).map view) =
      e.cases.findSome? fun c => (caseFault? (placeIn typeName e) e c).map view :=
    findSome?_eq_of_forall₂ h.cases fun _ _ hc => h.caseFault?_eq _ hc
  simp only [levelFault?, Option.map_or, List.map_findSome?, h.sameTags.placeIn_eq,
    h.sameTags.keys_eq]
  exact congrArg (Option.or · _) hcases

end Enumeration.ReadAlike

/-! ## Declarations -/

/-- A declaration whose coding keys are the same as tags. -/
structure Declaration.SameTags (d d' : Declaration) : Prop extends Declaration.SameHead d d' where
  codingKeys : Option.Rel Enumeration.SameTags d.codingKeys? d'.codingKeys?

/-- A declaration whose enumerations are read alike. -/
structure Declaration.ReadAlike (view : SchemaError → SchemaError) (d d' : Declaration) : Prop
    extends Declaration.SameHead d d' where
  enums : List.Forall₂ (Enumeration.ReadAlike view) d.enums d'.enums

/-- Under a strategy two declarations have faults of one view, and stand for the same shape. -/
structure Declaration.Alike (view : SchemaError → SchemaError) (s : Strategy)
    (d d' : Declaration) : Prop where
  shapeFault?_eq : (d'.shapeFault? s).map view = (d.shapeFault? s).map view
  denotes : ∀ {shape ignored}, d.Denotes s shape ignored → d'.Denotes s shape ignored

namespace Declaration

variable {d d' : Declaration}

/-- Declarations whose enumerations are related have related coding keys. -/
theorem rel_codingKeys? {R : Enumeration → Enumeration → Prop}
    (h : List.Forall₂ R d.enums d'.enums)
    (hR : ∀ e e', R e e' → e'.isCodingKeys = e.isCodingKeys) :
    Option.Rel R d.codingKeys? d'.codingKeys? :=
  rel_find? h hR

theorem ReadAlike.rel_codingKeys? (h : d.ReadAlike view d') :
    Option.Rel (Enumeration.ReadAlike view) d.codingKeys? d'.codingKeys? :=
  Declaration.rel_codingKeys? h.enums fun _ _ he => he.isCodingKeys_eq

theorem ReadAlike.sameTags (h : d.ReadAlike view d') : d.SameTags d' :=
  ⟨h.toSameHead, rel_imp (fun _ _ he => he.sameTags) h.rel_codingKeys?⟩

/-- **Written as a tag, a declaration is read for its tags only.** -/
theorem SameTags.alike (h : d.SameTags d') : Alike view .singleValueForEnum d d' := by
  have hkeys := h.codingKeys
  constructor
  · unfold shapeFault?
    generalize d.codingKeys? = e, d'.codingKeys? = e' at hkeys ⊢
    cases hkeys with
    | none => rw [h.typeName]
    | some he => simp only [h.typeName, he.tagsFault?_eq]
  · intro shape ignored hd
    cases hd with
    | tags hsome =>
      rw [hsome] at hkeys
      generalize hsome' : d'.codingKeys? = e' at hkeys
      cases hkeys with
      | some he =>
        rw [← he.tags_eq, ← he.below_eq, ← he.name]
        exact .tags hsome'

/-- **Declarations that are read alike stand for the same shape.** -/
theorem ReadAlike.alike (h : d.ReadAlike view d') : ∀ s, Alike view s d d'
  | .singleValue binding => by
    refine ⟨rfl, fun hd => ?_⟩
    cases hd
    exact .singleValue binding
  | .singleValueForEnum => h.sameTags.alike
  | .keyed => by
    have hkeys := h.rel_codingKeys?
    constructor
    · unfold shapeFault?
      generalize d.codingKeys? = e, d'.codingKeys? = e' at hkeys ⊢
      cases hkeys with
      | none => rw [h.typeName]
      | some he => simp only [Option.map_or, h.typeName, he.levelFault?_eq, he.schema_eq]
    · intro shape ignored hd
      cases hd with
      | keyed hsome =>
        rw [hsome] at hkeys
        generalize hsome' : d'.codingKeys? = e' at hkeys
        cases hkeys with
        | some he =>
          rw [← he.schema_eq, ← he.ignored_eq]
          exact .keyed hsome'

end Declaration

namespace Extraction

variable {d d' : Declaration} {overrides : List (String × Json)}

/-- **Declarations that are alike under the strategy they ask for are extracted alike**: as one
    type, or with errors of one view. -/
theorem mapError_extracted_congr (h : d.SameHead d')
    (halike : ∀ options, CodingOptions.resolve d.options overrides = .ok options →
      Declaration.Alike view options.strategy d d') :
    (extracted d' overrides).mapError view = (extracted d overrides).mapError view := by
  have hextension : d'.isExtension = d.isExtension := by
    rw [Declaration.isExtension, h.kind, Declaration.isExtension]
  cases hd : d.isExtension with
  | false =>
    unfold extracted run
    rw [hextension, hd, h.typeName, h.kind]
    rfl
  | true =>
    cases ho : CodingOptions.resolve d.options overrides with
    | error e =>
      unfold extracted run
      rw [hextension, hd, h.options, ho]
      rfl
    | ok options =>
      have hd' : d'.isExtension := hextension.trans hd
      have ho' : CodingOptions.resolve d'.options overrides = .ok options := by rw [h.options, ho]
      have hfault := (halike options ho).shapeFault?_eq
      cases hf : d.shapeFault? options.strategy with
      | some fault =>
        rw [hf, Option.map_some, Option.map_eq_some_iff] at hfault
        obtain ⟨fault', hf', hview⟩ := hfault
        rw [extracted_eq_error hd' ho' hf', extracted_eq_error hd ho hf]
        exact congrArg Except.error hview
      | none =>
        rw [hf, Option.map_none, Option.map_eq_none_iff] at hfault
        obtain ⟨shape, ignored, hdenotes, hok⟩ := exists_extracted_eq_ok hd ho hf
        obtain ⟨shape', ignored', hdenotes', hok'⟩ := exists_extracted_eq_ok hd' ho' hfault
        obtain ⟨rfl, rfl⟩ := denotes_unique ((halike options ho).denotes hdenotes) hdenotes'
        rw [hok', hok, h.typeName]

end Extraction

end CodecForge
