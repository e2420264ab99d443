/-
  CodecForge — a Python module is closed.

  The imports of a module, its exports and its registrations are computed beside the text
  of its functions, from the plans.  `Closed` says that they fit the text:

  * the text defines a function for each direction of each type; the public ones are
    exported, and only defined ones are registered;
  * what is imported from the runtime is what a function or a registration writes;
  * what is imported from the module of the types is what the functions write of them.

  `closed_moduleOf` shows this for types with their plans, and `exists_closed_module` for
  every list of extracted types, which always have plans.
-/
import CodecForge.Proofs.Extraction.Planned
import CodecForge.Proofs.Target.PythonFunction

namespace CodecForge

namespace Python

/-- The lines of the functions of types, as they stand in the blocks of a module. -/
def functionSource (own : PythonSettings) (types : List (CodableType × List CodecPlan)) : Source :=
  types.flatMap fun t => t.2.flatMap (planSource own)

/-- The lines in which a module registers functions. -/
def registrationSource (m : PythonModule) : Source :=
  m.registrations.map PythonModule.registrationLine

/-- A module that fits the functions of its types. -/
structure Closed (own : PythonSettings) (types : List (CodableType × List CodecPlan))
    (m : PythonModule) : Prop where
  blocks : m.blocks = types.map fun t => blockOf own t.2
  /-- the functions of a type, one for each of its directions, are defined -/
  functions : ∀ t ∈ types, ∀ f, f ∈ Source.defined (t.2.flatMap (planSource own)) ↔
    ∃ d ∈ t.1.directions, f = functionName t.1.typeName d t.1.isPublic
  /-- the runtime names that are written, and no others, are imported -/
  runtimeImports : ∀ x, x ∈ m.runtimeImports ↔
    ∃ n ∈ (functionSource own types ++ registrationSource m).runtimeNames, n.label = x
  /-- the functions of public types, and no others, are exported -/
  exports : ∀ f, f ∈ m.exports ↔
    ∃ t ∈ types, t.1.isPublic ∧ f ∈ Source.defined (t.2.flatMap (planSource own))
  exported : ∀ f ∈ m.exports, f ∈ (functionSource own types).defined
  registered : ∀ f ∈ (registrationSource m).functions, f ∈ (functionSource own types).defined
  /-- the types, and the types that their steps write, are imported by their first parts -/
  typeImports : own.typeModule.isSome → ∀ x, x ∈ m.typeImports ↔
    ∃ t ∈ types, x = topLevelName t.1.typeName ∨
      ∃ p ∈ t.2, ∃ a ∈ (stepSource own p).types, x = topLevelName a
  /-- every type that is written is imported by its first part -/
  imported : own.typeModule.isSome →
    ∀ a ∈ (functionSource own types ++ registrationSource m).types, topLevelName a ∈ m.typeImports

/-! ## Functions -/

variable {own : PythonSettings} {types : List (CodableType × List CodecPlan)}

theorem defined_plans (own : PythonSettings) (ps : List CodecPlan) :
    Source.defined (ps.flatMap (planSource own)) = ps.map planFunction := by
  rw [Source.defined_flatMap, List.map_eq_flatMap]
  exact List.flatMap_congr fun p _ => defined_planSource own p

/-- The plans of a type define the functions of the type. -/
theorem mem_defined_plans {t : CodableType} {ps : List CodecPlan} (h : t.HasPlans ps)
    {f : String} : f ∈ Source.defined (ps.flatMap (planSource own)) ↔
      ∃ d ∈ t.directions, f = functionName t.typeName d t.isPublic := by
  have hfunction : ∀ p ∈ ps, planFunction p = functionName t.typeName p.direction t.isPublic := by
    intro p hp
    rw [planFunction, (h.isOf p hp).typeName, (h.isOf p hp).isPublic]
  rw [defined_plans, List.mem_map]
  constructor
  · rintro ⟨p, hp, rfl⟩
    exact ⟨p.direction, h.mem_directions.2 ⟨p, hp, rfl⟩, hfunction p hp⟩
  · rintro ⟨d, hd, rfl⟩
    obtain ⟨p, hp, rfl⟩ := h.mem_directions.1 hd
    exact ⟨p, hp, hfunction p hp⟩

theorem mem_defined_functionSource {f : String} :
    f ∈ (functionSource own types).defined ↔ ∃ t ∈ types, ∃ p ∈ t.2, planFunction p = f := by
  rw [functionSource, Source.defined_flatMap, List.mem_flatMap]
  simp [defined_plans]

theorem mem_names_functionSource {n : Token} : n ∈ (functionSource own types).names ↔
    ∃ t ∈ types, ∃ p ∈ t.2, n ∈ (planSource own p).names := by
  simp [functionSource]

theorem mem_runtimeNames_functionSource {n : RuntimeName} :
    n ∈ (functionSource own types).runtimeNames ↔
      ∃ t ∈ types, ∃ p ∈ t.2, n ∈ runtimeNamesOf own p := by
  simp only [Source.mem_runtimeNames, mem_names_functionSource, ← runtimeNames_planSource]

theorem mem_types_functionSource {a : String} (h : a ∈ (functionSource own types).types) :
    ∃ t ∈ types, ∃ p ∈ t.2, a = p.typeName ∨ ∃ st ∈ p.steps, st.transform = some a := by
  rw [Source.mem_types, mem_names_functionSource] at h
  obtain ⟨t, ht, p, hp, h⟩ := h
  exact ⟨t, ht, p, hp, mem_types_planSource (Source.mem_types.2 h)⟩

/-! ## Registrations -/

theorem names_registrationLine (r : PythonRegistration) :
    (PythonModule.registrationLine r).names = .runtime .registerCodec :: .type r.typeName ::
      (r.encode.toList ++ r.decode.toList).map .function := by
  obtain ⟨typeName, encode, decode⟩ := r
  cases encode <;> cases decode <;> rfl

theorem mem_runtimeNames_registrationSource {m : PythonModule} {n : RuntimeName} :
    n ∈ (registrationSource m).runtimeNames ↔ m.registrations ≠ [] ∧ n = .registerCodec := by
  rw [Source.mem_runtimeNames, registrationSource, Source.names_map]
  cases m.registrations <;> simp [names_registrationLine]

theorem mem_types_registrationSource {m : PythonModule} {a : String} :
    a ∈ (registrationSource m).types ↔ ∃ r ∈ m.registrations, a = r.typeName := by
  rw [Source.mem_types, registrationSource, Source.names_map]
  simp [names_registrationLine]

theorem mem_functions_registrationSource {m : PythonModule} {f : String} :
    f ∈ (registrationSource m).functions ↔
      ∃ r ∈ m.registrations, f ∈ r.encode.toList ++ r.decode.toList := by
  rw [Source.mem_functions, registrationSource, Source.names_map]
  simp [names_registrationLine]

/-- The registrations of a module for types. -/
def registrationsOf (own : PythonSettings) (types : List (CodableType × List CodecPlan)) :
    List PythonRegistration :=
  if own.registerCodecs then
    (types.filter fun t => !t.2.isEmpty).map fun t => registrationOf t.1.typeName t.2
  else []

theorem exists_of_mem_registrationsOf {r : PythonRegistration} (h : r ∈ registrationsOf own types) :
    ∃ t ∈ types, r = registrationOf t.1.typeName t.2 := by
  unfold registrationsOf at h
  split at h
  · obtain ⟨t, ht, rfl⟩ := List.mem_map.1 h
    exact ⟨t, List.mem_of_mem_filter ht, rfl⟩
  · simp at h

/-- What is registered for a type are functions of its plans. -/
theorem exists_plan_of_mem_registrationOf {typeName f : String} {ps : List CodecPlan}
    (h : f ∈ (registrationOf typeName ps).encode.toList ++
      (registrationOf typeName ps).decode.toList) : ∃ p ∈ ps, planFunction p = f := by
  rcases List.mem_append.1 h with h | h <;>
  · obtain ⟨p, hp, rfl⟩ := Option.map_eq_some_iff.1 (Option.mem_toList.1 h)
    exact ⟨p, List.mem_of_find?_eq_some hp, rfl⟩

/-! ## Modules -/

theorem mem_sortedNames {names : List String} {x : String} : x ∈ sortedNames names ↔ x ∈ names := by
  simp [sortedNames]

variable (s : Settings)

/-- The runtime names of the plans of types and of their registrations. -/
def usedNames (own : PythonSettings) (types : List (CodableType × List CodecPlan)) :
    List RuntimeName :=
  (types.flatMap (·.2)).flatMap (runtimeNamesOf own) ++
    if (registrationsOf own types).isEmpty then [] else [.registerCodec]

/-- The runtime names that a module imports are those of its functions, and the one that
    its registrations call. -/
theorem mem_runtimeImports {x : String} : x ∈ (moduleOf s own types).runtimeImports ↔
    ∃ n : RuntimeName, ((∃ t ∈ types, ∃ p ∈ t.2, n ∈ runtimeNamesOf own p) ∨
      registrationsOf own types ≠ [] ∧ n = .registerCodec) ∧ n.label = x := by
  have hall : ∀ n : RuntimeName, n ∈ RuntimeName.all := by
    intro n
    cases n <;> decide
  have himports : (moduleOf s own types).runtimeImports =
      (RuntimeName.all.filter (usedNames own types).contains).map (·.label) := rfl
  rw [himports, List.mem_map]
  refine exists_congr fun n => and_congr_left fun _ => ?_
  rw [List.mem_filter, List.contains_iff_mem, usedNames, List.flatMap_assoc]
  cases registrationsOf own types <;> simp [hall]

/-- The types that a module imports are those of its plans and their adapters. -/
theorem mem_typeImports {x : String} : x ∈ (moduleOf s own types).typeImports ↔
    own.typeModule.isSome ∧ ∃ t ∈ types, x = topLevelName t.1.typeName ∨
      ∃ p ∈ t.2, x = topLevelName p.typeName ∨
        ∃ a, (∃ st ∈ p.steps, st.transform = some a) ∧ topLevelName a = x := by
  cases hm : own.typeModule with
  | none => simp [moduleOf, hm]
  | some m =>
    simp [moduleOf, hm, mem_sortedNames, typeNamesOf, mem_transforms]

theorem mem_exports {f : String} : f ∈ (moduleOf s own types).exports ↔
    ∃ t ∈ types, t.1.isPublic ∧ ∃ p ∈ t.2, planFunction p = f := by
  simp [moduleOf, and_assoc]

/-- **The module of types with their plans is closed.** -/
theorem closed_moduleOf (h : ∀ t ∈ types, t.1.HasPlans t.2) :
    Closed own types (moduleOf s own types) where
  blocks := rfl
  functions t ht _ := mem_defined_plans (h t ht)
  runtimeImports x := by
    rw [mem_runtimeImports]
    refine exists_congr fun n => and_congr_left fun _ => ?_
    rw [Source.mem_runtimeNames, Source.names_append, List.mem_append, ← Source.mem_runtimeNames,
      ← Source.mem_runtimeNames, mem_runtimeNames_functionSource,
      mem_runtimeNames_registrationSource]
    rfl
  exports f := by
    rw [mem_exports]
    simp only [defined_plans, List.mem_map]
  exported f hf := by
    obtain ⟨t, ht, -, hp⟩ := (mem_exports s).1 hf
    exact mem_defined_functionSource.2 ⟨t, ht, hp⟩
  registered f hf := by
    obtain ⟨r, hr, hf⟩ := mem_functions_registrationSource.1 hf
    obtain ⟨t, ht, rfl⟩ := exists_of_mem_registrationsOf hr
    exact mem_defined_functionSource.2 ⟨t, ht, exists_plan_of_mem_registrationOf hf⟩
  typeImports hmodule x := by
    rw [mem_typeImports]
    constructor
    · rintro ⟨-, t, ht, rfl | ⟨p, hp, rfl | ⟨a, ha, rfl⟩⟩⟩
      · exact ⟨t, ht, .inl rfl⟩
      · exact ⟨t, ht, .inl (by rw [((h t ht).isOf p hp).typeName])⟩
      · exact ⟨t, ht, .inr ⟨p, hp, a, (mem_types_stepSource own p).2 (.inl ha), rfl⟩⟩
    · rintro ⟨t, ht, rfl | ⟨p, hp, a, ha, rfl⟩⟩
      · exact ⟨hmodule, t, ht, .inl rfl⟩
      · rcases (mem_types_stepSource own p).1 ha with ha | ⟨-, rfl, -⟩
        · exact ⟨hmodule, t, ht, .inr ⟨p, hp, .inr ⟨a, ha, rfl⟩⟩⟩
        · -- a step without an adapter writes the type itself, to look up its attribute
          exact ⟨hmodule, t, ht, .inr ⟨p, hp, .inl rfl⟩⟩
  imported hmodule a ha := by
    rw [mem_typeImports]
    rw [Source.mem_types, Source.names_append, List.mem_append, ← Source.mem_types,
      ← Source.mem_types] at ha
    rcases ha with ha | ha
    · obtain ⟨t, ht, p, hp, rfl | ha⟩ := mem_types_functionSource ha
      · exact ⟨hmodule, t, ht, .inr ⟨p, hp, .inl rfl⟩⟩
      · exact ⟨hmodule, t, ht, .inr ⟨p, hp, .inr ⟨a, ha, rfl⟩⟩⟩
    · obtain ⟨r, hr, rfl⟩ := mem_types_registrationSource.1 ha
      obtain ⟨t, ht, rfl⟩ := exists_of_mem_registrationsOf hr
      exact ⟨hmodule, t, ht, .inl rfl⟩

/-- **Every list of extracted types has a module, and it is closed.** -/
theorem exists_closed_module (s : Settings) (own : PythonSettings) {types : List CodableType}
    (h : ∀ t ∈ types, t.IsExtracted) :
    ∃ planned, (Generator.python s own).withPlans types = .ok planned ∧
      planned.map (·.1) = types ∧
      (Generator.python s own).module types = .ok (moduleOf s own planned).source.text ∧
      Closed own planned (moduleOf s own planned) := by
  obtain ⟨planned, hplanned, htypes, hplans⟩ := (Generator.python s own).exists_withPlans h
  refine ⟨planned, hplanned, htypes, ?_, closed_moduleOf s hplans⟩
  rw [Generator.module, hplanned]
  rfl

/-! ## A garage -/

/-- A color, written as its tag by public functions. -/
def color : Declaration where
  typeName := "Color"
  kind := "extension"
  typeKind := "enum"
  enums := [⟨"CodingKeys", ["String", "CodingKey"],
    [⟨"red", some "r", []⟩, ⟨"green", none, []⟩], []⟩]
  options := [("container", .str "single_value_for_enum"), ("access_control", .str "public")]

/-- A car with a price that may be missing and has an adapter. -/
def car : Declaration where
  typeName := "Garage.Car"
  kind := "extension"
  typeKind := "struct"
  enums := [⟨"CodingKeys", ["String", "CodingKey"],
    [⟨"plate", none, []⟩,
      ⟨"price", none, [⟨"Conditional", none⟩, ⟨"ValueTransform", some "Shop.Money.self"⟩]⟩], []⟩]
  options := []

/-- The types of `color` and `car`. -/
def garageTypes : List CodableType :=
  [⟨"Color", .singleValueForEnum ⟨"CodingKeys", [.leaf ⟨"r", "red", false, none, none, none⟩,
      .leaf ⟨"green", "green", false, none, none, none⟩]⟩, .public_, [.encode, .decode], []⟩,
    ⟨"Garage.Car", .keyed ⟨"CodingKeys", [.leaf ⟨"plate", "plate", false, none, none, none⟩,
      .leaf ⟨"price", "price", true, some "Shop.Money", none, none⟩]⟩, .internal,
      [.encode, .decode], []⟩]

theorem exists_closed_module_garage :
    (∀ t ∈ garageTypes, t.IsExtracted) ∧
      ∃ planned, (Generator.python {} (.standalone (.str "garage"))).withPlans garageTypes =
          .ok planned ∧
        Closed (.standalone (.str "garage")) planned
          (moduleOf {} (.standalone (.str "garage")) planned) := by
  have h : ∀ t ∈ garageTypes, t.IsExtracted := by
    intro t ht
    simp only [garageTypes, List.mem_cons, List.not_mem_nil, or_false] at ht
    rcases ht with rfl | rfl
    · exact ⟨color, [], {}, {}, by rfl⟩
    · exact ⟨car, [], {}, {}, by rfl⟩
  obtain ⟨planned, hplanned, -, -, hclosed⟩ :=
    exists_closed_module {} (.standalone (.str "garage")) h
  exact ⟨h, planned, hplanned, hclosed⟩

end Python

end CodecForge
