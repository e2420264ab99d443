/-
  CodecForge — generators made under shared settings.

  A call that makes a generator under shared settings writes its entries for the settings of
  the language into them, where later calls find them.

  * `Target.readings` are the settings that a generator reads, and how; `exists_make_iff`:
    generators read the same if these settings do;
  * `createEach` makes one generator after another (`getElem?_createEach`), and `lastStated` is
    what the calls stated last for a setting;
  * `own_createEach_iff`: a generator reads what it would read if its call were the only one,
    unless an earlier call stated a setting that its own call does not state, with a value that
    reads otherwise.
-/
import CodecForge.Generator

namespace CodecForge

/-! ## What a generator reads -/

/-- How a setting reads, from its value if it has one; none if no generator can be made. -/
abbrev Reading := Option Json → Option Json

namespace Reading

/-- A name that no setting may have. -/
def taken : Reading := fun v => if v.isSome then none else some .null

/-- The value, unless it is empty, and else the default. -/
def nonEmpty (default : Json) : Reading := fun v => some ((v.filter Json.truthy).getD default)

/-- Whether the value is set, with a default for a missing one. -/
def flag (default : Bool) : Reading := fun v => some (.bool ((v.map Json.truthy).getD default))

/-- The items of the value, none for an empty one. -/
def items : Reading := fun v => (SwiftSettings.importsOf (v.getD .null)).toOption.map .arr

end Reading

/-- The settings that generators for a language read, and how. -/
def Target.readings : Target → List (String × Reading)
  | .python =>
    [("self", .taken), ("runtime_module", .nonEmpty (.str PythonSettings.defaultRuntime)),
      ("type_module", .nonEmpty .null), ("register_codecs", .flag true),
      ("emit_type_hints", .flag true), ("emit_docstrings", .flag false)]
  | .swift =>
    [("self", .taken), ("imports", .items), ("wrap_in_extension", .flag true),
      ("emit_decode_helper", .flag false)]

namespace Generator

open Settings

variable {t : Target} {s s' : Settings} {es es' own : List (String × Json)} {a g : Generator}

theorem languageEntries_eq (hs : s.languageConfig = .obj es) (hnames : s.namesAreStrings = true) :
    languageEntries t s =
      if Entries.has "self" es then .error (.takenName t.settingsName.1 "self") else .ok es := by
  rw [languageEntries, hs, hnames]
  rfl

/-- A generator has read the entries of its settings, in which no setting is called `self`. -/
theorem make_eq_ok_iff (hs : s.languageConfig = .obj es) : make t s = .ok g ↔
    s.namesAreStrings = true ∧ Entries.has "self" es = false ∧
      match t with
      | .python => g = .python s (.ofEntries es)
      | .swift => ∃ own, SwiftSettings.ofEntries es = .ok own ∧ g = .swift s own := by
  cases hnames : s.namesAreStrings with
  | false =>
    have herror : make t s = .error .nameNotString := by
      rw [make, languageEntries, hs, hnames]
      rfl
    simp [herror]
  | true =>
    rw [make, languageEntries_eq hs hnames]
    cases Entries.has "self" es with
    | true => simp [bind, Except.bind]
    | false =>
      cases t with
      | python => simp [bind, Except.bind, pure, Except.pure, eq_comm]
      | swift =>
        cases hown : SwiftSettings.ofEntries es with
        | error e => simp [hown, bind, Except.bind]
        | ok own => simp [hown, bind, Except.bind, pure, Except.pure, eq_comm]

theorem swift_ofEntries_eq_ok_iff {own : SwiftSettings} : SwiftSettings.ofEntries es = .ok own ↔
    SwiftSettings.importsOf ((Entries.get? "imports" es).getD .null) = .ok own.imports ∧
      SwiftSettings.flag es "wrap_in_extension" true = own.wrapInExtension ∧
      SwiftSettings.flag es "emit_decode_helper" false = own.decodeHelper := by
  obtain ⟨imports, wrap, helper⟩ := own
  rw [SwiftSettings.ofEntries]
  cases SwiftSettings.importsOf ((Entries.get? "imports" es).getD .null) with
  | error e => exact ⟨nofun, nofun⟩
  | ok xs => simp [bind, Except.bind, pure, Except.pure]

theorem swift_toJson_inj {own own' : SwiftSettings} : own'.toJson = own.toJson ↔ own' = own := by
  obtain ⟨imports, wrap, helper⟩ := own
  obtain ⟨imports', wrap', helper'⟩ := own'
  simp [SwiftSettings.toJson]

theorem taken_eq_iff {v w : Option Json} (hv : v.isSome = false) :
    Reading.taken w = Reading.taken v ↔ w.isSome = false := by
  unfold Reading.taken
  rw [hv]
  cases w.isSome <;> simp

theorem items_eq_iff {v w : Option Json} {xs : List Json}
    (hv : SwiftSettings.importsOf (v.getD .null) = .ok xs) :
    Reading.items w = Reading.items v ↔ SwiftSettings.importsOf (w.getD .null) = .ok xs := by
  unfold Reading.items
  rw [hv]
  cases SwiftSettings.importsOf (w.getD .null) <;> simp [Except.toOption]

/-- **Generators have read the same exactly if all that they read is the same.** -/
theorem exists_make_iff (hs : s.languageConfig = .obj es) (hs' : s'.languageConfig = .obj es')
    (hnames : s'.namesAreStrings = s.namesAreStrings) (ha : make t s = .ok a) :
    (∃ g, make t s' = .ok g ∧ g.ownJson = a.ownJson) ↔
      ∀ r ∈ t.readings, r.2 (Entries.get? r.1 es') = r.2 (Entries.get? r.1 es) := by
  obtain ⟨hstrings, hself, hmade⟩ := (make_eq_ok_iff hs).1 ha
  simp only [make_eq_ok_iff hs', hnames, hstrings, true_and]
  cases t with
  | python =>
    subst hmade
    simp only [Target.readings, List.forall_mem_cons, taken_eq_iff hself, and_assoc,
      exists_and_left, exists_eq_left]
    simp [Entries.has, Reading.nonEmpty, Reading.flag, ownJson, PythonSettings.toJson,
      PythonSettings.ofEntries, PythonSettings.nonEmpty?, PythonSettings.flag]
  | swift =>
    obtain ⟨own, hown, rfl⟩ := hmade
    obtain ⟨himports, hwrap, hhelper⟩ := swift_ofEntries_eq_ok_iff.1 hown
    have hsame : (∃ g, (Entries.has "self" es' = false ∧
        ∃ own', SwiftSettings.ofEntries es' = .ok own' ∧ g = swift s' own') ∧
          g.ownJson = (swift s own).ownJson) ↔
        Entries.has "self" es' = false ∧ SwiftSettings.ofEntries es' = .ok own := by
      constructor
      · rintro ⟨_, ⟨hself', own', hown', rfl⟩, heq⟩
        rw [swift_toJson_inj.1 heq] at hown'
        exact ⟨hself', hown'⟩
      · rintro ⟨hself', hown'⟩
        exact ⟨_, ⟨hself', own, hown', rfl⟩, rfl⟩
    rw [hsame, swift_ofEntries_eq_ok_iff, ← hwrap, ← hhelper]
    simp [Target.readings, taken_eq_iff hself, items_eq_iff himports, Entries.has, Reading.flag,
      SwiftSettings.flag]

/-! ## Calls -/

/-- What comes of calls that are made one after another under shared settings. -/
def createEach : List (Target × List (String × Json)) → Settings →
    List (Except SettingsFault Generator)
  | [], _ => []
  | (t, own) :: calls, s =>
    match makeShared t own s with
    | .ok g s => .ok g :: createEach calls s
    | .error e s => .error e :: createEach calls s

/-- What calls stated last for a setting. -/
def lastStated (calls : List (Target × List (String × Json))) (name : String) : Option Json :=
  ((calls.flatMap (·.2)).filter fun e => e.1 = name).getLast?.map (·.2)

/-- Settings with entries written into those of the language. -/
def written (s : Settings) (es own : List (String × Json)) : Settings :=
  { s with languageConfig := .obj (Entries.putAll es own) }

/-- A call writes its entries into the shared settings, and makes its generator under them. -/
theorem makeShared_eq (hs : s.languageConfig = .obj es) (t : Target)
    (own : List (String × Json)) : makeShared t own s =
      match make t (written s es own) with
      | .ok g => .ok g (written s es own)
      | .error e => .error e (written s es own) := by
  obtain ⟨outputFile, indentSize, addComments, header, languageConfig, namesAreStrings⟩ := s
  dsimp only at hs
  subst hs
  generalize hshared : (⟨outputFile, indentSize, addComments, header, .obj es,
    namesAreStrings⟩ : Settings) = s
  have hcall : makeShared t own s =
      (match make t (written s es own) with
        | .ok g => (pure g : EStateM SettingsFault Settings Generator)
        | .error e => throw e) (written s es own) := by
    subst hshared
    cases own <;> rfl
  rw [hcall]
  cases make t (written s es own) <;> rfl

theorem createEach_cons (hs : s.languageConfig = .obj es) (t : Target)
    (own : List (String × Json)) (calls : List (Target × List (String × Json))) :
    createEach ((t, own) :: calls) s =
      make t (written s es own) :: createEach calls (written s es own) := by
  rw [createEach, makeShared_eq hs]
  cases make t (written s es own) <;> rfl

/-- **Each generator is made under all that the calls up to its own have written.** -/
theorem getElem?_createEach (hs : s.languageConfig = .obj es)
    (before : List (Target × List (String × Json))) (t : Target) (own : List (String × Json))
    (after : List (Target × List (String × Json))) :
    (createEach (before ++ (t, own) :: after) s)[before.length]? =
      some (make t (written s (Entries.putAll es (before.flatMap (·.2))) own)) := by
  induction before generalizing s es with
  | nil =>
    rw [List.nil_append, createEach_cons hs]
    rfl
  | cons call before ih =>
    obtain ⟨t', own'⟩ := call
    have hrest := ih (s := written s es own') rfl
    rw [List.cons_append, createEach_cons hs, List.length_cons, List.getElem?_cons_succ, hrest,
      List.flatMap_cons, Entries.putAll, Entries.putAll, ← List.foldl_append]
    rfl

theorem exists_object_of_makeShared {own : List (String × Json)}
    (h : makeShared t own s = .ok a s') : ∃ es, s.languageConfig = .obj es := by
  cases hs : s.languageConfig with
  | obj es => exact ⟨es, rfl⟩
  | null | bool _ | int _ | float _ | str _ | arr _ =>
    obtain ⟨outputFile, indentSize, addComments, header, languageConfig, namesAreStrings⟩ := s
    dsimp only at hs
    subst hs
    cases own <;> cases h

/-- Of what earlier calls stated a generator sees what its own call does not state. -/
theorem reading_written_eq_iff (reading : Reading) (name : String) (es own : List (String × Json))
    (before : List (Target × List (String × Json))) :
    reading (Entries.get? name (Entries.putAll (Entries.putAll es (before.flatMap (·.2))) own)) =
        reading (Entries.get? name (Entries.putAll es own)) ↔
      (name ∉ own.map (·.1) → ∀ v, lastStated before name = some v →
        reading (some v) = reading (Entries.get? name es)) := by
  rw [Entries.get?_putAll_eq name _ own, Entries.get?_putAll_eq name es own]
  cases hown : (own.filter fun e => e.1 = name).getLast? with
  | some e =>
    have hstated : name ∈ own.map (·.1) := by
      have he := List.mem_filter.1 (List.mem_of_getLast? hown)
      exact List.mem_map.2 ⟨e, he.1, by simpa using he.2⟩
    exact ⟨fun _ hnot => absurd hstated hnot, fun _ => rfl⟩
  | none =>
    have hnot : name ∉ own.map (·.1) := by
      rw [List.getLast?_eq_none_iff, List.filter_eq_nil_iff] at hown
      rintro hmem
      obtain ⟨e, he, rfl⟩ := List.mem_map.1 hmem
      exact hown e he (by simp)
    rw [Option.map_none, Option.none_or, Option.none_or, Entries.get?_putAll_eq, ← lastStated]
    cases hlast : lastStated before name with
    | none => simp
    | some v => simp [hnot]

/-- **What a generator reads under shared settings.**  It has read what it reads if its call is
    the only one, whatever the calls after it state, unless a call before it stated a setting
    that its own call does not state, with a value that reads otherwise than that of the
    configuration. -/
theorem own_createEach_iff {own : List (String × Json)} (ha : makeShared t own s = .ok a s')
    (before after : List (Target × List (String × Json))) :
    (∃ g, (createEach (before ++ (t, own) :: after) s)[before.length]? = some (.ok g) ∧
        g.ownJson = a.ownJson) ↔
      ∀ r ∈ t.readings, r.1 ∉ own.map (·.1) → ∀ v, lastStated before r.1 = some v →
        r.2 (some v) = r.2 (s.languageConfig.field? r.1) := by
  obtain ⟨es, hs⟩ := exists_object_of_makeShared ha
  have hmake : make t (written s es own) = .ok a := by
    rw [makeShared_eq hs] at ha
    cases hmake : make t (written s es own) with
    | ok g =>
      rw [hmake] at ha
      cases ha
      rfl
    | error e =>
      rw [hmake] at ha
      cases ha
  have hlanguage (es : List (String × Json)) :
      (written s es own).languageConfig = .obj (Entries.putAll es own) := rfl
  have hiff := exists_make_iff (hlanguage es)
    (hlanguage (Entries.putAll es (before.flatMap (·.2)))) rfl hmake
  simp only [getElem?_createEach hs, Option.some.injEq, hiff, reading_written_eq_iff, hs,
    Json.field?]

/-- A call that states a module. -/
def moduleCall : Target × List (String × Json) := (.python, [("type_module", .str "app.models")])

/-- A call after it with a module of its own reads what it would read alone. -/
theorem own_createEach_iff_codecs :
    ∃ a s', makeShared .python [("type_module", .str "app.codecs")] {} = .ok a s' ∧
      ∃ g, (createEach [moduleCall, (.python, [("type_module", .str "app.codecs")])] {})[1]? =
        some (.ok g) ∧ g.ownJson = a.ownJson := by
  refine ⟨_, _, rfl, (own_createEach_iff rfl [moduleCall] []).2 fun r _ hown v hlast => ?_⟩
  have hne : "type_module" ≠ r.1 := fun heq => hown (by simp [← heq])
  have hnone : lastStated [moduleCall] r.1 = none := by simp [lastStated, moduleCall, hne]
  rw [hnone] at hlast
  cases hlast

/-- A call after it that states nothing reads its module. -/
theorem type_module_moduleCall : ∃ g a, (createEach [moduleCall, (.python, [])] {})[1]? =
      some (.ok g) ∧ makeShared .python [] {} = .ok a {} ∧
    g.ownJson.field? "type_module" = some (.str "app.models") ∧
    a.ownJson.field? "type_module" = some .null :=
  ⟨_, _, rfl, rfl, rfl, rfl⟩

end Generator

end CodecForge
