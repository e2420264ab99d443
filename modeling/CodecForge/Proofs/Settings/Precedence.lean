/-
  CodecForge — which source a setting comes from.

  A file and custom entries state a setting of the language in one of two forms:
  inside `language_config`, or as an entry that is no field.

  * `IsSource` says that entries have keys that stand once, with an object under
    `language_config` if something stands there; a file that is read is one;
  * `LaidOver` is what merging does to the fields and to both forms (`laidOver_merge`);
  * `value_of_loadSettings`: the order in which the forms count.  It is first the
    entries that are no field, custom before file, and then what stands inside
    `language_config`;
  * `setting_of_loadSettings_iff`: hence a setting has the value that custom entries,
    the file and the defaults give it in that order unless the file states it beside
    the fields, and custom entries state another value inside `language_config`.
-/
import CodecForge.Configuration
import CodecForge.Proofs.Json.WellKeyed

namespace CodecForge.Settings

/-! ## Sources -/

/-- The fields that hold no settings of a language. -/
def fieldNames : List String := ["output_file", "indent_size", "add_comments", "header"]

/-- What entries state for a setting of the language beside the fields. -/
def topForm? (es : List (String × Json)) (name : String) : Option Json :=
  if name ∈ languageKey :: fieldNames then none else Entries.get? name es

/-- What entries state for a setting of the language inside `language_config`. -/
def nestedForm? (es : List (String × Json)) (name : String) : Option Json :=
  (Entries.get? languageKey es).bind (·.field? name)

/-- What entries state for a setting of the language, in either form; beside the
    fields if they do so in both. -/
def stated? (es : List (String × Json)) (name : String) : Option Json :=
  topForm? es name <|> nestedForm? es name

/-- The entry `language_config` is an object, if it is there. -/
def LanguageIsObject (es : List (String × Json)) : Prop :=
  ∀ v, Entries.get? languageKey es = some v → ∃ new, v = .obj new

/-- Entries of an object in which `language_config`, if it is there, is an object. -/
structure IsSource (es : List (String × Json)) : Prop where
  nodup : (es.map (·.1)).Nodup
  language : ∀ v, Entries.get? languageKey es = some v →
    ∃ new, v = .obj new ∧ (new.map (·.1)).Nodup

theorem isSource_of_wellKeyed {es : List (String × Json)} (h : (Json.obj es).WellKeyed)
    (hl : LanguageIsObject es) : IsSource es where
  nodup := h.nodup
  language v hv := by
    obtain ⟨new, rfl⟩ := hl v hv
    exact ⟨new, rfl, (h.get? hv).nodup⟩

theorem orElse_assoc {α : Type} (a b c : Option α) : ((a <|> b) <|> c) = (a <|> b <|> c) := by
  cases a <;> rfl

/-- With keys that stand once, it does not matter which entry is looked at first. -/
theorem get?_cons_or {e : String × Json} {es : List (String × Json)} (hk : e.1 ∉ es.map (·.1))
    (name : String) :
    Entries.get? name (e :: es) = (Entries.get? name es <|> Entries.get? name [e]) := by
  simp only [Entries.get?]
  split
  · next heq => rw [Entries.get?_eq_none_iff.2 (heq ▸ hk)]; rfl
  · simp

theorem topForm?_cons_or {e : String × Json} {es : List (String × Json)}
    (hk : e.1 ∉ es.map (·.1)) (name : String) :
    topForm? (e :: es) name = (topForm? es name <|> topForm? [e] name) := by
  unfold topForm?
  split
  · rfl
  · exact get?_cons_or hk name

theorem nestedForm?_cons_or {e : String × Json} {es : List (String × Json)}
    (hk : e.1 ∉ es.map (·.1)) (name : String) :
    nestedForm? (e :: es) name = (nestedForm? es name <|> nestedForm? [e] name) := by
  unfold nestedForm?
  simp only [Entries.get?]
  split
  · next heq => rw [Entries.get?_eq_none_iff.2 (heq ▸ hk)]; rfl
  · simp

theorem IsSource.tail {e : String × Json} {es : List (String × Json)} (h : IsSource (e :: es)) :
    IsSource es where
  nodup := (List.nodup_cons.1 h.nodup).2
  language v hv := by
    refine h.language v ?_
    rw [get?_cons_or (List.nodup_cons.1 h.nodup).1, hv]
    rfl

theorem isSource_defaultsFor (language : String) : IsSource (defaultsFor language) := by
  unfold defaultsFor
  split
  · exact ⟨by decide, by rintro v ⟨⟩; exact ⟨_, rfl, by decide⟩⟩
  · exact ⟨by decide, by rintro v ⟨⟩; exact ⟨_, rfl, by decide⟩⟩
  · exact ⟨by simp, nofun⟩

theorem topForm?_defaultsFor (language name : String) :
    topForm? (defaultsFor language) name = none := by
  unfold topForm?
  split
  · rfl
  · next h =>
    refine Entries.get?_eq_none_iff.2 fun hmem => h ?_
    revert hmem
    unfold defaultsFor
    split <;> simp [fieldNames, languageKey] <;> grind

/-! ## Merging -/

/-- `es` are the entries `upper` laid over the entries `base`. -/
structure LaidOver (upper base es : List (String × Json)) : Prop where
  top : ∀ name, name ≠ languageKey →
    Entries.get? name es = (Entries.get? name upper <|> Entries.get? name base)
  nested : ∀ name, nestedForm? es name = (nestedForm? upper name <|> nestedForm? base name)

theorem LaidOver.refl (base : List (String × Json)) : LaidOver [] base base :=
  ⟨fun _ _ => rfl, fun _ => rfl⟩

theorem LaidOver.cons {e : String × Json} {upper base mid es : List (String × Json)}
    (hk : e.1 ∉ upper.map (·.1)) (h : LaidOver [e] base mid) (h' : LaidOver upper mid es) :
    LaidOver (e :: upper) base es where
  top name hname := by
    rw [h'.top name hname, h.top name hname, get?_cons_or hk, orElse_assoc]
  nested name := by
    rw [h'.nested name, h.nested name, nestedForm?_cons_or hk, orElse_assoc]

theorem LaidOver.topForm {upper base es : List (String × Json)} (h : LaidOver upper base es)
    (name : String) : topForm? es name = (topForm? upper name <|> topForm? base name) := by
  unfold topForm?
  split
  · rfl
  · next hname => exact h.top name fun he => hname (he ▸ List.mem_cons_self)

theorem isSource_put {base : List (String × Json)} (h : IsSource base) {k : String} {v : Json}
    (hv : k = languageKey → ∃ new, v = .obj new ∧ (new.map (·.1)).Nodup) :
    IsSource (Entries.put k v base) where
  nodup := Entries.nodup_keys_put k v h.nodup
  language w hw := by
    rw [Entries.get?_put] at hw
    split at hw
    · next hk => exact Option.some.inj hw ▸ hv hk
    · exact h.language w hw

theorem laidOver_put_of_ne {k : String} (hk : k ≠ languageKey) (v : Json)
    (base : List (String × Json)) : LaidOver [(k, v)] base (Entries.put k v base) where
  top name _ := by
    rw [Entries.get?_put]
    simp only [Entries.get?]
    split <;> rfl
  nested name := by
    simp [nestedForm?, Entries.get?, hk]

theorem laidOver_put_language {base new merged : List (String × Json)}
    (hmerged : ∀ name,
      Entries.get? name merged = (Entries.get? name new <|> nestedForm? base name)) :
    LaidOver [(languageKey, .obj new)] base (Entries.put languageKey (.obj merged) base) where
  top name hname := by
    simp [Entries.get?, Ne.symm hname]
  nested name := by
    simp only [nestedForm?, Entries.get?_put_self, Option.bind_some, Json.field?, Entries.get?,
      if_true]
    exact hmerged name

theorem mergeEntry_language (base new : List (String × Json)) :
    mergeEntry base languageKey (.obj new) =
      match Entries.get? languageKey base with
      | none => .ok (Entries.put languageKey (.obj new) base)
      | some (.obj old) => .ok (Entries.put languageKey (.obj (Entries.putAll old new)) base)
      | some old => .error (.notMergeable old.kindName) :=
  rfl

theorem mergeEntry_of_ne {k : String} (hk : k ≠ languageKey) (base : List (String × Json))
    (v : Json) : mergeEntry base k v = .ok (Entries.put k v base) := by
  unfold mergeEntry
  split
  · exact absurd rfl hk
  · rfl

theorem laidOver_mergeEntry {base : List (String × Json)} (hbase : IsSource base) {k : String}
    {v : Json} (hv : IsSource [(k, v)]) :
    ∃ es, mergeEntry base k v = .ok es ∧ IsSource es ∧ LaidOver [(k, v)] base es := by
  by_cases hk : k = languageKey
  · subst hk
    obtain ⟨new, rfl, hnew⟩ := hv.language v (by simp [Entries.get?])
    cases hold : Entries.get? languageKey base with
    | none =>
      refine ⟨_, by rw [mergeEntry_language, hold], isSource_put hbase fun _ => ⟨new, rfl, hnew⟩,
        laidOver_put_language fun name => ?_⟩
      simp [nestedForm?, hold]
    | some w =>
      obtain ⟨old, rfl, hnodup⟩ := hbase.language w hold
      refine ⟨_, by rw [mergeEntry_language, hold], isSource_put hbase fun _ =>
        ⟨_, rfl, Entries.nodup_keys_putAll new hnodup⟩, laidOver_put_language fun name => ?_⟩
      rw [Entries.get?_putAll name hnew]
      simp [nestedForm?, hold, Json.field?]
  · exact ⟨Entries.put k v base, mergeEntry_of_ne hk base v,
      isSource_put hbase fun h => absurd h hk, laidOver_put_of_ne hk v base⟩

theorem laidOver_merge {base upper : List (String × Json)} (hbase : IsSource base)
    (hupper : IsSource upper) :
    ∃ es, merge base upper = .ok es ∧ IsSource es ∧ LaidOver upper base es := by
  induction upper generalizing base with
  | nil => exact ⟨base, rfl, hbase, .refl base⟩
  | cons e upper ih =>
    have he : IsSource [e] :=
      ⟨by simp, fun v hv => hupper.language v (by simp_all [Entries.get?])⟩
    obtain ⟨mid, hmid, hsource, hlaid⟩ := laidOver_mergeEntry hbase he
    obtain ⟨es, hes, hsource', hlaid'⟩ := ih hsource hupper.tail
    refine ⟨es, ?_, hsource', hlaid.cons (List.nodup_cons.1 hupper.nodup).1 hlaid'⟩
    simp only [merge, List.foldlM_cons] at hes ⊢
    rw [hmid]
    exact hes

/-! ## From entries to settings -/

theorem toEntries_of_set? {s s' : Settings} {k : String} {v : Json} (h : s.set? k v = some s') :
    s'.toEntries = Entries.put k v s.toEntries := by
  unfold set? at h
  split at h <;> cases h <;> rfl

theorem set?_eq_none_iff {s : Settings} {k : String} {v : Json} :
    s.set? k v = none ↔ k ∉ languageKey :: fieldNames := by
  unfold set?
  split <;> simp_all [fieldNames, languageKey]

theorem takeEntry_spec (acc : Settings × List (String × Json)) (e : String × Json) :
    (∀ name ∈ fieldNames, Entries.get? name (takeEntry acc e).1.toEntries =
      (Entries.get? name [e] <|> Entries.get? name acc.1.toEntries)) ∧
    ∀ name, Entries.get? name (takeEntry acc e).2 =
      (topForm? [e] name <|> Entries.get? name acc.2) := by
  obtain ⟨k, v⟩ := e
  have hsingle : ∀ name, Entries.get? name [(k, v)] = if k = name then some v else none :=
    fun _ => rfl
  unfold takeEntry topForm?
  simp only [hsingle]
  split
  · next hk =>
    have hne : languageKey ∉ fieldNames := by decide
    grind
  · split
    · next s hs =>
      have hfield : k ∈ languageKey :: fieldNames := by
        rw [← Decidable.not_not (p := k ∈ _), ← set?_eq_none_iff (s := acc.1) (v := v), hs]
        exact Option.some_ne_none s
      simp only [toEntries_of_set? hs, Entries.get?_put]
      grind
    · next hs =>
      have hfield := set?_eq_none_iff.1 hs
      simp only [Entries.get?_put]
      grind

/-- Entries are taken for fields, or for settings of the language. -/
theorem foldl_takeEntry {es : List (String × Json)} (h : (es.map (·.1)).Nodup)
    (acc : Settings × List (String × Json)) :
    (∀ name ∈ fieldNames, Entries.get? name (es.foldl takeEntry acc).1.toEntries =
      (Entries.get? name es <|> Entries.get? name acc.1.toEntries)) ∧
    ∀ name, Entries.get? name (es.foldl takeEntry acc).2 =
      (topForm? es name <|> Entries.get? name acc.2) := by
  induction es generalizing acc with
  | nil => exact ⟨fun _ _ => rfl, fun name => by simp [topForm?, Entries.get?]⟩
  | cons e es ih =>
    obtain ⟨hk, hes⟩ := List.nodup_cons.1 h
    obtain ⟨hfield, hlanguage⟩ := ih hes (takeEntry acc e)
    obtain ⟨hfield', hlanguage'⟩ := takeEntry_spec acc e
    constructor
    · intro name hname
      rw [List.foldl_cons, hfield name hname, hfield' name hname, get?_cons_or hk, orElse_assoc]
    · intro name
      rw [List.foldl_cons, hlanguage name, hlanguage' name, topForm?_cons_or hk, orElse_assoc]

theorem ofEntries_spec {es : List (String × Json)} (h : IsSource es) :
    ∃ s, ofEntries es = .ok s ∧
      (∀ name ∈ fieldNames, Entries.get? name s.toEntries =
        (Entries.get? name es <|> Entries.get? name ({} : Settings).toEntries)) ∧
      ∀ name, s.languageConfig.field? name = stated? es name := by
  obtain ⟨language, hlanguage, hnested⟩ : ∃ language,
      ((Entries.get? languageKey es).getD .null).entriesOf = .ok (language, true) ∧
        ∀ name, Entries.get? name language = nestedForm? es name := by
    unfold nestedForm?
    cases hl : Entries.get? languageKey es with
    | none => exact ⟨[], rfl, fun _ => rfl⟩
    | some v =>
      obtain ⟨new, rfl, -⟩ := h.language v hl
      exact ⟨new, rfl, fun _ => rfl⟩
  obtain ⟨hfield, htop⟩ := foldl_takeEntry h.nodup (({} : Settings), language)
  refine ⟨_, by rw [ofEntries, hlanguage]; rfl, fun name hname => ?_, fun name => ?_⟩
  · rw [← hfield name hname]
    simp only [fieldNames, List.mem_cons, List.not_mem_nil, or_false] at hname
    rcases hname with rfl | rfl | rfl | rfl <;> rfl
  · exact (htop name).trans (by rw [hnested name]; rfl)

/-! ## Loading -/

theorem isSource_of_configFile {files : Files} {file : String} {es : List (String × Json)}
    (h : configFile files file = .ok es) (hl : LanguageIsObject es) : IsSource es := by
  refine isSource_of_wellKeyed ?_ hl
  unfold configFile at h
  dsimp only at h
  split at h
  · cases h
  · cases h
  · split at h
    · cases h
    · split at h
      · cases h
      · split at h
        · split at h <;> cases h
        · next hread =>
          cases h
          exact Json.wellKeyed_of_read hread
        · cases h

theorem configFile_of_read {files : Files} {file text : String} {es : List (String × Json)}
    (hexists : files.exists_ (Path.ofString file) = .ok true)
    (hjson : (Path.ofString file).isJson = true)
    (htext : files.read (Path.ofString file) = .ok text) (hread : Json.read text = .ok (.obj es)) :
    configFile files file = .ok es := by
  unfold configFile
  dsimp only
  rw [hexists]
  dsimp only
  rw [hjson, htext, if_neg (by simp)]
  dsimp only
  rw [hread]

theorem configFile_empty_ne_ok (files : Files) (es : List (String × Json)) :
    configFile files "" ≠ .ok es := by
  have hjson : (Path.ofString "").isJson = false := by rfl
  unfold configFile
  dsimp only
  split
  · exact nofun
  · exact nofun
  · simp [hjson]

theorem loadSettings_of_configFile {files : Files} {file : String} {es : List (String × Json)}
    (h : configFile files file = .ok es) (language : String) (custom : List (String × Json)) :
    loadSettings files language custom (some file) =
      (combine language es custom).mapError .fault := by
  have hne : file.isEmpty = false := by
    rw [Bool.eq_false_iff]
    intro hempty
    exact configFile_empty_ne_ok files es (String.isEmpty_iff.1 hempty ▸ h)
  simp only [loadSettings, hne, h]
  rfl

variable {files : Files} {language file : String} {stored custom : List (String × Json)}

/-- The order in which the forms of two sources count for a setting of the language. -/
theorem value_of_loadSettings (hfile : configFile files file = .ok stored)
    (hstored : LanguageIsObject stored) (hcustom : IsSource custom) :
    ∃ s, loadSettings files language custom (some file) = .ok s ∧
      (∀ name ∈ fieldNames, Entries.get? name s.toEntries =
        (Entries.get? name custom <|> Entries.get? name stored <|>
          Entries.get? name (defaultsFor language) <|>
            Entries.get? name ({} : Settings).toEntries)) ∧
      ∀ name, s.languageConfig.field? name =
        (topForm? custom name <|> topForm? stored name <|> nestedForm? custom name <|>
          nestedForm? stored name <|> stated? (defaultsFor language) name) := by
  obtain ⟨mid, hmid, hsource, hlaid⟩ :=
    laidOver_merge (isSource_defaultsFor language) (isSource_of_configFile hfile hstored)
  obtain ⟨es, hes, hsource', hlaid'⟩ := laidOver_merge hsource hcustom
  obtain ⟨s, hs, hfield, hsetting⟩ := ofEntries_spec hsource'
  refine ⟨s, ?_, fun name hname => ?_, fun name => ?_⟩
  · simp only [loadSettings_of_configFile hfile, combine, hmid]
    rw [show (Except.ok mid >>= fun es => merge es custom >>= ofEntries) = .ok s by
      simp only [bind, Except.bind, hes, hs]]
    rfl
  · have hne : name ≠ languageKey := by
      rintro rfl
      exact absurd hname (by decide)
    rw [hfield name hname, hlaid'.top name hne, hlaid.top name hne]
    simp only [orElse_assoc]
  · rw [hsetting name, stated?, hlaid'.topForm, hlaid.topForm, hlaid'.nested, hlaid.nested]
    simp only [stated?, topForm?_defaultsFor, orElse_assoc]
    rfl

/-- **Which source a setting comes from.**  A field has the value that custom entries
    state, or else the file, or else the defaults.  So has a setting of the language,
    unless the file states it beside the fields and custom entries only inside
    `language_config`, with another value. -/
theorem setting_of_loadSettings_iff (hfile : configFile files file = .ok stored)
    (hstored : LanguageIsObject stored) (hcustom : IsSource custom) :
    ∃ s, loadSettings files language custom (some file) = .ok s ∧
      (∀ name ∈ fieldNames, Entries.get? name s.toEntries =
        (Entries.get? name custom <|> Entries.get? name stored <|>
          Entries.get? name (defaultsFor language) <|>
            Entries.get? name ({} : Settings).toEntries)) ∧
      ∀ name, s.languageConfig.field? name =
          (stated? custom name <|> stated? stored name <|> stated? (defaultsFor language) name) ↔
        ¬ (topForm? custom name = none ∧ ∃ v w, topForm? stored name = some v ∧
          nestedForm? custom name = some w ∧ v ≠ w) := by
  obtain ⟨s, hs, hfield, hsetting⟩ := value_of_loadSettings hfile hstored hcustom
  refine ⟨s, hs, hfield, fun name => ?_⟩
  simp only [hsetting name, stated?]
  cases topForm? custom name with
  | some v => simp
  | none =>
    cases topForm? stored name with
    | none => simp
    | some v =>
      cases nestedForm? custom name with
      | none => simp
      | some w => simp

/-! ## A setting in two forms -/

/-- A file that states `type_module` beside the fields. -/
def moduleFiles : Files := [(["codegen.json"], "\x7b\"type_module\": \"a\"\x7d")]

/-- Custom entries that state it inside `language_config`. -/
def moduleCustom : List (String × Json) := [("language_config", .obj [("type_module", .str "b")])]

theorem read_moduleFile :
    Json.read "\x7b\"type_module\": \"a\"\x7d" = .ok (.obj [("type_module", .str "a")]) := by
  simp [Json.read, Json.readValue, Json.readEntries, Json.readString, Json.Rest.skip,
    Json.Rest.next, Json.isSpace, Json.maxDepth, bind, Except.bind, pure, Except.pure,
    Except.mapError, Entries.ofPairs, Entries.putAll, Entries.put]

theorem configFile_moduleFiles :
    configFile moduleFiles "codegen.json" = .ok [("type_module", .str "a")] :=
  configFile_of_read (by rfl) (by decide +kernel) (by rfl) read_moduleFile

theorem isSource_moduleCustom : IsSource moduleCustom where
  nodup := by simp [moduleCustom]
  language := by
    rintro v ⟨⟩
    exact ⟨_, rfl, by simp⟩

theorem setting_of_loadSettings_iff_moduleFiles :
    configFile moduleFiles "codegen.json" = .ok [("type_module", .str "a")] ∧
      LanguageIsObject [("type_module", .str "a")] ∧ IsSource moduleCustom ∧
      ∃ s, loadSettings moduleFiles "python" moduleCustom (some "codegen.json") = .ok s ∧
        s.languageConfig.field? "runtime_module" = some (.str "autocodable.runtime") := by
  have hstored : LanguageIsObject [("type_module", .str "a")] := nofun
  obtain ⟨s, hs, -, hsetting⟩ :=
    @setting_of_loadSettings_iff moduleFiles "python" "codegen.json" _ _
      configFile_moduleFiles hstored isSource_moduleCustom
  exact ⟨configFile_moduleFiles, hstored, isSource_moduleCustom, s, hs,
    (hsetting "runtime_module").2 fun h => by simp [topForm?, Entries.get?] at h⟩

/-- The value of the file is taken, and not the custom one. -/
theorem type_module_of_file :
    ∃ s, loadSettings moduleFiles "python" moduleCustom (some "codegen.json") = .ok s ∧
      stated? moduleCustom "type_module" = some (.str "b") ∧
      s.languageConfig.field? "type_module" = some (.str "a") := by
  rw [loadSettings_of_configFile configFile_moduleFiles]
  exact ⟨_, rfl, rfl, rfl⟩

end CodecForge.Settings
