/-
  CodecForge — values that can be used as settings.

  Of a file of settings it is checked that it holds an object; the values in it, and those of
  custom entries, are used as they are.  Only the entry `language_config` can stand in the way.

  * `Json.StatesEntries` says which values are read as entries (`exists_entriesOf_iff`);
  * `laidValue` is what merging does to the entry `language_config` (`get?_merge`);
  * `Unusable` says of what the file and the custom entries state there that it cannot be laid
    over the defaults, or not be read as entries (`exists_combine_iff`);
  * `loaded_or_configError_iff`: without such values, and without a text beyond the limits,
    settings are loaded or a `ConfigError` says why not.
-/
import CodecForge.Proofs.Related
import CodecForge.Proofs.Settings.Precedence

namespace CodecForge

/-! ## Values read as entries -/

/-- Values that are read as a pair of a name and a value. -/
inductive Json.IsPair : Json → Prop
  | list {name value : Json} : (∀ xs, name ≠ .arr xs) → (∀ es, name ≠ .obj es) →
      IsPair (.arr [name, value])
  | text {s : String} : s.toList.length = 2 → IsPair (.str s)
  | object {es : List (String × Json)} : es.length = 2 → IsPair (.obj es)

/-- Values that are read as entries. -/
inductive Json.StatesEntries : Json → Prop
  | empty {v : Json} : v.truthy = false → StatesEntries v
  | object {es : List (String × Json)} : StatesEntries (.obj es)
  | pairs {xs : List Json} : (∀ x ∈ xs, x.IsPair) → StatesEntries (.arr xs)

namespace Json

theorem exists_pairOf_iff_items {index : Nat} {x : Json} : (∃ p, pairOf index x = .ok p) ↔
    ∃ name value, x.items? = some [name, value] ∧ (∀ xs, name ≠ .arr xs) ∧
      ∀ es, name ≠ .obj es := by
  unfold pairOf
  constructor
  · rintro ⟨p, hp⟩
    split at hp
    · cases hp
    · cases hp
    · cases hp
    · next name value hlist hobject hitems =>
      exact ⟨name, value, hitems, hlist, hobject⟩
    · cases hp
  · rintro ⟨name, value, hitems, hlist, hobject⟩
    rw [hitems]
    cases name with
    | arr xs => exact absurd rfl (hlist xs)
    | obj es => exact absurd rfl (hobject es)
    | null | bool _ | int _ | float _ | str _ => exact ⟨_, rfl⟩

theorem exists_pairOf_iff {index : Nat} {x : Json} :
    (∃ p, pairOf index x = .ok p) ↔ x.IsPair := by
  rw [exists_pairOf_iff_items]
  constructor
  · rintro ⟨name, value, hitems, hlist, hobject⟩
    cases x with
    | null | bool _ | int _ | float _ => cases hitems
    | str s => exact .text (by simpa using congrArg List.length (Option.some.inj hitems))
    | arr xs =>
      obtain rfl : xs = [name, value] := Option.some.inj hitems
      exact .list hlist hobject
    | obj es => exact .object (by simpa using congrArg List.length (Option.some.inj hitems))
  · rintro (⟨hlist, hobject⟩ | hlength | hlength)
    · exact ⟨_, _, rfl, hlist, hobject⟩
    · obtain ⟨a, b, hs⟩ := List.length_eq_two.1 hlength
      exact ⟨_, _, by rw [items?, hs]; rfl, by simp, by simp⟩
    · obtain ⟨a, b, rfl⟩ := List.length_eq_two.1 hlength
      exact ⟨_, _, rfl, by simp, by simp⟩

theorem exists_pairsOf_iff (xs : List Json) (index : Nat) :
    (∃ ps, pairsOf index xs = .ok ps) ↔ ∀ x ∈ xs, x.IsPair := by
  induction xs generalizing index with
  | nil => simp [pairsOf]
  | cons x xs ih =>
    rw [List.forall_mem_cons, ← ih (index + 1), ← exists_pairOf_iff, pairsOf]
    constructor
    · rintro ⟨ps, hps⟩
      obtain ⟨p, hp, hrest⟩ := exists_of_bind_eq_ok hps
      obtain ⟨qs, hqs, -⟩ := exists_of_bind_eq_ok hrest
      exact ⟨⟨p, hp⟩, qs, hqs⟩
    · rintro ⟨⟨p, hp⟩, ps, hps⟩
      rw [hp, hps]
      exact ⟨_, rfl⟩

/-- What is not empty is read as entries by its items. -/
theorem exists_entriesOf_iff_items {v : Json} (hobject : ∀ es, v ≠ .obj es)
    (htruthy : v.truthy = true) :
    (∃ p, v.entriesOf = .ok p) ↔ ∃ xs, v.items? = some xs ∧ ∀ x ∈ xs, x.IsPair := by
  unfold entriesOf
  split
  · exact absurd rfl (hobject _)
  · rw [htruthy, if_neg (by simp)]
    cases v.items? with
    | none => simp
    | some xs =>
      simp only [Option.some.injEq, exists_eq_left', ← exists_pairsOf_iff xs 0]
      constructor
      · rintro ⟨p, hp⟩
        obtain ⟨ps, hps, -⟩ := exists_of_bind_eq_ok hp
        exact ⟨ps, hps⟩
      · rintro ⟨ps, hps⟩
        rw [hps]
        exact ⟨_, rfl⟩

theorem exists_entriesOf_of_empty {v : Json} (h : v.truthy = false) :
    ∃ p, v.entriesOf = .ok p := by
  unfold entriesOf
  split
  · exact ⟨_, rfl⟩
  · rw [h]
    exact ⟨_, rfl⟩

/-- The characters of a text are no pairs. -/
theorem forall_isPair_characters_iff {cs : List Char} :
    (∀ x ∈ cs.map fun c => str (String.ofList [c]), x.IsPair) ↔ cs = [] := by
  cases cs with
  | nil => simp
  | cons c cs =>
    refine iff_of_false (fun h => ?_) (by simp)
    cases h (.str (String.ofList [c])) (by simp) with
    | text hlength => simp at hlength

/-- **A value is read as entries** if and only if it states some. -/
theorem exists_entriesOf_iff {v : Json} : (∃ p, v.entriesOf = .ok p) ↔ v.StatesEntries := by
  constructor
  · intro hread
    by_cases htruthy : v.truthy = true
    · by_cases hobject : ∃ es, v = .obj es
      · obtain ⟨es, rfl⟩ := hobject
        exact .object
      · rw [exists_entriesOf_iff_items (by simpa using hobject) htruthy] at hread
        obtain ⟨xs, hitems, hpairs⟩ := hread
        cases v with
        | null | bool _ | int _ | float _ => cases hitems
        | obj es => exact absurd ⟨es, rfl⟩ hobject
        | arr ys =>
          obtain rfl : ys = xs := Option.some.inj hitems
          exact .pairs hpairs
        | str s =>
          obtain rfl := Option.some.inj hitems
          rw [forall_isPair_characters_iff, String.toList_eq_nil_iff] at hpairs
          rw [hpairs] at htruthy
          cases htruthy
    · exact .empty (by simpa using htruthy)
  · rintro (hempty | _ | hpairs)
    · exact exists_entriesOf_of_empty hempty
    · exact ⟨_, rfl⟩
    · next xs =>
      by_cases htruthy : (arr xs).truthy = true
      · exact (exists_entriesOf_iff_items (by simp) htruthy).2 ⟨xs, rfl, hpairs⟩
      · exact exists_entriesOf_of_empty (by simpa using htruthy)

end Json

namespace Settings

/-! ## The entry of the language -/

/-- What stands under `language_config` after entries with `upper` there are laid over entries
    with `base` there. -/
def laidValue (base upper : Option Json) : Except SettingsFault (Option Json) :=
  match upper, base with
  | none, _ => .ok base
  | some (.obj new), none => .ok (some (.obj new))
  | some (.obj new), some (.obj old) => .ok (some (.obj (Entries.putAll old new)))
  | some (.obj _), some old => .error (.notMergeable old.kindName)
  | some v, _ => .ok (some v)

/-- What merging one entry does. -/
theorem get?_mergeEntry (base : List (String × Json)) (v : Json) :
    (mergeEntry base languageKey v).map (Entries.get? languageKey) =
      laidValue (Entries.get? languageKey base) (some v) := by
  cases v with
  | obj new =>
    rw [mergeEntry_language]
    cases hold : Entries.get? languageKey base with
    | none => simp [laidValue, Except.map]
    | some old => cases old <;> simp [laidValue, Except.map]
  | null | bool _ | int _ | float _ | str _ | arr _ =>
    exact congrArg Except.ok (Entries.get?_put_self _ _ _)

/-- **What merging does to the entry of the language.** -/
theorem get?_merge {base upper : List (String × Json)} (h : (upper.map (·.1)).Nodup) :
    (merge base upper).map (Entries.get? languageKey) =
      laidValue (Entries.get? languageKey base) (Entries.get? languageKey upper) := by
  induction upper generalizing base with
  | nil => rfl
  | cons e upper ih =>
    obtain ⟨k, v⟩ := e
    obtain ⟨hk, hupper⟩ := List.nodup_cons.1 h
    have hsplit : merge base ((k, v) :: upper) = mergeEntry base k v >>= (merge · upper) := by
      rw [merge, List.foldlM_cons]
      rfl
    rw [hsplit]
    by_cases hkey : k = languageKey
    · subst hkey
      have hnone : Entries.get? languageKey upper = none := Entries.get?_eq_none_iff.2 hk
      have hfirst := get?_mergeEntry base v
      rw [Entries.get?, if_pos rfl, ← hfirst]
      cases mergeEntry base languageKey v with
      | error e => rfl
      | ok mid =>
        have hrest := @ih mid hupper
        rw [hnone] at hrest
        exact hrest
    · have hrest := @ih (Entries.put k v base) hupper
      rw [Entries.get?_put_of_ne hkey] at hrest
      rw [mergeEntry_of_ne hkey, Entries.get?, if_neg hkey]
      exact hrest

/-! ## Both sources -/

/-- What a file and custom entries state for `language_config` and settings cannot be made of. -/
inductive Unusable : Option Json → Option Json → Prop
  /-- custom entries are to be laid over a value of the file that is no object -/
  | clash {old : Json} {new : List (String × Json)} : (∀ es, old ≠ .obj es) →
      Unusable (some old) (some (.obj new))
  /-- the custom value is not read as entries -/
  | custom {stored : Option Json} {v : Json} : ¬ v.StatesEntries → Unusable stored (some v)
  /-- the value of the file is not read as entries, and nothing takes its place -/
  | stored {v : Json} : ¬ v.StatesEntries → Unusable (some v) none

/-- Nothing, or an object. -/
def ObjectOrNone (v : Option Json) : Prop := ∀ w, v = some w → ∃ es, w = .obj es

theorem laidValue_of_not_object {v : Json} (h : ∀ es, v ≠ .obj es) (base : Option Json) :
    laidValue base (some v) = .ok (some v) := by
  cases v with
  | obj es => exact absurd rfl (h es)
  | null | bool _ | int _ | float _ | str _ | arr _ => rfl

/-- Objects are not laid over other values. -/
theorem laidValue_clash {old : Json} (h : ∀ es, old ≠ .obj es) (new : List (String × Json)) :
    laidValue (some old) (some (.obj new)) = .error (.notMergeable old.kindName) := by
  cases old with
  | obj es => exact absurd rfl (h es)
  | null | bool _ | int _ | float _ | str _ | arr _ => rfl

/-- Objects are laid over objects. -/
theorem exists_laidValue {base upper : Option Json} (h : ObjectOrNone base)
    (hupper : ObjectOrNone upper) : ∃ v, laidValue base upper = .ok v ∧ ObjectOrNone v := by
  cases upper with
  | none => exact ⟨base, rfl, h⟩
  | some w =>
    obtain ⟨new, rfl⟩ := hupper w rfl
    cases base with
    | none => exact ⟨_, rfl, hupper⟩
    | some w =>
      obtain ⟨old, rfl⟩ := h w rfl
      exact ⟨_, rfl, by simp [ObjectOrNone]⟩

theorem ObjectOrNone.states {v : Option Json} (h : ObjectOrNone v) :
    (v.getD .null).StatesEntries := by
  cases v with
  | none => exact .empty rfl
  | some w =>
    obtain ⟨es, rfl⟩ := h w rfl
    exact .object

/-- A custom value that is no object takes the place of any other. -/
theorem states_laidValue_iff_of_custom {v : Json} (hv : ∀ es, v ≠ .obj es)
    (mid stored : Option Json) :
    (∃ w, laidValue mid (some v) = .ok w ∧ (w.getD .null).StatesEntries) ↔
      ¬ Unusable stored (some v) := by
  simp only [laidValue_of_not_object hv, Except.ok.injEq, exists_eq_left', Option.getD_some]
  constructor
  · rintro hstates (_ | hnot | _)
    · exact hv _ rfl
    · exact hnot hstates
  · intro husable
    exact not_not.1 fun hnot => husable (.custom hnot)

/-- Over an object, or over nothing, only the custom value counts. -/
theorem ObjectOrNone.states_laidValue_iff {mid stored : Option Json} (h : ObjectOrNone mid)
    (hstored : ObjectOrNone stored) (custom : Option Json) :
    (∃ v, laidValue mid custom = .ok v ∧ (v.getD .null).StatesEntries) ↔
      ¬ Unusable stored custom := by
  by_cases hcustom : ObjectOrNone custom
  · obtain ⟨v, hv, hobject⟩ := exists_laidValue h hcustom
    refine iff_of_true ⟨v, hv, hobject.states⟩ ?_
    rintro (hold | hstates | hstates)
    · obtain ⟨es, rfl⟩ := hstored _ rfl
      exact hold es rfl
    · exact hstates hcustom.states
    · exact hstates hstored.states
  · obtain ⟨v, rfl, hv⟩ : ∃ v, custom = some v ∧ ∀ es, v ≠ .obj es := by
      simpa [ObjectOrNone] using hcustom
    exact states_laidValue_iff_of_custom hv mid stored

/-- Over another value no object is laid, and that value counts if no custom one takes its
    place. -/
theorem states_laidValue_iff_of_not_object {old : Json} (hold : ∀ es, old ≠ .obj es)
    (custom : Option Json) :
    (∃ v, laidValue (some old) custom = .ok v ∧ (v.getD .null).StatesEntries) ↔
      ¬ Unusable (some old) custom := by
  cases custom with
  | none =>
    simp only [laidValue, Except.ok.injEq, exists_eq_left', Option.getD_some]
    constructor
    · rintro hstates (_ | _ | hnot)
      exact hnot hstates
    · intro husable
      exact not_not.1 fun hnot => husable (.stored hnot)
  | some v =>
    by_cases hobject : ∃ new, v = .obj new
    · obtain ⟨new, rfl⟩ := hobject
      rw [laidValue_clash hold]
      exact iff_of_false (by simp) (not_not_intro (.clash hold))
    · exact states_laidValue_iff_of_custom (by simpa using hobject) (some old) (some old)

/-- The values of both sources laid over an object, or over nothing, are read as entries unless
    they are unusable. -/
theorem exists_laidValue_iff {base : Option Json} (h : ObjectOrNone base)
    (stored custom : Option Json) :
    (∃ mid, laidValue base stored = .ok mid ∧ ∃ v, laidValue mid custom = .ok v ∧
      (v.getD .null).StatesEntries) ↔ ¬ Unusable stored custom := by
  by_cases hstored : ObjectOrNone stored
  · obtain ⟨mid, hmid, hobject⟩ := exists_laidValue h hstored
    simp only [hmid, Except.ok.injEq, exists_eq_left']
    exact hobject.states_laidValue_iff hstored custom
  · obtain ⟨old, rfl, hold⟩ : ∃ old, stored = some old ∧ ∀ es, old ≠ .obj es := by
      simpa [ObjectOrNone] using hstored
    simp only [laidValue_of_not_object hold, Except.ok.injEq, exists_eq_left']
    exact states_laidValue_iff_of_not_object hold custom

theorem exists_merge_iff (base : List (String × Json)) {upper : List (String × Json)}
    (h : (upper.map (·.1)).Nodup) (P : Option Json → Prop) :
    (∃ es, merge base upper = .ok es ∧ P (Entries.get? languageKey es)) ↔
      ∃ v, laidValue (Entries.get? languageKey base) (Entries.get? languageKey upper) = .ok v ∧
        P v := by
  rw [← get?_merge h]
  cases merge base upper <;> simp [Except.map]

theorem exists_ofEntries_iff {es : List (String × Json)} :
    (∃ s, ofEntries es = .ok s) ↔ ((Entries.get? languageKey es).getD .null).StatesEntries := by
  rw [← Json.exists_entriesOf_iff, ofEntries]
  constructor
  · rintro ⟨s, hs⟩
    obtain ⟨p, hp, -⟩ := exists_of_bind_eq_ok hs
    exact ⟨p, hp⟩
  · rintro ⟨p, hp⟩
    rw [hp]
    exact ⟨_, rfl⟩

/-- **When settings are made of entries**: if and only if what both sources state for
    `language_config` is usable. -/
theorem exists_combine_iff {stored custom : List (String × Json)}
    (hstored : (stored.map (·.1)).Nodup) (hcustom : (custom.map (·.1)).Nodup)
    (language : String) :
    (∃ s, combine language stored custom = .ok s) ↔
      ¬ Unusable (Entries.get? languageKey stored) (Entries.get? languageKey custom) := by
  have hdefaults : ObjectOrNone (Entries.get? languageKey (defaultsFor language)) := by
    intro v hv
    obtain ⟨es, hes, -⟩ := (isSource_defaultsFor language).language v hv
    exact ⟨es, hes⟩
  have hread : ∀ mid, (∃ es, merge mid custom = .ok es ∧ ∃ s, ofEntries es = .ok s) ↔
      ∃ v, laidValue (Entries.get? languageKey mid) (Entries.get? languageKey custom) = .ok v ∧
        (v.getD .null).StatesEntries := by
    intro mid
    rw [← exists_merge_iff mid hcustom fun v => (v.getD .null).StatesEntries]
    simp only [exists_ofEntries_iff]
  calc (∃ s, combine language stored custom = .ok s)
      ↔ ∃ mid, merge (defaultsFor language) stored = .ok mid ∧
          ∃ es, merge mid custom = .ok es ∧ ∃ s, ofEntries es = .ok s := by
        constructor
        · rintro ⟨s, hs⟩
          obtain ⟨mid, hmid, hrest⟩ := exists_of_bind_eq_ok hs
          obtain ⟨es, hes, hs⟩ := exists_of_bind_eq_ok hrest
          exact ⟨mid, hmid, es, hes, s, hs⟩
        · rintro ⟨mid, hmid, es, hes, s, hs⟩
          exact ⟨s, by simp only [combine, hmid, bind, Except.bind, hes, hs]⟩
    _ ↔ ∃ mid, merge (defaultsFor language) stored = .ok mid ∧
          ∃ v, laidValue (Entries.get? languageKey mid) (Entries.get? languageKey custom) =
            .ok v ∧ (v.getD .null).StatesEntries := by simp only [hread]
    _ ↔ ∃ mid, laidValue (Entries.get? languageKey (defaultsFor language))
          (Entries.get? languageKey stored) = .ok mid ∧
          ∃ v, laidValue mid (Entries.get? languageKey custom) = .ok v ∧
            (v.getD .null).StatesEntries :=
        exists_merge_iff _ hstored fun mid =>
          ∃ v, laidValue mid (Entries.get? languageKey custom) = .ok v ∧
            (v.getD .null).StatesEntries
    _ ↔ ¬ Unusable (Entries.get? languageKey stored) (Entries.get? languageKey custom) :=
        exists_laidValue_iff hdefaults _ _

/-! ## Loading -/

variable {files : Files} {file text : String}

/-- What is said of a file that is there: its text is beyond the limits, or it holds no object,
    or it holds one. -/
theorem configFile_cases (hjson : (Path.ofString file).isJson = true)
    (htext : files.read (Path.ofString file) = .ok text) :
    (Json.BeyondLimits text ∧ ∃ o, configFile files file = .error (.obstacle o)) ∨
      (¬ Json.BeyondLimits text ∧ (∀ es, Json.read text ≠ .ok (.obj es)) ∧
        ∃ e, configFile files file = .error (.config e)) ∨
      ∃ stored, Json.read text = .ok (.obj stored) ∧ configFile files file = .ok stored := by
  unfold configFile
  dsimp only
  rw [Files.exists_of_read htext]
  dsimp only
  rw [hjson, htext, if_neg (by simp)]
  dsimp only
  cases hvalue : Json.read text with
  | error e =>
    dsimp only
    rcases Obstacle.ofRead?_of_read hvalue with ⟨hnone, hbeyond⟩ | ⟨hsome, hbeyond⟩
    · rw [hnone]
      exact .inr (.inl ⟨hbeyond, by simp, _, rfl⟩)
    · rw [hsome]
      exact .inl ⟨hbeyond, _, rfl⟩
  | ok v =>
    cases v with
    | obj stored => exact .inr (.inr ⟨stored, rfl, rfl⟩)
    | null | bool _ | int _ | float _ | str _ | arr _ =>
      exact .inr (.inl ⟨fun hbeyond => hbeyond.read_ne_ok _ hvalue, by simp, _, rfl⟩)

theorem loadSettings_of_configFile_error {e : ConfigFailure} (hne : file.isEmpty = false)
    (h : configFile files file = .error e) (language : String) (custom : List (String × Json)) :
    loadSettings files language custom (some file) = .error e := by
  simp only [loadSettings, hne, h]
  rfl

/-- **When settings are loaded or refused with a `ConfigError`**, for a file that is there: if
    and only if its text is not beyond the limits and what it and the custom entries state for
    `language_config` is usable. -/
theorem loaded_or_configError_iff {custom : List (String × Json)}
    (hjson : (Path.ofString file).isJson = true)
    (htext : files.read (Path.ofString file) = .ok text) (hcustom : (custom.map (·.1)).Nodup)
    (language : String) :
    ((∃ s, loadSettings files language custom (some file) = .ok s) ∨
        ∃ e, loadSettings files language custom (some file) = .error (.config e)) ↔
      ¬ (Json.BeyondLimits text ∨ ∃ stored, Json.read text = .ok (.obj stored) ∧
        Unusable (Entries.get? languageKey stored) (Entries.get? languageKey custom)) := by
  have hne : file.isEmpty = false := by
    rw [Bool.eq_false_iff]
    intro hempty
    rw [String.isEmpty_iff.1 hempty] at hjson
    cases hjson
  rcases configFile_cases hjson htext with ⟨hbeyond, o, ho⟩ | ⟨hbeyond, hobject, e, he⟩ |
    ⟨stored, hread, hstored⟩
  · rw [loadSettings_of_configFile_error hne ho]
    exact iff_of_false (by simp) (not_not_intro (.inl hbeyond))
  · rw [loadSettings_of_configFile_error hne he]
    refine iff_of_true (.inr ⟨e, rfl⟩) ?_
    rintro (h | ⟨stored, hread, -⟩)
    · exact hbeyond h
    · exact hobject stored hread
  · have hnodup : (stored.map (·.1)).Nodup := (Json.wellKeyed_of_read hread).nodup
    have hbeyond : ¬ Json.BeyondLimits text := fun h => h.read_ne_ok _ hread
    rw [loadSettings_of_configFile hstored]
    simp only [hread, Except.ok.injEq, Json.obj.injEq, exists_eq_left', hbeyond, false_or,
      ← exists_combine_iff hnodup hcustom language]
    cases combine language stored custom <;> simp [Except.mapError]

/-! ### A text for the settings of a language -/

/-- A file that states a text for `language_config`. -/
def textFiles : Files := [(["codegen.json"], "\x7b\"language_config\": \"fast\"\x7d")]

/-- Custom entries that state a list of pairs there. -/
def pairCustom : List (String × Json) := [("language_config", .arr [.str "ab"])]

theorem read_textFile : Json.read "\x7b\"language_config\": \"fast\"\x7d" =
    .ok (.obj [("language_config", .str "fast")]) := by
  simp [Json.read, Json.readValue, Json.readEntries, Json.readString, Json.Rest.skip,
    Json.Rest.next, Json.isSpace, Json.maxDepth, bind, Except.bind, pure, Except.pure,
    Except.mapError, Entries.ofPairs, Entries.putAll, Entries.put]

theorem loaded_or_configError_iff_pairCustom :
    (Path.ofString "codegen.json").isJson = true ∧
      textFiles.read (Path.ofString "codegen.json") =
        .ok "\x7b\"language_config\": \"fast\"\x7d" ∧
      (pairCustom.map (·.1)).Nodup ∧
      ((∃ s, loadSettings textFiles "python" pairCustom (some "codegen.json") = .ok s) ∨
        ∃ e, loadSettings textFiles "python" pairCustom (some "codegen.json") =
          .error (.config e)) := by
  have hjson : (Path.ofString "codegen.json").isJson = true := by decide +kernel
  have htext : textFiles.read (Path.ofString "codegen.json") =
      .ok "\x7b\"language_config\": \"fast\"\x7d" := by rfl
  have hcustom : (pairCustom.map (·.1)).Nodup := by decide
  refine ⟨hjson, htext, hcustom, (loaded_or_configError_iff hjson htext hcustom "python").2 ?_⟩
  have hstates : (Json.arr [.str "ab"]).StatesEntries := by
    refine .pairs fun x hx => ?_
    rw [List.mem_singleton.1 hx]
    exact .text rfl
  rintro (hbeyond | ⟨stored, -, hunusable⟩)
  · exact hbeyond.read_ne_ok _ read_textFile
  · -- the custom value takes the place of the one in the file
    change Unusable _ (some (.arr [.str "ab"])) at hunusable
    generalize Entries.get? languageKey stored = v at hunusable
    cases hunusable with
    | custom h => exact h hstates

/-- Bad values can stop loading settings without a `ConfigError`. -/
theorem exists_stopping_config : ¬ ∀ (files : Files) (language file text : String)
    (custom : List (String × Json)), (Path.ofString file).isJson = true →
    files.read (Path.ofString file) = .ok text → (custom.map (·.1)).Nodup →
    (∃ s, loadSettings files language custom (some file) = .ok s) ∨
      ∃ e, loadSettings files language custom (some file) = .error (.config e) := by
  intro h
  have hloaded := h textFiles "python" "codegen.json" _ [] (by decide +kernel) rfl (by simp)
  have hfile : configFile textFiles "codegen.json" = .ok [("language_config", .str "fast")] :=
    configFile_of_read (by rfl) (by decide +kernel) (by rfl) read_textFile
  rw [loadSettings_of_configFile hfile] at hloaded
  rcases hloaded with ⟨s, hs⟩ | ⟨e, he⟩
  · cases hs
  · cases he

end Settings

end CodecForge
