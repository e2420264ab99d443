/-
  CodecForge — dropping a language undoes its registration.

  * `not_conflict_of_addAliases`: aliases that are entered are in conflict with nothing that was
    there, so those of a new language are new names (`supports_eq_false`), and new names are
    never refused (`registers_iff`);
  * `unregister_entered`: what is dropped with the language is what was entered with it;
  * `unregister_register` says so of every registry that requests lead to.
-/
import CodecForge.Proofs.Registry.Resolution

namespace CodecForge.Registry

variable {r r' : Registry} {key : String}

/-! ## Aliases that are entered -/

/-- An alias in conflict is refused without `replace`. -/
theorem addAlias_of_conflict {a : String} {e : RegistryError} (h : Conflict r key a e) :
    addAlias key false a r = .error e r := by
  simp only [addAlias, bind, EStateM.bind, get, getThe, MonadStateOf.get, EStateM.get]
  cases h with
  | language hne hlang =>
    rw [if_neg hne]
    simp only [hlang]
    rfl
  | taken hne hlang hget hother =>
    rw [if_neg hne]
    simp only [hlang, hget, ne_eq, hother, not_false_eq_true]
    rfl

/-- An alias that is not in conflict takes no conflict away. -/
theorem Conflict.withAliases {a b : String} {e : RegistryError} (h : Conflict r key b e)
    (ha : ∀ e, ¬ Conflict r key a e) : Conflict (r.withAliases key [a]) key b e := by
  by_cases hkey : Text.lowerString a = key
  · rwa [withAliases_self hkey]
  rw [withAliases_single hkey]
  cases h with
  | language hne hlang => exact .language hne hlang
  | taken hne hlang hget hother =>
    refine .taken hne hlang ?_ hother
    rw [Entries.get?_put, if_neg, hget]
    intro hab
    exact ha _ (.taken hkey (hab ▸ hlang) (hab ▸ hget) hother)

/-- Aliases that are entered without `replace` were in conflict with nothing. -/
theorem not_conflict_of_addAliases {as : List String}
    (h : as.forM (addAlias key false) r = .ok () r') :
    ∀ a ∈ as, ∀ e, ¬ Conflict r key a e := by
  induction as generalizing r with
  | nil => simp
  | cons a as ih =>
    have hstep : (a :: as).forM (addAlias key false) r =
        (addAlias key false a >>= fun _ => as.forM (addAlias key false)) r := rfl
    rw [hstep] at h
    simp only [bind, EStateM.bind] at h
    have ha : ∀ e, ¬ Conflict r key a e := by
      intro e hconflict
      rw [addAlias_of_conflict hconflict] at h
      cases h
    rcases addAlias_cases key false a r with hok | ⟨-, e, hconflict, -⟩
    · rw [hok] at h
      refine List.forall_mem_cons.2 ⟨ha, fun b hb e hconflict => ?_⟩
      exact ih h b hb e (hconflict.withAliases ha)
    · exact absurd hconflict (ha e)

/-- What is not passed over is entered, and then its aliases. -/
theorem register_of_enters {language : String} {as : List String} {replace : Bool}
    (h : (Entries.has (Text.lowerString language) r.generators && !replace) = false)
    (t : Target) : register language (.generator t) as replace r =
      as.forM (addAlias (Text.lowerString language) replace)
        (r.withGenerator (Text.lowerString language) t) := by
  simp only [register, bind, EStateM.bind, get, getThe, MonadStateOf.get, EStateM.get, h]
  rfl

/-! ## New languages -/

/-- An alias of a new language that is in conflict with nothing is a new name. -/
theorem supports_eq_false (hknown : r.AliasesKnown)
    (hnew : Entries.has key r.generators = false) {t : Target} {a : String}
    (ha : ∀ e, ¬ Conflict (r.withGenerator key t) key a e) (hne : Text.lowerString a ≠ key) :
    r.supports a = false := by
  have hlang : Entries.has (Text.lowerString a) (r.withGenerator key t).generators = false := by
    by_contra hlang
    exact ha _ (.language hne (Bool.eq_true_of_not_eq_false hlang))
  have halias : Entries.has (Text.lowerString a) r.aliases = false := by
    by_contra halias
    obtain ⟨other, hget⟩ :=
      Option.isSome_iff_exists.1 (Bool.eq_true_of_not_eq_false halias)
    have hother : other ≠ key := by
      rintro rfl
      exact Bool.false_ne_true (hnew.symm.trans (hknown _ (Entries.mem_of_get? hget)))
    exact ha _ (.taken hne hlang hget hother)
  rw [withGenerator, Entries.has_put, Bool.or_eq_false_iff] at hlang
  rw [supports, hlang.2, halias]
  rfl

/-- An alias in conflict while the aliases of a language are entered was known before. -/
theorem Conflict.supports {t : Target} {before : List String} {a : String} {e : RegistryError}
    (h : Conflict ((r.withGenerator key t).withAliases key before) key a e) :
    Text.lowerString a ≠ key ∧ r.supports a = true := by
  cases h with
  | language hne hlang =>
    have hlang : Entries.has (Text.lowerString a) (Entries.put key t r.generators) = true := hlang
    rw [Entries.has_put, decide_eq_false (Ne.symm hne), Bool.false_or] at hlang
    exact ⟨hne, by rw [Registry.supports, hlang]; rfl⟩
  | taken hne _ hget hother =>
    refine ⟨hne, ?_⟩
    rcases Entries.mem_putAll (Entries.mem_of_get? hget) with hmem | hmem
    · have halias : Entries.has (Text.lowerString a) r.aliases = true :=
        Entries.has_iff_mem.2 (List.mem_map_of_mem hmem)
      rw [Registry.supports, halias, Bool.or_true]
    · obtain ⟨b, -, hb⟩ := List.mem_map.1 hmem
      exact absurd (congrArg Prod.snd hb).symm hother

/-- **When a new language is registered.**  After any requests, a language that is not listed is
    registered without `replace` exactly if none of its aliases is known, its own name aside. -/
theorem registers_iff (requests : List Request) {language : String}
    (hnew : Text.lowerString language ∉ (after requests).languages) (t : Target)
    (as : List String) :
    (∃ r, register language (.generator t) as false (after requests) = .ok () r) ↔
      ∀ a ∈ as, Text.lowerString a ≠ Text.lowerString language →
        (after requests).supports a = false := by
  have hknown := aliasesKnown_after requests
  generalize after requests = before at hnew hknown ⊢
  rw [mem_languages, Bool.not_eq_true] at hnew
  rw [register_of_enters (by rw [hnew]; rfl)]
  constructor
  · rintro ⟨r, h⟩ a ha hne
    exact supports_eq_false hknown hnew (not_conflict_of_addAliases h a ha) hne
  · intro h
    rcases addAliases_cases (Text.lowerString language) false as (before.withGenerator _ t) with
      hok | ⟨-, _, a, _, _, rfl, hconflict, -⟩
    · exact ⟨_, hok⟩
    · obtain ⟨hne, hsupports⟩ := hconflict.supports
      exact absurd (h a (by simp) hne) (by simp [hsupports])

/-- With a new language its generator and its aliases are dropped, and nothing else. -/
theorem unregister_entered (hknown : r.AliasesKnown)
    (hnew : Entries.has key r.generators = false) {t : Target} {as : List String}
    (has : ∀ a ∈ as, Text.lowerString a ≠ key → r.supports a = false)
    {language : String} (hkey : Text.lowerString language = key) :
    ((r.withGenerator key t).withAliases key as).unregister language = r := by
  have hgenerators : key ∉ r.generators.map (·.1) := by
    rw [← Entries.has_iff_mem, hnew]
    exact Bool.false_ne_true
  have hfresh : ∀ e ∈ aliasEntries key as, e.1 ∉ r.aliases.map (·.1) := by
    intro e he
    obtain ⟨b, hb, rfl⟩ := List.mem_map.1 he
    obtain ⟨hb, hne⟩ := List.mem_filter.1 hb
    obtain ⟨a, ha, rfl⟩ := List.mem_map.1 hb
    have hunknown := has a ha (by simpa using hne)
    rw [supports, Bool.or_eq_false_iff] at hunknown
    rw [← Entries.has_iff_mem, hunknown.2]
    exact Bool.false_ne_true
  have hentries : ∀ e ∈ Entries.ofPairs (aliasEntries key as), e.2 = key := by
    refine Entries.forall_ofPairs (P := (· = key)) fun e he => ?_
    obtain ⟨b, -, rfl⟩ := List.mem_map.1 he
    rfl
  have hkept : ∀ e ∈ r.aliases, e.2 ≠ key := by
    intro e he hekey
    exact Bool.false_ne_true (hnew.symm.trans (hekey ▸ hknown e he))
  obtain ⟨generators, aliases⟩ := r
  unfold unregister withAliases withGenerator
  dsimp only at *
  rw [hkey, Entries.put_of_notMem hgenerators, Entries.putAll_of_notMem hfresh, Entries.erase,
    List.filter_append, List.filter_append]
  congr 1
  · rw [List.filter_eq_self.2, List.filter_cons_of_neg (by simp), List.filter_nil,
      List.append_nil]
    intro e he
    have hne : e.1 ≠ key := by
      rintro rfl
      exact hgenerators (List.mem_map_of_mem he)
    simpa using hne
  · rw [List.filter_eq_self.2 (by simpa using hkept), List.filter_eq_nil_iff.2, List.append_nil]
    simpa using hentries

/-- **Dropping a language undoes its registration.**  After any requests, a language that is not
    listed is registered without `replace`.  If that is not refused, dropping the language, in
    whatever letters it is written, leaves the registry as it was before. -/
theorem unregister_register (requests : List Request) {language spelled : String}
    (hnew : Text.lowerString language ∉ (after requests).languages) {c : Candidate}
    {as : List String} {r : Registry}
    (h : register language c as false (after requests) = .ok () r)
    (hspelled : Text.lowerString spelled = Text.lowerString language) :
    r.unregister spelled = after requests := by
  have hknown := aliasesKnown_after requests
  generalize after requests = before at hnew h hknown ⊢
  have hlang : Entries.has (Text.lowerString language) before.generators = false := by
    rwa [mem_languages, Bool.not_eq_true] at hnew
  cases c with
  | notGenerator => cases h
  | generator t =>
    rw [register_of_enters (by rw [hlang]; rfl)] at h
    have hfree := not_conflict_of_addAliases h
    rcases addAliases_cases (Text.lowerString language) false as (before.withGenerator _ t) with
      hok | ⟨-, _, _, _, _, -, -, herror⟩
    · cases hok.symm.trans h
      exact unregister_entered hknown hlang
        (fun a ha => supports_eq_false hknown hlang (hfree a ha)) hspelled
    · cases herror.symm.trans h

/-- Swift with an alias that stands twice among those given, and with its own name. -/
theorem unregister_register_swift : ∃ r,
    Text.lowerString "Swift" ∉ (after pythonFirst).languages ∧
    register "Swift" (.generator .swift) ["SwiftLang", "swift", "swiftlang"] false
      (after pythonFirst) = .ok () r ∧
    r.aliases = [("py", "python"), ("swiftlang", "swift")] ∧
    r.unregister "SWIFT" = after pythonFirst := by
  have hnew : Text.lowerString "Swift" ∉ (after pythonFirst).languages := by
    rw [mem_languages]
    decide +kernel
  have h : register "Swift" (.generator .swift) ["SwiftLang", "swift", "swiftlang"] false
      (after pythonFirst) = .ok () ⟨[("python", .python), ("swift", .swift)],
        [("py", "python"), ("swiftlang", "swift")]⟩ := by rfl
  exact ⟨_, hnew, h, rfl, unregister_register pythonFirst hnew h (by decide +kernel)⟩

end CodecForge.Registry
