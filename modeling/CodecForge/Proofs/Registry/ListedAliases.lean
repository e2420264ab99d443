/-
  CodecForge — listed aliases resolve to their language.

  Names and aliases are looked up together, names first.  So a listed alias resolves to its
  language unless it is the name of a language itself.

  * `Regular` registries have names and aliases in lower case, and every alias once; all
    registries that requests lead to are regular (`regular_after`);
  * `AliasesApart`: no alias is the name of a language.  `Request.Overlaps` are the requests
    that end it, and the only ones (`aliasesApart_step_iff`): a language under the name of an
    alias is registered without a look at the aliases, and with `replace` an alias is entered
    without a look at the languages;
  * `resolve_listed_iff` puts these together, `listedResolve_after` is the run lemma.
-/
import CodecForge.Proofs.Registry.Restoration
import CodecForge.Proofs.Text.LowerCase

namespace CodecForge.Registry

variable {r : Registry} {key : String}

/-! ## What a registration leaves -/

/-- A registration leaves the registry as it was, or with the generator and the first of the
    aliases, with `replace` all of them. -/
theorem step_register_cases (r : Registry) (language : String) (c : Candidate)
    (as : List String) (replace : Bool) :
    r.step (.register language c as replace) = r ∧
      (c = .notGenerator ∨
        replace = false ∧ Entries.has (Text.lowerString language) r.generators = true) ∨
    ∃ t before, c = .generator t ∧ (replace = true → before = as) ∧
      r.step (.register language c as replace) =
        (r.withGenerator (Text.lowerString language) t).withAliases (Text.lowerString language)
          before := by
  have hreg := registered_register r language c as replace
  change (r.changed (register language c as replace)).2 = r ∧ _ ∨
    ∃ t before, _ ∧ _ ∧ (r.changed (register language c as replace)).2 = _
  unfold changed
  generalize register language c as replace r = result at hreg ⊢
  cases hreg with
  | notGenerator => exact .inl ⟨rfl, .inl rfl⟩
  | passedOver t _ hlang => exact .inl ⟨rfl, .inr ⟨rfl, hlang⟩⟩
  | entered t => exact .inr ⟨t, as, rfl, fun _ => rfl, rfl⟩
  | @stopped t before => exact .inr ⟨t, before, rfl, nofun, rfl⟩

/-! ## Regular registries -/

/-- Names and aliases are in lower case, an alias stands once, and none points to itself. -/
structure Regular (r : Registry) : Prop where
  languages : ∀ g ∈ r.generators, Text.lowerString g.1 = g.1
  aliases : ∀ a ∈ r.aliases, Text.lowerString a.1 = a.1 ∧ a.1 ≠ a.2
  nodup : (r.aliases.map (·.1)).Nodup

theorem Regular.withGenerator (h : r.Regular) (hkey : Text.lowerString key = key) (t : Target) :
    (r.withGenerator key t).Regular where
  languages := by
    intro g hg
    rcases Entries.mem_put hg with rfl | hg
    · exact hkey
    · exact h.languages g hg
  aliases := h.aliases
  nodup := h.nodup

theorem Regular.withAliases (h : r.Regular) (key : String) (as : List String) :
    (r.withAliases key as).Regular where
  languages := h.languages
  aliases := by
    intro e he
    rcases Entries.mem_putAll he with he | he
    · exact h.aliases e he
    · obtain ⟨b, hb, rfl⟩ := List.mem_map.1 he
      obtain ⟨hb, hne⟩ := List.mem_filter.1 hb
      obtain ⟨a, -, rfl⟩ := List.mem_map.1 hb
      exact ⟨Text.lowerString_lowerString a, by simpa using hne⟩
  nodup := Entries.nodup_keys_putAll _ h.nodup

theorem Regular.step (h : r.Regular) (request : Request) : (r.step request).Regular := by
  cases request with
  | register language c as replace =>
    rcases step_register_cases r language c as replace with
      ⟨heq, -⟩ | ⟨t, before, -, -, heq⟩
    · rwa [heq]
    · rw [heq]
      exact (h.withGenerator (Text.lowerString_lowerString language) t).withAliases _ _
  | unregister language =>
    refine ⟨fun g hg => h.languages g (List.mem_filter.1 hg).1,
      fun a ha => h.aliases a (List.mem_filter.1 ha).1, ?_⟩
    exact h.nodup.sublist (List.filter_sublist.map _)

theorem regular_after (requests : List Request) : (after requests).Regular := by
  have hrun : ∀ {r : Registry}, r.Regular → (requests.foldl Registry.step r).Regular := by
    induction requests with
    | nil => exact id
    | cons request requests ih => exact fun h => ih (h.step request)
  exact hrun ⟨nofun, nofun, List.nodup_nil⟩

/-! ## Listed aliases -/

theorem mem_aliasesOf {l a : String} :
    a ∈ r.aliasesOf l ↔ (a, Text.lowerString l) ∈ r.aliases := by
  simp [aliasesOf, sorted]

/-- A listed alias resolves to itself if it is the name of a language, and to the language it
    points to if it is not. -/
theorem Regular.resolve_alias (h : r.Regular) {a : String × String} (ha : a ∈ r.aliases) :
    r.resolve a.1 = .ok (if Entries.has a.1 r.generators then a.1 else a.2) := by
  rw [resolve, (h.aliases a ha).1, Entries.get?_of_mem h.nodup ha]
  split <;> rfl

/-- Every listed alias of a language resolves to the language. -/
def ListedResolve (r : Registry) : Prop :=
  ∀ l, Text.lowerString l ∈ r.languages →
    ∀ a ∈ r.aliasesOf l, r.resolve a = .ok (Text.lowerString l)

/-- No alias is the name of a language. -/
def AliasesApart (r : Registry) : Prop := ∀ a ∈ r.aliases, Entries.has a.1 r.generators = false

theorem Regular.resolve_listed (h : r.Regular) {l a : String} (ha : a ∈ r.aliasesOf l) :
    (r.resolve a = .ok (Text.lowerString l) ↔ a ∉ r.languages) ∧
      (a ∈ r.languages → r.resolve a = .ok a) := by
  rw [mem_aliasesOf] at ha
  have hresolve := h.resolve_alias ha
  have hne := (h.aliases _ ha).2
  dsimp only at hresolve hne
  rw [mem_languages, hresolve]
  cases Entries.has a r.generators with
  | true => simp [hne]
  | false => simp

theorem Regular.listedResolve_iff (h : r.Regular) (hknown : r.AliasesKnown) :
    r.ListedResolve ↔ r.AliasesApart := by
  constructor
  · intro hlisted a ha
    have hlang := hknown a ha
    obtain ⟨g, hg, hga⟩ := List.mem_map.1 (Entries.has_iff_mem.1 hlang)
    have hlower : Text.lowerString a.2 = a.2 := hga ▸ h.languages g hg
    have hmem : a.1 ∈ r.aliasesOf a.2 := by
      rw [mem_aliasesOf, hlower]
      exact ha
    have hresolve := hlisted a.2 (by rwa [hlower, mem_languages]) a.1 hmem
    rw [(h.resolve_listed hmem).1, mem_languages] at hresolve
    exact Bool.eq_false_of_not_eq_true hresolve
  · intro hapart l _ a ha
    rw [(h.resolve_listed ha).1, mem_languages, hapart _ (mem_aliasesOf.1 ha)]
    exact Bool.false_ne_true

/-! ## Requests that let names overlap -/

/-- A request registers a language under the name of an alias, or, with `replace`, a language
    with the name of another one as its alias. -/
inductive Request.Overlaps (r : Registry) : Request → Prop
  | language {language : String} {t : Target} {as : List String} {replace : Bool}
      (h : Entries.has (Text.lowerString language) r.aliases = true) :
      Overlaps r (.register language (.generator t) as replace)
  | replacing {language a : String} {t : Target} {as : List String} (ha : a ∈ as)
      (hne : Text.lowerString a ≠ Text.lowerString language)
      (h : Entries.has (Text.lowerString a) r.generators = true) :
      Overlaps r (.register language (.generator t) as true)

theorem AliasesApart.withAlias (h : r.AliasesApart) {a : String}
    (ha : Text.lowerString a ≠ key → Entries.has (Text.lowerString a) r.generators = false) :
    (r.withAliases key [a]).AliasesApart := by
  by_cases hkey : Text.lowerString a = key
  · rwa [withAliases_self hkey]
  rw [withAliases_single hkey]
  intro e he
  rcases Entries.mem_put he with rfl | he
  · exact ha hkey
  · exact h e he

/-- Entering aliases keeps them apart from languages: without `replace` they are looked for
    among these. -/
theorem AliasesApart.addAliases (h : r.AliasesApart) {replace : Bool} {as : List String}
    (has : replace = true → ∀ a ∈ as, Text.lowerString a ≠ key →
      Entries.has (Text.lowerString a) r.generators = false) :
    (r.changed (as.forM (addAlias key replace))).2.AliasesApart := by
  induction as generalizing r with
  | nil => exact h
  | cons a as ih =>
    have hstep : r.changed ((a :: as).forM (addAlias key replace)) =
        r.changed (addAlias key replace a >>= fun _ => as.forM (addAlias key replace)) := rfl
    rw [hstep, changed]
    simp only [bind, EStateM.bind]
    rcases addAlias_cases key replace a r with hok | ⟨-, e, -, herror⟩
    · rw [hok]
      refine ih (h.withAlias fun hne => ?_) fun hreplace b hb =>
        has hreplace b (List.mem_cons_of_mem a hb)
      cases replace with
      | true => exact has rfl a List.mem_cons_self hne
      | false =>
        by_contra hlang
        rw [Bool.not_eq_false] at hlang
        have herror := addAlias_of_conflict (.language hne hlang)
        cases hok.symm.trans herror
    · rw [herror]
      exact h

/-- A language whose name is no alias stands apart from the aliases. -/
theorem AliasesApart.withGenerator (h : r.AliasesApart)
    (hkey : Entries.has key r.aliases = false) (t : Target) :
    (r.withGenerator key t).AliasesApart := by
  intro a ha
  have hne : key ≠ a.1 := by
    rintro rfl
    exact Bool.false_ne_true
      (hkey.symm.trans (Entries.has_iff_mem.2 (List.mem_map_of_mem ha)))
  rw [Registry.withGenerator, Entries.has_put, h a ha, decide_eq_false hne]
  rfl

/-- What a request that lets names overlap leaves has an alias that is a language. -/
theorem Request.Overlaps.not_aliasesApart {request : Request} (ho : request.Overlaps r)
    (h : r.AliasesApart) : ¬ (r.step request).AliasesApart := by
  -- an alias of the registry after the request that is one of its languages
  suffices ∃ name, Entries.has name (r.step request).aliases = true ∧
      Entries.has name (r.step request).generators = true by
    obtain ⟨name, halias, hlang⟩ := this
    intro hapart
    obtain ⟨a, ha, rfl⟩ := List.mem_map.1 (Entries.has_iff_mem.1 halias)
    exact Bool.false_ne_true ((hapart a ha).symm.trans hlang)
  cases ho with
  | @language language t as replace halias =>
    refine ⟨Text.lowerString language, ?_⟩
    obtain ⟨a, ha, hname⟩ := List.mem_map.1 (Entries.has_iff_mem.1 halias)
    have hlang := hname ▸ h a ha
    rcases step_register_cases r language (.generator t) as replace with
      ⟨-, hc | ⟨-, hthere⟩⟩ | ⟨t', before, -, -, heq⟩
    · cases hc
    · exact absurd (hlang.symm.trans hthere) Bool.false_ne_true
    · rw [heq]
      simp [Registry.withAliases, Registry.withGenerator, Entries.has_putAll, Entries.has_put,
        halias]
  | @replacing language a t as ha hne hlang =>
    refine ⟨Text.lowerString a, ?_⟩
    have hentry : Entries.has (Text.lowerString a)
        (aliasEntries (Text.lowerString language) as) = true := by
      rw [Entries.has_iff_mem]
      refine List.mem_map.2 ⟨(Text.lowerString a, Text.lowerString language), ?_, rfl⟩
      refine List.mem_map_of_mem (List.mem_filter.2 ⟨List.mem_map_of_mem ha, ?_⟩)
      simpa using hne
    rcases step_register_cases r language (.generator t) as true with
      ⟨-, hc | ⟨hreplace, -⟩⟩ | ⟨t', before, -, hall, heq⟩
    · cases hc
    · cases hreplace
    · rw [heq, hall rfl]
      simp [Registry.withAliases, Registry.withGenerator, Entries.has_putAll, Entries.has_put,
        hentry, hlang]

/-- **The requests that let names overlap.** -/
theorem aliasesApart_step_iff (h : r.AliasesApart) (request : Request) :
    (r.step request).AliasesApart ↔ ¬ request.Overlaps r := by
  refine ⟨fun hstep ho => ho.not_aliasesApart h hstep, fun ho => ?_⟩
  cases request with
  | unregister language =>
    intro a ha
    have hlang := h a (List.mem_filter.1 ha).1
    rw [Bool.eq_false_iff, ne_eq, Entries.has_iff_mem] at hlang ⊢
    exact fun hmem => hlang ((List.filter_sublist.map _).subset hmem)
  | register language c as replace =>
    cases c with
    | notGenerator => exact h
    | generator t =>
      cases hpassed : Entries.has (Text.lowerString language) r.generators && !replace with
      | true =>
        rw [Bool.and_eq_true, Bool.not_eq_true'] at hpassed
        obtain ⟨hlang, rfl⟩ := hpassed
        rw [step, changed, register_of_has hlang]
        exact h
      | false =>
        have heq : r.changed (register language (.generator t) as replace) =
            (r.withGenerator (Text.lowerString language) t).changed
              (as.forM (addAlias (Text.lowerString language) replace)) := by
          unfold changed
          rw [register_of_enters hpassed]
        rw [step, heq]
        have halias : Entries.has (Text.lowerString language) r.aliases = false := by
          by_contra halias
          exact ho (.language (Bool.eq_true_of_not_eq_false halias))
        refine (h.withGenerator halias t).addAliases fun hreplace a ha hne => ?_
        subst hreplace
        rw [Registry.withGenerator, Entries.has_put, decide_eq_false (Ne.symm hne), Bool.false_or]
        by_contra hlang
        exact ho (.replacing ha hne (Bool.eq_true_of_not_eq_false hlang))

/-! ## After requests -/

theorem after_concat (requests : List Request) (request : Request) :
    after (requests ++ [request]) = (after requests).step request := by
  rw [after, List.foldl_concat]
  rfl

theorem listedResolve_after_iff (requests : List Request) :
    (after requests).ListedResolve ↔ (after requests).AliasesApart :=
  (regular_after requests).listedResolve_iff (aliasesKnown_after requests)

theorem listedResolve_concat_iff {requests : List Request}
    (h : (after requests).ListedResolve) (request : Request) :
    (after (requests ++ [request])).ListedResolve ↔ ¬ request.Overlaps (after requests) := by
  rw [listedResolve_after_iff] at h ⊢
  rw [after_concat]
  exact aliasesApart_step_iff h request

/-- **When listed aliases resolve to their language.**  After any requests, an alias that is
    listed for a language resolves to the language if and only if it is not the name of a
    language itself; then it resolves to that one.  If all listed aliases resolve to their
    languages, they do so after one more request if and only if it lets no names overlap. -/
theorem resolve_listed_iff (requests : List Request) :
    (∀ l, Text.lowerString l ∈ (after requests).languages →
      ∀ a ∈ (after requests).aliasesOf l,
        ((after requests).resolve a = .ok (Text.lowerString l) ↔ a ∉ (after requests).languages) ∧
        (a ∈ (after requests).languages → (after requests).resolve a = .ok a)) ∧
    ((after requests).ListedResolve → ∀ request : Request,
      (after (requests ++ [request])).ListedResolve ↔ ¬ request.Overlaps (after requests)) :=
  ⟨fun _ _ _ ha => (regular_after requests).resolve_listed ha,
    fun h request => listedResolve_concat_iff h request⟩

/-- After requests that let no names overlap all listed aliases resolve to their languages. -/
theorem listedResolve_after (requests : List Request)
    (h : ∀ before request rest, requests = before ++ request :: rest →
      ¬ request.Overlaps (after before)) : (after requests).ListedResolve := by
  induction requests using List.reverseRecOn with
  | nil => exact (listedResolve_after_iff []).2 nofun
  | append_singleton requests request ih =>
    have hrest : (after requests).ListedResolve := by
      refine ih fun before request' rest heq => h before request' (rest ++ [request]) ?_
      simp [heq]
    rw [listedResolve_concat_iff hrest]
    exact h requests request [] rfl

/-! ### A language under the name of an alias -/

/-- Swift under the name that is an alias of Python. -/
def swiftAsPy : Request := .register "py" (.generator .swift) [] false

theorem py_mem_aliasesOf : "py" ∈ (after (pythonFirst ++ [swiftAsPy])).aliasesOf "python" := by
  rw [mem_aliasesOf]
  decide +kernel

theorem python_mem_languages :
    Text.lowerString "python" ∈ (after (pythonFirst ++ [swiftAsPy])).languages := by
  rw [mem_languages]
  decide +kernel

/-- The alias of Python resolves to Swift then, and Swift under its own name takes nothing. -/
theorem resolve_listed_iff_py :
    (after (pythonFirst ++ [swiftAsPy])).resolve "py" = .ok "py" ∧
    (after pythonFirst).ListedResolve ∧
    ¬ (after (pythonFirst ++ [swiftAsPy])).ListedResolve ∧
    (after (pythonFirst ++ [.register "swift" (.generator .swift) [] false])).ListedResolve := by
  have hpy : "py" ∈ (after (pythonFirst ++ [swiftAsPy])).languages := by
    rw [mem_languages]
    decide +kernel
  have hfirst : (after pythonFirst).ListedResolve := by
    rw [listedResolve_after_iff]
    unfold AliasesApart
    decide +kernel
  refine ⟨((resolve_listed_iff _).1 _ python_mem_languages _ py_mem_aliasesOf).2 hpy, hfirst, ?_, ?_⟩
  · rw [(resolve_listed_iff pythonFirst).2 hfirst]
    exact not_not_intro (.language (by decide +kernel))
  · rw [(resolve_listed_iff pythonFirst).2 hfirst]
    intro ho
    cases ho with
    | language halias =>
      revert halias
      decide +kernel

/-- A listed alias may resolve to another language. -/
theorem exists_listed_elsewhere : ¬ ∀ (requests : List Request) (l a : String),
    Text.lowerString l ∈ (after requests).languages → a ∈ (after requests).aliasesOf l →
    (after requests).resolve a = .ok (Text.lowerString l) := by
  intro h
  have hresolve := h _ _ _ python_mem_languages py_mem_aliasesOf
  revert hresolve
  decide +kernel

end CodecForge.Registry
