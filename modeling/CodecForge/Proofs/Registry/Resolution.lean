/-
  CodecForge — supported languages are those that resolve.

  * `AliasesKnown`: every alias points to a registered language.  A registration keeps it
    however it ends (`AliasesKnown.register`), dropping a language keeps it because its
    aliases are dropped with it (`AliasesKnown.unregister`), hence it holds after all
    requests (`aliasesKnown_after`);
  * `supports_iff_resolves`: so a name or an alias is supported exactly if it resolves, to
    a language that is listed and has a generator.
-/
import CodecForge.Proofs.Registry.Registration

namespace CodecForge.Registry

variable {r : Registry}

/-- Every alias points to a registered language. -/
def AliasesKnown (r : Registry) : Prop := ∀ a ∈ r.aliases, Entries.has a.2 r.generators = true

theorem AliasesKnown.withGenerator (h : r.AliasesKnown) (key : String) (t : Target) :
    (r.withGenerator key t).AliasesKnown := by
  intro a ha
  rw [Registry.withGenerator, Entries.has_put, h a ha, Bool.or_true]

theorem AliasesKnown.withAliases (h : r.AliasesKnown) {key : String}
    (hkey : Entries.has key r.generators = true) (as : List String) :
    (r.withAliases key as).AliasesKnown := by
  refine Entries.forall_putAll (P := fun name => Entries.has name r.generators = true) ?_ h
  intro e he
  obtain ⟨a, -, rfl⟩ := List.mem_map.1 he
  exact hkey

theorem AliasesKnown.entered (h : r.AliasesKnown) (key : String) (t : Target) (as : List String) :
    ((r.withGenerator key t).withAliases key as).AliasesKnown := by
  refine (h.withGenerator key t).withAliases ?_ as
  simp [Registry.withGenerator, Entries.has_put]

/-- A registration keeps aliases known, also if it stops half-way. -/
theorem AliasesKnown.register (h : r.AliasesKnown) (language : String) (c : Candidate)
    (as : List String) (replace : Bool) :
    (r.changed (register language c as replace)).2.AliasesKnown := by
  have hreg := registered_register r language c as replace
  unfold changed
  generalize Registry.register language c as replace r = result at hreg ⊢
  cases hreg with
  | notGenerator | passedOver => exact h
  | entered t | stopped t => exact h.entered _ t _

/-- The aliases that are left point to other languages than the one that is dropped. -/
theorem AliasesKnown.unregister (h : r.AliasesKnown) (language : String) :
    (r.unregister language).AliasesKnown := by
  intro a ha
  obtain ⟨ha, hne⟩ := List.mem_filter.1 ha
  exact Entries.has_erase_of_ne (by simpa using hne) (h a ha)

theorem AliasesKnown.step (h : r.AliasesKnown) (request : Request) :
    (r.step request).AliasesKnown := by
  cases request with
  | register language c as replace => exact h.register language c as replace
  | unregister language => exact h.unregister language

theorem aliasesKnown_after (requests : List Request) : (after requests).AliasesKnown := by
  have hrun : ∀ {r : Registry}, r.AliasesKnown → (requests.foldl Registry.step r).AliasesKnown := by
    induction requests with
    | nil => exact id
    | cons request requests ih => exact fun h => ih (h.step request)
  exact hrun nofun

/-! ## Resolving -/

theorem mem_languages {name : String} :
    name ∈ r.languages ↔ Entries.has name r.generators = true := by
  rw [languages, sorted, List.mem_mergeSort, Entries.has_iff_mem]

theorem supports_iff {l : String} : r.supports l = true ↔ ∃ name, r.resolve l = .ok name := by
  simp only [supports, resolve]
  cases Entries.has (Text.lowerString l) r.generators with
  | true => simp
  | false => cases hget : Entries.get? (Text.lowerString l) r.aliases <;> simp [Entries.has, hget]

/-- What resolves is listed, if the aliases are known. -/
theorem AliasesKnown.resolve_mem (h : r.AliasesKnown) {l name : String}
    (hl : r.resolve l = .ok name) : name ∈ r.languages := by
  rw [mem_languages]
  unfold resolve at hl
  dsimp only at hl
  split at hl
  · next hlang =>
    cases hl
    exact hlang
  · split at hl
    · next hget =>
      cases hl
      exact h _ (Entries.mem_of_get? hget)
    · cases hl

theorem generatorFor_of_resolve {l name : String} (hl : r.resolve l = .ok name) :
    r.generatorFor l = .ok (Entries.get? name r.generators) := by
  rw [generatorFor, hl]
  rfl

theorem resolve_of_generatorFor {l : String} {t : Option Target} (ht : r.generatorFor l = .ok t) :
    ∃ name, r.resolve l = .ok name := by
  unfold generatorFor at ht
  cases hl : r.resolve l with
  | ok name => exact ⟨name, rfl⟩
  | error e =>
    rw [hl] at ht
    cases ht

/-- **Supported languages resolve.**  After any requests, whether they were refused or not,
    every alias points to a listed language.  So a name or an alias is supported if and
    only if it resolves, and if and only if it has a generator, and what it resolves to is
    a listed language. -/
theorem supports_iff_resolves (requests : List Request) :
    (∀ a ∈ (after requests).aliases, a.2 ∈ (after requests).languages) ∧
    ∀ l, ((after requests).supports l = true ↔ ∃ name, (after requests).resolve l = .ok name) ∧
      ((∃ name, (after requests).resolve l = .ok name) ↔
        ∃ t, (after requests).generatorFor l = .ok (some t)) ∧
      ∀ name, (after requests).resolve l = .ok name → name ∈ (after requests).languages := by
  have hknown := aliasesKnown_after requests
  generalize after requests = r at hknown ⊢
  refine ⟨fun a ha => mem_languages.2 (hknown a ha), fun l => ⟨supports_iff, ?_, ?_⟩⟩
  · constructor
    · rintro ⟨name, hl⟩
      have hmem := mem_languages.1 (hknown.resolve_mem hl)
      obtain ⟨t, ht⟩ := Option.isSome_iff_exists.1 hmem
      exact ⟨t, by rw [generatorFor_of_resolve hl, ht]⟩
    · rintro ⟨t, ht⟩
      exact resolve_of_generatorFor ht
  · exact fun name => hknown.resolve_mem

/-- The languages that come with the program are registered like others. -/
example : after [.register "python" (.generator .python) ["py"] false,
    .register "swift" (.generator .swift) [] false] = bundled := by
  rfl

end CodecForge.Registry
