/-
  CodecForge — what a registration leaves behind.

  A registration enters the generator first and then one alias after another, so what
  it leaves depends on where it stops.

  * `Conflict`: why a language cannot have an alias; `addAlias_cases` and
    `addAliases_cases` are all that entering one alias, or several, can do;
  * `after` is the registry that requests, refused or not, lead to;
  * `Registered` lists what a registration can come to, `registered_register` says
    that it comes to one of these;
  * `refused_unchanged_iff`: a refused registration leaves the registry as it was only
    if what it was given is no generator.  Otherwise the language stays, with the
    aliases before the one in conflict, and the same registration is then passed over.
-/
import CodecForge.Registry
import Mathlib

namespace CodecForge.Registry

/-! ## Aliases -/

/-- Why the language `key` cannot have the alias `a`: it is another language, or it points
    to another one. -/
inductive Conflict (r : Registry) (key a : String) : RegistryError → Prop
  | language (hne : Text.lowerString a ≠ key)
      (h : Entries.has (Text.lowerString a) r.generators = true) :
      Conflict r key a (.aliasIsLanguage a)
  | taken {other : String} (hne : Text.lowerString a ≠ key)
      (h : Entries.has (Text.lowerString a) r.generators = false)
      (ha : Entries.get? (Text.lowerString a) r.aliases = some other) (hother : other ≠ key) :
      Conflict r key a (.aliasTaken a other)

/-- The entries of aliases for the language `key`; its own name is none. -/
def aliasEntries (key : String) (as : List String) : List (String × String) :=
  ((as.map Text.lowerString).filter (· ≠ key)).map fun a => (a, key)

/-- The registry with aliases for the language `key`. -/
def withAliases (r : Registry) (key : String) (as : List String) : Registry :=
  { r with aliases := Entries.putAll r.aliases (aliasEntries key as) }

/-- The registry with a generator for the language `key`. -/
def withGenerator (r : Registry) (key : String) (t : Target) : Registry :=
  { r with generators := Entries.put key t r.generators }

variable {r r' : Registry} {key : String} {replace : Bool}

theorem withAliases_self {a : String} (h : Text.lowerString a = key) :
    r.withAliases key [a] = r := by
  simp [withAliases, aliasEntries, Entries.putAll, h]

theorem withAliases_single {a : String} (h : Text.lowerString a ≠ key) :
    r.withAliases key [a] =
      { r with aliases := Entries.put (Text.lowerString a) key r.aliases } := by
  simp [withAliases, aliasEntries, Entries.putAll, h]

theorem withAliases_cons (a : String) (as : List String) :
    r.withAliases key (a :: as) = (r.withAliases key [a]).withAliases key as := by
  by_cases h : Text.lowerString a = key <;>
    simp [withAliases, aliasEntries, Entries.putAll, h]

/-- Entering an alias is refused, without `replace`, if it is in conflict. -/
theorem addAlias_cases (key : String) (replace : Bool) (a : String) (r : Registry) :
    addAlias key replace a r = .ok () (r.withAliases key [a]) ∨
      replace = false ∧ ∃ e, Conflict r key a e ∧ addAlias key replace a r = .error e r := by
  simp only [addAlias, bind, EStateM.bind, get, getThe, MonadStateOf.get, EStateM.get]
  by_cases hkey : Text.lowerString a = key
  · rw [if_pos hkey, withAliases_self hkey]
    exact .inl rfl
  rw [if_neg hkey, withAliases_single hkey]
  cases replace with
  | true => exact .inl rfl
  | false =>
    simp only [Bool.not_false, if_true]
    cases hlang : Entries.has (Text.lowerString a) r.generators with
    | true => exact .inr ⟨trivial, _, .language hkey hlang, rfl⟩
    | false =>
      cases hget : Entries.get? (Text.lowerString a) r.aliases with
      | none => exact .inl rfl
      | some other =>
        by_cases hother : other = key
        · subst hother
          simp only [ne_eq, not_true_eq_false, if_false]
          exact .inl rfl
        · simp only [ne_eq, hother, not_false_eq_true, if_true]
          exact .inr ⟨trivial, _, .taken hkey hlang hget hother, rfl⟩

/-- Of several aliases those before the first one in conflict are entered. -/
theorem addAliases_cases (key : String) (replace : Bool) (as : List String) (r : Registry) :
    as.forM (addAlias key replace) r = .ok () (r.withAliases key as) ∨
      replace = false ∧ ∃ before a after e, as = before ++ a :: after ∧
        Conflict (r.withAliases key before) key a e ∧
        as.forM (addAlias key replace) r = .error e (r.withAliases key before) := by
  induction as generalizing r with
  | nil => exact .inl rfl
  | cons a as ih =>
    have hstep : (a :: as).forM (addAlias key replace) r =
        (addAlias key replace a >>= fun _ => as.forM (addAlias key replace)) r := rfl
    rw [hstep]
    simp only [bind, EStateM.bind]
    rcases addAlias_cases key replace a r with hok | ⟨hreplace, e, hconflict, herror⟩
    · rw [hok, withAliases_cons a as]
      rcases ih (r.withAliases key [a]) with hrest | ⟨hreplace, before, b, after, e, rfl, hc, hrest⟩
      · exact .inl hrest
      · refine .inr ⟨hreplace, a :: before, b, after, e, rfl, ?_, ?_⟩
        · rwa [withAliases_cons a before]
        · rwa [withAliases_cons a before]
    · rw [herror]
      exact .inr ⟨hreplace, [], a, as, e, rfl, hconflict, rfl⟩

/-! ## Histories -/

/-- A request to change a registry. -/
inductive Request where
  | register (language : String) (c : Candidate) (aliases : List String) (replace : Bool)
  | unregister (language : String)
deriving Repr

/-- The registry after a request, refused or not. -/
def step (r : Registry) : Request → Registry
  | .register language c aliases replace => (r.changed (register language c aliases replace)).2
  | .unregister language => r.unregister language

/-- The registry after requests, which is empty at first. -/
def after (requests : List Request) : Registry := requests.foldl step {}

/-! ## Registrations -/

/-- What a registration comes to: it refuses what is no generator, passes over a language
    that is there, enters everything, or stops at an alias in conflict. -/
inductive Registered (r : Registry) (language : String) :
    Candidate → List String → Bool → EStateM.Result RegistryError Registry Unit → Prop
  | notGenerator (as : List String) (replace : Bool) :
      Registered r language .notGenerator as replace (.error .notGenerator r)
  | passedOver (t : Target) (as : List String)
      (h : Entries.has (Text.lowerString language) r.generators = true) :
      Registered r language (.generator t) as false (.ok () r)
  | entered (t : Target) (as : List String) (replace : Bool) :
      Registered r language (.generator t) as replace
        (.ok () ((r.withGenerator (Text.lowerString language) t).withAliases
          (Text.lowerString language) as))
  | stopped (t : Target) {before after : List String} {a : String} {e : RegistryError}
      (h : Entries.has (Text.lowerString language) r.generators = false)
      (hc : Conflict ((r.withGenerator (Text.lowerString language) t).withAliases
        (Text.lowerString language) before) (Text.lowerString language) a e) :
      Registered r language (.generator t) (before ++ a :: after) false
        (.error e ((r.withGenerator (Text.lowerString language) t).withAliases
          (Text.lowerString language) before))

theorem registered_register (r : Registry) (language : String) (c : Candidate)
    (as : List String) (replace : Bool) :
    Registered r language c as replace (register language c as replace r) := by
  cases c with
  | notGenerator => exact .notGenerator as replace
  | generator t =>
    simp only [register, bind, EStateM.bind, get, getThe, MonadStateOf.get, EStateM.get]
    split
    · next h =>
      rw [Bool.and_eq_true, Bool.not_eq_true'] at h
      obtain ⟨hlang, rfl⟩ := h
      exact .passedOver t as hlang
    · next h =>
      change Registered r language (.generator t) as replace
        (as.forM (addAlias _ replace) (r.withGenerator (Text.lowerString language) t))
      rcases addAliases_cases (Text.lowerString language) replace as (r.withGenerator _ t) with
        hok | ⟨rfl, before, a, after, e, rfl, hc, herror⟩
      · rw [hok]
        exact .entered t as replace
      · rw [herror]
        exact .stopped t (by simpa using h) hc

/-- A language that is there is passed over. -/
theorem register_of_has {language : String}
    (h : Entries.has (Text.lowerString language) r.generators = true) (t : Target)
    (as : List String) : register language (.generator t) as false r = .ok () r := by
  simp only [register, bind, EStateM.bind, get, getThe, MonadStateOf.get, EStateM.get, h]
  rfl

/-- **What a refused registration leaves.**  The registry is as it was if and only if what
    was to be registered is no generator.  A generator whose alias is in conflict stays
    registered, with the aliases before that one, and the same registration is then passed
    over without an error. -/
theorem refused_unchanged_iff {language : String} {c : Candidate} {as : List String}
    {e : RegistryError} (h : register language c as replace r = .error e r') :
    (r' = r ↔ c = .notGenerator) ∧ ∀ t, c = .generator t →
      replace = false ∧ Entries.has (Text.lowerString language) r.generators = false ∧
      (∃ before a after, as = before ++ a :: after ∧
        r' = (r.withGenerator (Text.lowerString language) t).withAliases
          (Text.lowerString language) before ∧
        Conflict r' (Text.lowerString language) a e) ∧
      register language c as replace r' = .ok () r' := by
  have hreg := registered_register r language c as replace
  rw [h] at hreg
  cases hreg with
  | notGenerator =>
    refine ⟨by simp, fun t ht => ?_⟩
    cases ht
  | @stopped t before after a _ hlang hc =>
    have hnow : Entries.has (Text.lowerString language)
        ((r.withGenerator (Text.lowerString language) t).withAliases
          (Text.lowerString language) before).generators = true := by
      simp [withAliases, withGenerator, Entries.has]
    refine ⟨⟨fun hr => ?_, fun ht => ?_⟩, fun t' ht => ?_⟩
    · rw [hr, hlang] at hnow
      cases hnow
    · cases ht
    · cases ht
      exact ⟨rfl, hlang, ⟨before, a, after, rfl, rfl, hc⟩, register_of_has hnow t _⟩

/-! ## A language that stays -/

/-- Python under its name and an alias. -/
def pythonFirst : List Request := [.register "python" (.generator .python) ["py"] false]

/-- What is left when Ruby is refused the alias of Python. -/
def withRuby : Registry :=
  ⟨[("python", .python), ("ruby", .swift)], [("py", "python"), ("rb", "ruby")]⟩

theorem refused_unchanged_iff_ruby :
    register "ruby" (.generator .swift) ["rb", "py"] false (after pythonFirst) =
      .error (.aliasTaken "py" "python") withRuby ∧
    (withRuby = after pythonFirst ↔ Candidate.generator .swift = .notGenerator) ∧
    register "ruby" (.generator .swift) ["rb", "py"] false withRuby = .ok () withRuby := by
  have h : register "ruby" (.generator .swift) ["rb", "py"] false (after pythonFirst) =
      .error (.aliasTaken "py" "python") withRuby := by rfl
  obtain ⟨hiff, hleft⟩ := refused_unchanged_iff h
  obtain ⟨-, -, -, hagain⟩ := hleft .swift rfl
  exact ⟨h, hiff, hagain⟩

/-- A refused registration may change a registry. -/
theorem exists_refused_and_changed : ¬ ∀ (requests : List Request) (language : String)
    (c : Candidate) (as : List String) (replace : Bool) (e : RegistryError) (r' : Registry),
    register language c as replace (after requests) = .error e r' → r' = after requests := by
  intro h
  have hruby : withRuby = after pythonFirst :=
    h pythonFirst "ruby" (.generator .swift) ["rb", "py"] false _ withRuby (by rfl)
  have hlength : withRuby.generators.length = (after pythonFirst).generators.length := by rw [hruby]
  cases hlength

end CodecForge.Registry
