/-
  CodecForge — what a generator remembers decides nothing.

  A generator at work looks a name up before it makes the name safe.  The key of a name
  determines the name (`cacheKey_inj`), so a sanitizer that remembers what it answered
  (`Faithful`) answers what it would have answered anew.

  * `ComesTo` says of work that it comes to the same from every faithful sanitizer and leaves
    it faithful; every work of a generator does, and comes to what the generator makes of its
    types without a memory;
  * `faithful_after` is the run lemma: no calls leave a sanitizer that is not faithful.  So
    work comes to the same after all calls (`outcome_eq`).
-/
import CodecForge.AtWork
import CodecForge.Proofs.Related

namespace CodecForge

/-! ## Sanitizers -/

namespace Naming

/-- A name is determined by its key for a case and a suffix. -/
theorem cacheKey_inj {case : NameCase} {suffix name name' : String}
    (h : cacheKey name case suffix = cacheKey name' case suffix) : name = name' := by
  simpa [cacheKey, String.append_assoc] using h

/-- A sanitizer of Python that remembers answers it has given. -/
structure Sanitizer.Faithful (s : Sanitizer) : Prop where
  words : s.words = Python.words
  remembers : ∀ key answer, Entries.get? key s.cache = some answer →
    ∃ name, key = cacheKey name .snake "_" ∧ answer = sanitized Python.words name .snake "_"

namespace Sanitizer.Faithful

variable {s : Sanitizer}

theorem sanitize_fst (h : s.Faithful) (name : String) :
    (s.sanitize name .snake "_").1 = sanitized Python.words name .snake "_" := by
  unfold Sanitizer.sanitize
  dsimp only
  split
  · next answer hget =>
    obtain ⟨name', hkey, hanswer⟩ := h.remembers _ answer hget
    rw [hanswer, cacheKey_inj hkey]
  · rw [h.words]

theorem sanitize_snd (h : s.Faithful) (name : String) :
    (s.sanitize name .snake "_").2.Faithful := by
  unfold Sanitizer.sanitize
  dsimp only
  split
  · exact h
  · refine ⟨h.words, fun key answer hget => ?_⟩
    rw [Entries.get?_put] at hget
    split at hget
    · next hkey =>
      exact ⟨name, hkey.symm, by rw [← Option.some.inj hget, h.words]⟩
    · exact h.remembers key answer hget

end Sanitizer.Faithful

theorem faithful_sanitizer : Python.sanitizer.Faithful :=
  ⟨rfl, nofun⟩

end Naming

/-! ## Work -/

namespace AtWork

variable {α β γ : Type}

/-- From every faithful sanitizer the work comes to `e`, and leaves a faithful one. -/
def ComesTo (w : AtWork α) (e : Except MissingContainer α) : Prop :=
  ∀ s, s.Faithful → (w.done s).1 = e ∧ (w.done s).2.Faithful

theorem comesTo_pure (a : α) : ComesTo (pure a) (.ok a) :=
  fun _ hs => ⟨rfl, hs⟩

theorem comesTo_ofExcept (e : Except MissingContainer α) : ComesTo (MonadExcept.ofExcept e) e := by
  cases e with
  | ok a => exact comesTo_pure a
  | error e => exact fun _ hs => ⟨rfl, hs⟩

theorem ComesTo.bind {w : AtWork α} {f : α → AtWork β} {e : Except MissingContainer α}
    {k : α → Except MissingContainer β} (hw : ComesTo w e) (hf : ∀ a, ComesTo (f a) (k a)) :
    ComesTo (w >>= f) (e >>= k) := by
  intro s hs
  obtain ⟨he, hs'⟩ := hw s hs
  change (AtWork.done (EStateM.bind w f) s).1 = _ ∧ (AtWork.done (EStateM.bind w f) s).2.Faithful
  unfold AtWork.done EStateM.bind at *
  cases hrun : w s with
  | ok a s' =>
    rw [hrun] at he hs'
    rw [← he]
    exact hf a s' hs'
  | error e' s' =>
    rw [hrun] at he hs'
    rw [← he]
    exact ⟨rfl, hs'⟩

/-- Work that is made of a result and asks nothing more. -/
theorem ComesTo.map {w : AtWork α} {e : Except MissingContainer α} (hw : ComesTo w e)
    (g : α → β) : ComesTo (w >>= fun a => pure (g a)) (e >>= fun a => pure (g a)) :=
  hw.bind fun a => comesTo_pure (g a)

theorem ComesTo.mapM {f : α → AtWork β} {k : α → Except MissingContainer β}
    (h : ∀ x, ComesTo (f x) (k x)) : ∀ xs : List α, ComesTo (xs.mapM f) (xs.mapM k)
  | [] => comesTo_pure []
  | x :: xs => by
    rw [List.mapM_cons, List.mapM_cons]
    exact (h x).bind fun y => (ComesTo.mapM h xs).map (y :: ·)

/-- Work that refuses nothing, item by item. -/
theorem ComesTo.mapM_ok {f : α → AtWork β} {k : α → β} (h : ∀ x, ComesTo (f x) (.ok (k x)))
    (xs : List α) : ComesTo (xs.mapM f) (.ok (xs.map k)) := by
  have hmap : xs.mapM (fun x => (Except.ok (k x) : Except MissingContainer β)) =
      .ok (xs.map k) := List.mapM_pure
  rw [← hmap]
  exact ComesTo.mapM h xs

end AtWork

open AtWork

/-- A program that gives back a list, with every item changed. -/
theorem mapM_bind_pure {α β γ ε : Type} (f : α → Except ε β) (g : β → γ) (xs : List α) :
    (xs.mapM fun x => do return g (← f x)) = (do return (← xs.mapM f).map g) := by
  induction xs with
  | nil => rfl
  | cons x xs ih =>
    rw [List.mapM_cons, List.mapM_cons, ih]
    cases f x with
    | error e => rfl
    | ok y => cases xs.mapM f <;> rfl

/-! ## Python -/

namespace Python

variable (own : PythonSettings)

theorem safeName_comesTo (name : String) :
    ComesTo (safeName name) (.ok (Naming.sanitized words name .snake "_")) :=
  fun _ hs => ⟨congrArg Except.ok (hs.sanitize_fst name), hs.sanitize_snd name⟩

theorem nameFunction_comesTo (typeName : String) (d : Direction) (isPublic : Bool) :
    ComesTo (nameFunction typeName d isPublic) (.ok (functionName typeName d isPublic)) :=
  (safeName_comesTo typeName).map _

theorem namePlan_comesTo (p : CodecPlan) : ComesTo (namePlan p) (.ok (planFunction p)) :=
  nameFunction_comesTo p.typeName p.direction p.isPublic

theorem writeFunction_comesTo (p : CodecPlan) :
    ComesTo (writeFunction own p) (.ok (Text.trimEnd (planSource own p).text)) :=
  (namePlan_comesTo p).map _

/-- A type with its plans, as a module holds it. -/
def writtenOf (t : CodableType × List CodecPlan) : WrittenType :=
  ⟨t.1, t.2, blockOf own t.2, t.2.map fun p => (p.direction, planFunction p)⟩

theorem writeType_comesTo (t : CodableType) (plans : List CodecPlan) :
    ComesTo (writeType own t plans) (.ok (writtenOf own (t, plans))) := by
  have hnames : ComesTo (plans.mapM fun p => do return (p.direction, ← namePlan p))
      (.ok (plans.map fun p => (p.direction, planFunction p))) :=
    ComesTo.mapM_ok (fun p => (namePlan_comesTo p).map _) plans
  exact (ComesTo.mapM_ok (writeFunction_comesTo own) plans).bind fun functions =>
    hnames.map (WrittenType.mk t plans (joined functions))

/-- The function of the first plan in a direction stands under the direction. -/
theorem get?_planFunctions (d : Direction) (plans : List CodecPlan) :
    Entries.get? d (plans.map fun p => (p.direction, planFunction p)) =
      (plans.find? (·.direction = d)).map planFunction := by
  induction plans with
  | nil => rfl
  | cons p plans ih =>
    rw [List.map_cons, List.find?_cons]
    unfold Entries.get?
    by_cases hd : p.direction = d
    · simp [hd]
    · simp [hd, ih]

/-- What is written comes to the module of the types. -/
theorem moduleFrom_map_writtenOf (s : Settings) (types : List (CodableType × List CodecPlan)) :
    moduleFrom s own (types.map (writtenOf own)) = moduleOf s own types := by
  have htypes : (types.map (writtenOf own)).map (fun w => (w.type, w.plans)) = types := by
    rw [List.map_map]
    exact List.map_id types
  have hregistration : ∀ t : CodableType × List CodecPlan,
      (writtenOf own t).registration = registrationOf t.1.typeName t.2 := by
    intro t
    simp only [WrittenType.registration, writtenOf, get?_planFunctions, registrationOf]
  unfold moduleFrom
  rw [htypes]
  simp only [List.filter_map, List.flatMap_map, List.map_map, Function.comp_def, hregistration]
  simp only [writtenOf, List.map_map, Function.comp_def, moduleOf]

theorem findWarnings_comesTo : ∀ (types : List CodableType) (taken : List (String × String)),
    ComesTo (findWarnings taken types) (.ok (Generator.pythonWarnings taken types))
  | [], _ => comesTo_pure []
  | t :: ts, taken => by
    have hnames : ComesTo (t.directions.mapM fun d => nameFunction t.typeName d t.isPublic)
        (.ok (t.directions.map fun d => functionName t.typeName d t.isPublic)) :=
      ComesTo.mapM_ok (fun d => nameFunction_comesTo t.typeName d t.isPublic) t.directions
    exact hnames.bind fun names =>
      (findWarnings_comesTo ts (Generator.nameClashes t.typeName taken names).2).map _

end Python

/-! ## Generators -/

namespace Generator

variable (g : Generator)

/-- The text of a plan: a function of Python, a member of Swift. -/
def partOf (p : CodecPlan) : String :=
  match g with
  | python _ own => Text.trimEnd (Python.planSource own p).text
  | swift _ _ => Swift.memberText p

theorem blockOf_eq (typeName : String) (plans : List CodecPlan) :
    g.blockOf typeName plans = g.enclosed typeName (plans.map g.partOf) := by
  cases g <;> rfl

theorem nameFunction_comesTo (t : CodableType) (d : Direction) :
    ∃ name, ComesTo (g.nameFunction t d) (.ok name) := by
  cases g with
  | python s own => exact ⟨_, (Python.nameFunction_comesTo t.typeName d t.isPublic).map _⟩
  | swift s own => exact ⟨_, comesTo_pure _⟩

theorem findWarnings_comesTo (types : List CodableType) :
    ComesTo (g.findWarnings types) (.ok (g.warnings types)) := by
  cases g with
  | python s own => exact (Python.findWarnings_comesTo types []).map _
  | swift s own =>
    rw [warnings, List.append_nil]
    exact comesTo_pure _

theorem writeParts_comesTo (t : CodableType) :
    ComesTo (g.writeParts t) (do return (← g.plansOf t).map g.partOf) := by
  refine (comesTo_ofExcept (g.plansOf t)).bind fun plans => ?_
  cases g with
  | python s own => exact ComesTo.mapM_ok (Python.writeFunction_comesTo own) plans
  | swift s own => exact comesTo_pure _

theorem writeBlock_comesTo (t : CodableType) : ComesTo (g.writeBlock t) (g.block t) := by
  have h := (g.writeParts_comesTo t).map (g.enclosed t.typeName)
  rw [bind_assoc] at h
  simp only [pure_bind, ← blockOf_eq] at h
  exact h

/-- What is made of types one by one is made of the types with their plans. -/
theorem mapM_plansOf {β : Type} (f : CodableType × List CodecPlan → β)
    (types : List CodableType) :
    (types.mapM fun t => do return f (t, ← g.plansOf t)) =
      (do return (← g.withPlans types).map f) := by
  rw [withPlans, ← mapM_bind_pure]
  simp only [bind_assoc, pure_bind]

theorem module_python (s : Settings) (own : PythonSettings) (types : List CodableType) :
    (python s own).module types = (do
      let written ← types.mapM fun t => do
        return Python.writtenOf own (t, ← (python s own).plansOf t)
      return (Python.moduleFrom s own written).source.text) := by
  rw [mapM_plansOf, module, bind_assoc]
  simp only [pure_bind, Python.moduleFrom_map_writtenOf]
  rfl

theorem module_swift (s : Settings) (own : SwiftSettings) (types : List CodableType) :
    (swift s own).module types = (do
      let blocks ← types.mapM (swift s own).block
      return { Swift.fileOf s own [] with blocks }.source.text) := by
  have hblocks := (swift s own).mapM_plansOf (fun t => (swift s own).blockOf t.1.typeName t.2) types
  change types.mapM (swift s own).block = _ at hblocks
  rw [hblocks, module, bind_assoc]
  simp only [pure_bind, moduleOf, Swift.fileOf, List.map_map, Function.comp_def]
  rfl

theorem writeModule_comesTo (types : List CodableType) :
    ComesTo (g.writeModule types) (g.module types) := by
  cases g with
  | python s own =>
    rw [module_python]
    exact (ComesTo.mapM (fun t =>
      (comesTo_ofExcept ((python s own).plansOf t)).bind (Python.writeType_comesTo own t))
      types).map _
  | swift s own =>
    rw [module_swift]
    exact (ComesTo.mapM (swift s own).writeBlock_comesTo types).map _

/-! ## Calls -/

/-- No call leaves a sanitizer that is not faithful. -/
theorem faithful_left {s : Naming.Sanitizer} (hs : s.Faithful) (c : Call) :
    (c.left g s).Faithful := by
  cases c with
  | function t d =>
    obtain ⟨name, hname⟩ := g.nameFunction_comesTo t d
    exact (hname s hs).2
  | warnings types => exact (g.findWarnings_comesTo types s hs).2
  | parts t => exact (g.writeParts_comesTo t s hs).2
  | block t => exact (g.writeBlock_comesTo t s hs).2
  | module types => exact (g.writeModule_comesTo types s hs).2

/-- **What a generator remembers is always what it would answer anew.** -/
theorem faithful_after (calls : List Call) : (g.after calls).Faithful := by
  have hrun : ∀ (calls : List Call) (s : Naming.Sanitizer), s.Faithful →
      (calls.foldl (Call.left g) s).Faithful := by
    intro calls
    induction calls with
    | nil => exact fun s hs => hs
    | cons c calls ih => exact fun s hs => ih (c.left g s) (g.faithful_left hs c)
  exact hrun calls Python.sanitizer Naming.faithful_sanitizer

/-- **Work comes to the same after all calls.** -/
theorem outcome_eq {α : Type} {w : AtWork α} {e : Except MissingContainer α} (h : ComesTo w e)
    (calls : List Call) : g.outcome calls w = e :=
  (h (g.after calls) (g.faithful_after calls)).1

end Generator

end CodecForge
