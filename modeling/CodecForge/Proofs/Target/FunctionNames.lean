/-
  CodecForge — the names of functions, and types that share them.

  A function of a Python module is named after its type in snake case, so the functions of
  different types may come to have one name, and the later of them replaces the earlier.

  * `exists_functionName_eq`: what the name of a function looks like;
  * `clashes` are the functions of types of which the latest owner is another type; one is
    found for a function exactly if not all its owners are the same type
    (`exists_clash_iff`), since a chain of equal owners is a list of equal ones;
  * a name of a type is reported if it stands twice among the types (`mem_repeated_iff`);
  * so a module in which a function is defined twice comes with a warning
    (`clashes_reported`).
-/
import CodecForge.Proofs.Extraction.Identifiers
import CodecForge.Proofs.Naming.SnakeCase
import CodecForge.Proofs.Target.PythonModule

namespace CodecForge

/-! ## Names of functions -/

namespace Python

open Text (isNameChar)

/-- A lower-case letter or a digit of ASCII, or an underscore. -/
def isSnakeChar (c : Char) : Bool := c.isLower || c.isDigit || c == '_'

theorem isNameChar_of_isSnakeChar {c : Char} (h : isSnakeChar c) : isNameChar c := by
  simp only [isSnakeChar, isNameChar, Char.isAlphanum, Char.isAlpha, Bool.or_eq_true] at h ⊢
  tauto

/-- The name of a type in snake case, kept clear of the keywords. -/
theorem isSnakeChar_sanitized (typeName : String) :
    ∀ c ∈ (Naming.sanitized words typeName .snake "_").toList, isSnakeChar c := by
  have hword := Naming.wordChar_cleaned typeName
  have hsnake : ∀ c ∈ (Naming.toSnake (Naming.cleaned typeName)).toList, isSnakeChar c := by
    intro c hc
    have hname := Naming.nameChar_convert hword .snake c hc
    rw [Naming.toSnake, String.toList_ofList] at hc
    have hupper := (Naming.isSnake_snakeChars fun d hd =>
      Naming.lt_of_isWordChar (hword d hd)).noUpper c hc
    simpa [isSnakeChar, isNameChar, Char.isAlphanum, Char.isAlpha, hupper] using hname
  rw [Naming.sanitized_words]
  split
  · rw [String.toList_append]
    exact List.forall_mem_append.2 ⟨hsnake, List.forall_mem_singleton.2 rfl⟩
  · exact hsnake

/-- The name of a function consists of an underscore unless it is public, the direction, and
    the name of the type in snake case; so it is a plain name and no keyword. -/
theorem exists_functionName_eq (typeName : String) (d : Direction) (isPublic : Bool) :
    (∃ x : String, functionName typeName d isPublic =
        (if isPublic then "" else "_") ++ d.label ++ "_" ++ x ∧
      x ≠ "" ∧ ∀ c ∈ x.toList, isSnakeChar c) ∧
    Text.isPlainName (functionName typeName d isPublic).toList ∧
    functionName typeName d isPublic ∉ keywords := by
  have hchars := isSnakeChar_sanitized typeName
  refine ⟨⟨_, rfl, (Naming.safeFor_sanitized typeName .snake).ne_empty, hchars⟩, ?_,
    fun hkeyword => Naming.underscore_notMem_keyword hkeyword (by simp [functionName])⟩
  have hrest := List.all_eq_true.2 fun c hc => isNameChar_of_isSnakeChar (hchars c hc)
  rw [functionName, String.toList_append]
  generalize (Naming.sanitized words typeName .snake "_").toList = cs at hrest
  cases isPublic <;> cases d <;>
    simp [Direction.label, Text.isPlainName, hrest] <;> decide

end Python

/-- A type generates a function under a name for one of its directions. -/
def CodableType.Generates (t : CodableType) (f : String) : Prop :=
  ∃ d ∈ t.directions, Python.functionName t.typeName d t.isPublic = f

theorem CodableType.Generates.isPlainName {t : CodableType} {f : String} (h : t.Generates f) :
    Text.isPlainName f.toList := by
  obtain ⟨d, -, rfl⟩ := h
  exact (Python.exists_functionName_eq t.typeName d t.isPublic).2.1

namespace Generator

/-! ## Clashes -/

/-- The functions of a type, each with the name of the type. -/
def functionsOf (t : CodableType) : List (String × String) :=
  t.directions.map fun d => (Python.functionName t.typeName d t.isPublic, t.typeName)

/-- A function of a type that another type has had before. -/
structure Clash where
  other : String
  typeName : String
  function : String

def Clash.text (k : Clash) : String :=
  s!"Types '{k.other}' and '{k.typeName}' both generate function '{k.function}'"

/-- The functions of which the latest owner was another type. -/
def clashes (taken : List (String × String)) : List (String × String) → List Clash
  | [] => []
  | (f, owner) :: fs =>
    let rest := clashes (Entries.put f owner taken) fs
    match Entries.get? f taken with
    | some other => if other = owner then rest else ⟨other, owner, f⟩ :: rest
    | none => rest

theorem clashes_append (taken fs gs : List (String × String)) :
    clashes taken (fs ++ gs) = clashes taken fs ++ clashes (Entries.putAll taken fs) gs := by
  induction fs generalizing taken with
  | nil => rfl
  | cons e fs ih =>
    obtain ⟨f, owner⟩ := e
    rw [List.cons_append, clashes, clashes, ih]
    cases Entries.get? f taken with
    | none => rfl
    | some other => by_cases h : other = owner <;> simp [h, Entries.putAll]

theorem nameClashes_eq (typeName : String) (taken : List (String × String)) (names : List String) :
    nameClashes typeName taken names =
      ((clashes taken (names.map (·, typeName))).map Clash.text,
        Entries.putAll taken (names.map (·, typeName))) := by
  induction names generalizing taken with
  | nil => rfl
  | cons f names ih =>
    rw [nameClashes, ih, List.map_cons, clashes]
    cases Entries.get? f taken with
    | none => rfl
    | some other => by_cases h : other = typeName <;> simp [h, Clash.text, Entries.putAll]

theorem mem_pythonWarnings {w : String} {types : List CodableType}
    {taken : List (String × String)} : w ∈ pythonWarnings taken types ↔
      (∃ t ∈ types, w ∈ attributeWarnings t) ∨
        ∃ k ∈ clashes taken (types.flatMap functionsOf), k.text = w := by
  induction types generalizing taken with
  | nil => simp [pythonWarnings, clashes]
  | cons t types ih =>
    have hnames : (t.directions.map fun d =>
        Python.functionName t.typeName d t.isPublic).map (·, t.typeName) = functionsOf t :=
      List.map_map ..
    rw [pythonWarnings, functionWarnings, nameClashes_eq, hnames]
    simp only [List.mem_append, List.mem_map, ih, List.flatMap_cons, clashes_append,
      List.exists_mem_cons_iff]
    constructor
    · rintro ((h | ⟨k, hk, rfl⟩) | h | ⟨k, hk, rfl⟩)
      · exact .inl (.inl h)
      · exact .inr ⟨k, .inl hk, rfl⟩
      · exact .inl (.inr h)
      · exact .inr ⟨k, .inr hk, rfl⟩
    · rintro ((h | h) | ⟨k, hk | hk, rfl⟩)
      · exact .inl (.inl h)
      · exact .inr (.inl h)
      · exact .inl (.inr ⟨k, hk, rfl⟩)
      · exact .inr (.inr ⟨k, hk, rfl⟩)

/-! ### Owners -/

/-- The owners of a function, one after another. -/
def ownersOf (f : String) (fs : List (String × String)) : List String :=
  (fs.filter (·.1 = f)).map (·.2)

theorem mem_ownersOf {f owner : String} {fs : List (String × String)} :
    owner ∈ ownersOf f fs ↔ (f, owner) ∈ fs := by
  simp [ownersOf]

/-- No clash is found for a function if each owner is the one before. -/
theorem forall_clash_ne_iff (f : String) (taken fs : List (String × String)) :
    (∀ k ∈ clashes taken fs, k.function ≠ f) ↔
      ((Entries.get? f taken).toList ++ ownersOf f fs).IsChain (· = ·) := by
  induction fs generalizing taken with
  | nil => cases h : Entries.get? f taken <;> simp [clashes, ownersOf]
  | cons e fs ih =>
    obtain ⟨g, owner⟩ := e
    have ih := ih (Entries.put g owner taken)
    rw [clashes]
    by_cases hg : g = f
    · subst hg
      have howners : ownersOf g ((g, owner) :: fs) = owner :: ownersOf g fs := by
        simp [ownersOf]
      -- the scan goes on with the new owner alone: those before it only have to equal it
      rw [Entries.get?_put_self] at ih
      rw [howners]
      cases Entries.get? g taken with
      | none => exact ih
      | some other =>
        by_cases hother : other = owner
        · simp [hother, ih]
        · simp [hother]
    · have howners : ownersOf f ((g, owner) :: fs) = ownersOf f fs := by
        simp [ownersOf, hg]
      rw [Entries.get?_put_of_ne hg] at ih
      rw [howners, ← ih]
      cases Entries.get? g taken with
      | none => rfl
      | some other => by_cases hother : other = owner <;> simp [hother, hg]

/-- In a chain of equal items all are equal. -/
theorem isChain_eq_iff {α : Type} {xs : List α} :
    xs.IsChain (· = ·) ↔ ∀ x ∈ xs, ∀ y ∈ xs, x = y := by
  rw [List.isChain_iff_pairwise]
  constructor
  · exact fun h x hx y hy => h.forall_of_forall (fun _ _ => rfl) hx hy
  · exact fun h => List.pairwise_of_forall_mem_list fun x hx y hy => h x hx y hy

theorem mem_functionsOf {f owner : String} {types : List CodableType} :
    (f, owner) ∈ types.flatMap functionsOf ↔ ∃ t ∈ types, t.Generates f ∧ t.typeName = owner := by
  simp [functionsOf, CodableType.Generates, ← exists_and_right, and_assoc]

/-- A clash is found for a function exactly if types of different names generate it. -/
theorem exists_clash_iff {f : String} {types : List CodableType} :
    (∃ k ∈ clashes [] (types.flatMap functionsOf), k.function = f) ↔
      ∃ t ∈ types, ∃ t' ∈ types, t.typeName ≠ t'.typeName ∧ t.Generates f ∧ t'.Generates f := by
  rw [← not_iff_not]
  push Not
  rw [forall_clash_ne_iff]
  simp only [Entries.get?, Option.toList_none, List.nil_append, isChain_eq_iff, mem_ownersOf,
    mem_functionsOf]
  constructor
  · intro h t ht t' ht' hne hf hf'
    exact hne (h _ ⟨t, ht, hf, rfl⟩ _ ⟨t', ht', hf', rfl⟩)
  · rintro h _ ⟨t, ht, hf, rfl⟩ _ ⟨t', ht', hf', rfl⟩
    by_contra hne
    exact h t ht t' ht' hne hf hf'

/-! ## Texts -/

/-- The first letters of a warning, which say what it is about. -/
def opening (w : String) : List Char := w.toList.take 5

theorem opening_clash (k : Clash) : opening k.text = "Types".toList := by
  simp [opening, Clash.text, toString]

theorem opening_of_mem_attributeWarnings {t : CodableType} {w : String}
    (h : w ∈ attributeWarnings t) : opening w = "Field".toList := by
  unfold attributeWarnings at h
  split at h
  · cases h
  · obtain ⟨f, -, hw⟩ := List.mem_filterMap.1 h
    dsimp only at hw
    split at hw
    · cases hw
    · obtain rfl := Option.some.inj hw
      simp [opening, toString]

/-- The warning for a type whose name a type before it has. -/
def repeatedText (typeName : String) : String := s!"Type '{typeName}' is declared more than once"

theorem opening_repeated (typeName : String) :
    opening (repeatedText typeName) = "Type ".toList := by
  simp [opening, repeatedText, toString]

theorem repeatedText_injective : Function.Injective repeatedText := by
  intro n m h
  simpa [repeatedText, toString] using h

theorem repeatedText_ne (n m : String) : repeatedText n ≠ s!"Type '{m}' has no coding keys" := by
  intro h
  have hlast := congrArg (fun w => w.toList.reverse.head?) h
  simp [repeatedText, toString] at hlast

/-- What is odd about a type is that its name is repeated, or something else. -/
theorem mem_typeWarnings {seen : List String} {t : CodableType} {w : String}
    (h : w ∈ typeWarnings seen t) :
    (t.typeName ∈ seen ∧ w = repeatedText t.typeName) ∨
      w = s!"Type '{t.typeName}' has no coding keys" ∨
      opening w = "Neste".toList ∨ opening w = "Group".toList := by
  have hempty : ∀ s : Schema,
      w ∈ (if s.fields.isEmpty then [s!"Type '{t.typeName}' has no coding keys"] else []) →
        w = s!"Type '{t.typeName}' has no coding keys" := by
    intro s hs
    split at hs
    · exact List.mem_singleton.1 hs
    · cases hs
  rw [typeWarnings, List.mem_append, List.mem_append] at h
  rcases h with (h | h) | h
  · split at h
    · next hseen => exact .inl ⟨List.contains_iff_mem.1 hseen, List.mem_singleton.1 h⟩
    · cases h
  · obtain ⟨name, -, rfl⟩ := List.mem_map.1 h
    exact .inr (.inr (.inl (by simp [opening, toString])))
  · split at h
    · cases h
    · exact .inr (.inl (hempty _ h))
    · rcases List.mem_append.1 h with h | h
      · exact .inr (.inl (hempty _ h))
      · split at h
        · cases h
        · obtain rfl := List.mem_singleton.1 h
          exact .inr (.inr (.inr (by simp [opening, toString])))

theorem repeated_mem_typeWarnings_iff {seen : List String} {t : CodableType} {n : String} :
    repeatedText n ∈ typeWarnings seen t ↔ t.typeName = n ∧ n ∈ seen := by
  constructor
  · intro h
    rcases mem_typeWarnings h with ⟨hseen, hw⟩ | hw | hw | hw
    · obtain rfl := repeatedText_injective hw
      exact ⟨rfl, hseen⟩
    · exact absurd hw (repeatedText_ne n t.typeName)
    · rw [opening_repeated] at hw
      simp at hw
    · rw [opening_repeated] at hw
      simp at hw
  · rintro ⟨rfl, hseen⟩
    simp [typeWarnings, hseen, repeatedText]

theorem repeated_mem_commonWarnings_iff {n : String} {types : List CodableType}
    {seen : List String} : repeatedText n ∈ commonWarnings seen types ↔
      List.Duplicate n (types.map (·.typeName)) ∨ n ∈ seen ∧ n ∈ types.map (·.typeName) := by
  induction types generalizing seen with
  | nil => simp [commonWarnings]
  | cons t types ih =>
    rw [commonWarnings, List.mem_append, repeated_mem_typeWarnings_iff, ih, List.map_cons,
      List.duplicate_cons_iff, List.mem_cons, List.mem_cons]
    grind

theorem opening_of_mem_commonWarnings {types : List CodableType} {seen : List String} {w : String}
    (h : w ∈ commonWarnings seen types) : opening w ≠ "Types".toList := by
  induction types generalizing seen with
  | nil => cases h
  | cons t types ih =>
    rcases List.mem_append.1 h with h | h
    · rcases mem_typeWarnings h with ⟨-, rfl⟩ | rfl | hw | hw
      · simp [opening_repeated]
      · simp [opening, toString]
      · simp [hw]
      · simp [hw]
    · exact ih h

/-- What stands after the last of some character is determined by the text. -/
theorem eq_of_append_cons_eq {xs xs' ys ys' : List Char} {c : Char}
    (h : xs ++ c :: ys = xs' ++ c :: ys') (hy : c ∉ ys) (hy' : c ∉ ys') : ys = ys' := by
  rcases List.append_eq_append_iff.1 h with ⟨zs, -, hzs⟩ | ⟨zs, -, hzs⟩
  · cases zs with
    | nil => exact (List.cons.inj hzs).2
    | cons z zs => exact absurd (by simp [(List.cons.inj hzs).2]) hy
  · cases zs with
    | nil => exact (List.cons.inj hzs).2.symm
    | cons z zs => exact absurd (by simp [(List.cons.inj hzs).2]) hy'

/-- The text of a clash says which function it is about. -/
theorem function_eq_of_text_eq {k k' : Clash} (h : k.text = k'.text)
    (hk : Text.isPlainName k.function.toList) (hk' : Text.isPlainName k'.function.toList) :
    k.function = k'.function := by
  have hquoted : ∀ k : Clash, k.text.toList =
      (s!"Types '{k.other}' and '{k.typeName}' both generate function ".toList ++
        '\'' :: k.function.toList) ++ ['\''] := by
    intro k
    simp [Clash.text, toString]
  have hnotMem : ∀ {cs : List Char}, Text.isPlainName cs → '\'' ∉ cs :=
    fun hcs hmem => absurd (Text.isNameChar_of_isPlainName hcs _ hmem) (by decide)
  have htext := congrArg String.toList h
  rw [hquoted, hquoted, List.append_left_inj] at htext
  exact String.toList_inj.1 (eq_of_append_cons_eq htext (hnotMem hk) (hnotMem hk'))

/-! ## Warnings -/

section
variable (s : Settings) (own : PythonSettings) {types : List CodableType}

/-- A clash is reported for a function exactly if types of different names generate it. -/
theorem clash_mem_warnings_iff {f : String} (hf : Text.isPlainName f.toList) :
    (∃ a b, Clash.text ⟨a, b, f⟩ ∈ (python s own).warnings types) ↔
      ∃ t ∈ types, ∃ t' ∈ types, t.typeName ≠ t'.typeName ∧ t.Generates f ∧ t'.Generates f := by
  rw [← exists_clash_iff]
  constructor
  · rintro ⟨a, b, hmem⟩
    rw [warnings, List.mem_append, mem_pythonWarnings] at hmem
    rcases hmem with hmem | ⟨t, -, hmem⟩ | ⟨k, hk, htext⟩
    · exact absurd (opening_clash _) (opening_of_mem_commonWarnings hmem)
    · have hopening := opening_of_mem_attributeWarnings hmem
      rw [opening_clash] at hopening
      simp at hopening
    · obtain ⟨t, -, -, -, -, ht, -⟩ := exists_clash_iff.1 ⟨k, hk, rfl⟩
      exact ⟨k, hk, function_eq_of_text_eq htext ht.isPlainName hf⟩
  · rintro ⟨k, hk, rfl⟩
    refine ⟨k.other, k.typeName, ?_⟩
    rw [warnings, List.mem_append, mem_pythonWarnings]
    exact .inr (.inr ⟨k, hk, rfl⟩)

/-- A name is reported exactly if it stands twice among those of the types. -/
theorem repeated_mem_warnings_iff {n : String} :
    repeatedText n ∈ (python s own).warnings types ↔
      List.Duplicate n (types.map (·.typeName)) := by
  rw [warnings, List.mem_append, repeated_mem_commonWarnings_iff, mem_pythonWarnings]
  constructor
  · rintro ((h | ⟨h, -⟩) | ⟨t, -, h⟩ | ⟨k, -, h⟩)
    · exact h
    · cases h
    · have hopening := opening_of_mem_attributeWarnings h
      rw [opening_repeated] at hopening
      simp at hopening
    · have hopening := opening_clash k
      rw [h, opening_repeated] at hopening
      simp at hopening
  · exact fun h => .inl (.inl h)

end

/-! ## Functions that are defined twice -/

/-- What stands twice in lists that are put together, but twice in none of them, stands in two
    of them. -/
theorem exists_of_duplicate_flatMap {α β : Type} [DecidableEq β] {g : α → List β} {b : β}
    {xs : List α} (hg : ∀ x ∈ xs, (g x).Nodup) (h : List.Duplicate b (xs.flatMap g)) :
    ∃ x y, [x, y].Sublist xs ∧ b ∈ g x ∧ b ∈ g y := by
  induction xs with
  | nil => cases h
  | cons x xs ih =>
    rw [List.forall_mem_cons] at hg
    rw [List.flatMap_cons, List.duplicate_iff_two_le_count, List.count_append] at h
    have honce := List.nodup_iff_count_le_one.1 hg.1 b
    by_cases hb : b ∈ g x
    · have hrest : 0 < (xs.flatMap g).count b := by omega
      obtain ⟨y, hy, hby⟩ := List.mem_flatMap.1 (List.count_pos_iff.1 hrest)
      exact ⟨x, y, (List.singleton_sublist.2 hy).cons_cons x, hb, hby⟩
    · rw [List.count_eq_zero.2 hb, Nat.zero_add, ← List.duplicate_iff_two_le_count] at h
      obtain ⟨y, z, hyz, hy, hz⟩ := ih hg.2 h
      exact ⟨y, z, hyz.cons x, hy, hz⟩

/-- The functions of different directions have different names. -/
theorem functionName_injective (typeName : String) (isPublic : Bool) :
    Function.Injective fun d => Python.functionName typeName d isPublic := by
  intro d d' h
  cases isPublic <;> cases d <;> cases d' <;>
    simp [Python.functionName, Direction.label] at h ⊢

/-- The plans of a type define each function once. -/
theorem nodup_planFunctions {t : CodableType} {ps : List CodecPlan} (h : t.HasPlans ps) :
    (ps.map Python.planFunction).Nodup := by
  have hfunctions : ps.map Python.planFunction =
      (ps.map (·.direction)).map fun d => Python.functionName t.typeName d t.isPublic := by
    rw [List.map_map]
    refine List.map_congr_left fun p hp => ?_
    rw [Python.planFunction, (h.isOf p hp).typeName, (h.isOf p hp).isPublic]
    rfl
  rw [hfunctions, h.directions]
  exact (List.Nodup.filter _ (by decide)).map (functionName_injective _ _)

/-- A function that is defined twice is one of two types, neither before the other. -/
theorem exists_of_duplicate_defined (own : PythonSettings)
    {planned : List (CodableType × List CodecPlan)} (h : ∀ q ∈ planned, q.1.HasPlans q.2)
    {f : String} (hf : List.Duplicate f (Python.functionSource own planned).defined) :
    ∃ t t', [t, t'].Sublist (planned.map (·.1)) ∧ t.Generates f ∧ t'.Generates f := by
  have hdefined : (Python.functionSource own planned).defined =
      planned.flatMap fun q => q.2.map Python.planFunction := by
    rw [Python.functionSource, Source.defined_flatMap]
    exact List.flatMap_congr fun q _ => Python.defined_plans own q.2
  have hgenerates : ∀ q ∈ planned, f ∈ q.2.map Python.planFunction → q.1.Generates f := by
    intro q hq hmem
    rw [← Python.defined_plans own, Python.mem_defined_plans (h q hq)] at hmem
    obtain ⟨d, hd, rfl⟩ := hmem
    exact ⟨d, hd, rfl⟩
  rw [hdefined] at hf
  obtain ⟨q, q', hsub, hq, hq'⟩ :=
    exists_of_duplicate_flatMap (fun q hq => nodup_planFunctions (h q hq)) hf
  exact ⟨q.1, q'.1, hsub.map _, hgenerates q (hsub.subset (by simp)) hq,
    hgenerates q' (hsub.subset (by simp)) hq'⟩

/-- **Functions that clash are reported.**  For extracted types every function has a plain
    name, no keyword, with an underscore in front exactly if the type is internal.  A clash is reported for
    a function if and only if types of different names generate it, and a type is reported as
    declared more than once if and only if two types have its name.  So a function that the
    module of the types defines twice is reported as a clash, or a type that generates it is
    reported as declared more than once. -/
theorem clashes_reported (s : Settings) (own : PythonSettings) {types : List CodableType}
    (h : ∀ t ∈ types, t.IsExtracted) :
    (∀ t ∈ types, ∀ d : Direction,
      (∃ x : String, Python.functionName t.typeName d t.isPublic =
          (if t.access = .internal then "_" else "") ++ d.label ++ "_" ++ x ∧
        x ≠ "" ∧ ∀ c ∈ x.toList, Python.isSnakeChar c) ∧
      Text.isPlainName (Python.functionName t.typeName d t.isPublic).toList ∧
      Python.functionName t.typeName d t.isPublic ∉ Python.keywords) ∧
    (∀ f : String, Text.isPlainName f.toList →
      ((∃ a b : String, s!"Types '{a}' and '{b}' both generate function '{f}'" ∈
          (python s own).warnings types) ↔
        ∃ t ∈ types, ∃ t' ∈ types,
          t.typeName ≠ t'.typeName ∧ t.Generates f ∧ t'.Generates f)) ∧
    (∀ n : String, s!"Type '{n}' is declared more than once" ∈ (python s own).warnings types ↔
      List.Duplicate n (types.map (·.typeName))) ∧
    ∃ planned, (python s own).withPlans types = .ok planned ∧
      (python s own).module types = .ok (Python.moduleOf s own planned).source.text ∧
      ∀ f, List.Duplicate f (Python.functionSource own planned).defined →
        (∃ a b : String, s!"Types '{a}' and '{b}' both generate function '{f}'" ∈
            (python s own).warnings types) ∨
          ∃ t ∈ types, t.Generates f ∧
            s!"Type '{t.typeName}' is declared more than once" ∈ (python s own).warnings types := by
  refine ⟨fun t _ d => ?_, fun f => clash_mem_warnings_iff s own,
    fun n => repeated_mem_warnings_iff s own, ?_⟩
  · obtain ⟨hform, hplain⟩ := Python.exists_functionName_eq t.typeName d t.isPublic
    have hmark : (if t.isPublic then "" else "_") = if t.access = .internal then "_" else "" := by
      rw [CodableType.isPublic]
      cases t.access <;> rfl
    exact ⟨hmark ▸ hform, hplain⟩
  · obtain ⟨planned, hplanned, rfl, hplans⟩ := (python s own).exists_withPlans h
    refine ⟨planned, hplanned, by rw [module, hplanned]; rfl, fun f hf => ?_⟩
    obtain ⟨t, t', hsub, ht, ht'⟩ := exists_of_duplicate_defined own hplans hf
    by_cases hname : t.typeName = t'.typeName
    · refine .inr ⟨t, hsub.subset (by simp), ht, (repeated_mem_warnings_iff s own).2 ?_⟩
      rw [List.duplicate_iff_sublist]
      simpa [hname] using hsub.map (·.typeName)
    · exact .inl ((clash_mem_warnings_iff s own ht.isPlainName).2
        ⟨t, hsub.subset (by simp), t', hsub.subset (by simp), hname, ht, ht'⟩)

/-! ## Mirrors -/

/-- A mirror by its name. -/
def mirror (typeName : String) : Declaration where
  typeName := typeName
  kind := "extension"
  typeKind := "struct"
  enums := [⟨"CodingKeys", ["String", "CodingKey"], [⟨"host", none, []⟩], []⟩]
  options := []

/-- The type of a mirror. -/
def mirrorType (typeName : String) : CodableType :=
  ⟨typeName, .keyed ⟨"CodingKeys", [.leaf ⟨"host", "host", false, none, none, none⟩]⟩, .internal,
    [.encode, .decode], []⟩

/-- Two mirrors that differ in the case of their names, one of them declared twice. -/
def mirrors : List CodableType :=
  [mirrorType "HTTPMirror", mirrorType "HttpMirror", mirrorType "HttpMirror"]

theorem clashes_reported_mirrors :
    (∀ t ∈ mirrors, t.IsExtracted) ∧
      Text.isPlainName "_encode_http_mirror".toList ∧
      (∃ a b, Clash.text ⟨a, b, "_encode_http_mirror"⟩ ∈
        (python {} (.standalone (.str "mirrors"))).warnings mirrors) ∧
      "Type 'HttpMirror' is declared more than once" ∈
        (python {} (.standalone (.str "mirrors"))).warnings mirrors := by
  have h : ∀ t ∈ mirrors, t.IsExtracted := by
    intro t ht
    simp only [mirrors, List.mem_cons, List.not_mem_nil, or_false] at ht
    rcases ht with rfl | rfl | rfl
    · exact ⟨mirror "HTTPMirror", [], {}, {}, by rfl⟩
    · exact ⟨mirror "HttpMirror", [], {}, {}, by rfl⟩
    · exact ⟨mirror "HttpMirror", [], {}, {}, by rfl⟩
  have hplain : Text.isPlainName "_encode_http_mirror".toList := by decide
  have htypes : ∃ t ∈ mirrors, ∃ t' ∈ mirrors, t.typeName ≠ t'.typeName ∧
      t.Generates "_encode_http_mirror" ∧ t'.Generates "_encode_http_mirror" :=
    ⟨mirrorType "HTTPMirror", by simp [mirrors], mirrorType "HttpMirror", by simp [mirrors],
      by decide, ⟨.encode, by decide, rfl⟩, ⟨.encode, by decide, rfl⟩⟩
  obtain ⟨-, hclash, hrepeated, -⟩ := clashes_reported {} (.standalone (.str "mirrors")) h
  exact ⟨h, hplain, (hclash _ hplain).2 htypes, (hrepeated "HttpMirror").2 (by decide)⟩

end Generator

end CodecForge
