/-
  CodecForge — the names that a Python function writes.

  The text of a function is its signature, and below it a body in which no function is
  named (`source_eq_signature`).  The names of the body are those of its steps, besides the
  type itself and what the kind of the function calls for.

  * `runtimeNames_planSource`: the runtime names in the text of a plan are those that are
    imported for the plan;
  * `mem_types_planSource`: the types in it are the type of the plan and the adapters of
    its steps;
  * `defined_planSource`: it defines the function of the plan, and nothing else.
-/
import CodecForge.Proofs.Target.Names
import CodecForge.Target.Python

namespace CodecForge

open Source (plain line)

namespace PythonFunction

/-! ## Steps -/

/-- The line of a step in a direction. -/
def stepLine (typeName : String) : Direction → PythonStep → Line
  | .encode => encodeStep
  | .decode => decodeStep typeName

theorem names_stepLine (typeName : String) (d : Direction) (s : PythonStep) :
    (stepLine typeName d s).names =
      match s.transform, s.conditional, d with
      | some t, true, .encode => [.runtime .transformFromValue, .type t]
      | some t, true, .decode => [.runtime .transformValue, .type t]
      | some t, false, _ => [.type t]
      | none, _, .encode => []
      | none, _, .decode => [.runtime .fieldType, .type typeName] := by
  cases d <;> simp only [stepLine, encodeStep, decodeStep] <;>
    cases s.transform <;> cases s.conditional <;> rfl

/-- The lines of the steps of a function. -/
def stepSource (f : PythonFunction) (d : Direction) : Source :=
  f.steps.map (stepLine f.typeName d)

/-- The types in the lines of steps are the adapters, and the type whose attributes are
    read without one. -/
theorem mem_types_stepSource {f : PythonFunction} {d : Direction} {a : String} :
    a ∈ (f.stepSource d).types ↔ (∃ s ∈ f.steps, s.transform = some a) ∨
      d = .decode ∧ a = f.typeName ∧ ∃ s ∈ f.steps, s.transform = none := by
  rw [Source.mem_types, stepSource, Source.names_map, List.mem_flatMap]
  simp only [← exists_and_left]
  rw [← exists_or]
  refine exists_congr fun s => ?_
  rw [names_stepLine]
  cases d <;> cases s.transform <;> cases s.conditional <;> simp [eq_comm, and_comm]

theorem function_notMem_stepSource (f : PythonFunction) (d : Direction) (name : String) :
    .function name ∉ (f.stepSource d).names := by
  rw [stepSource, Source.names_map, List.mem_flatMap]
  rintro ⟨s, -, hs⟩
  rw [names_stepLine] at hs
  cases d <;> cases ht : s.transform <;> cases hc : s.conditional <;> simp [ht, hc] at hs

/-! ## Functions -/

@[simp]
theorem names_docstringSource (f : PythonFunction) : f.docstringSource.names = [] := by
  unfold docstringSource
  cases f.docstring <;> rfl

@[simp]
theorem names_nestedSource (f : PythonFunction) : f.nestedSource.names = [] := by
  simp [nestedSource]

@[simp]
theorem names_initializerCall (f : PythonFunction) :
    f.initializerCall.names = .type f.typeName :: (f.stepSource .decode).names := by
  unfold initializerCall
  split
  · next h => simp [stepSource, List.isEmpty_iff.1 h]
  · simp [stepSource, stepLine]

@[simp]
theorem names_encodeBranches (typeName : String) :
    ∀ (word : String) (cs : List PythonCase),
      (encodeBranches typeName word cs).names = cs.map fun _ => .type typeName
  | _, [] => rfl
  | _, c :: cs => by simp [encodeBranches, names_encodeBranches typeName "elif" cs]

@[simp]
theorem names_refuseValue (indent typeName : String) :
    (refuseValue indent typeName).names = [.runtime .encodingError] := rfl

@[simp]
theorem names_decodeBranch (typeName : String) (c : PythonCase) :
    (decodeBranch typeName c).names = [.type typeName] := rfl

/-- The names below the signature of a function. -/
def bodyNames (f : PythonFunction) : ContainerKind → Direction → List Token
  | .keyed, .encode => (f.stepSource .encode).names
  | .keyed, .decode => .type f.typeName :: (f.stepSource .decode).names
  | .singleValue, .encode => []
  | .singleValue, .decode => [.type f.typeName, .runtime .fieldType, .type f.typeName]
  | .singleValueForEnum, .encode =>
    (f.cases.map fun _ => .type f.typeName) ++ [.runtime .encodingError]
  | .singleValueForEnum, .decode =>
    (f.cases.map fun _ => .type f.typeName) ++ [.runtime .dataCorruptedError]

/-- **A function is its signature, and below it a body with these names.** -/
theorem source_eq_signature (f : PythonFunction) (k : ContainerKind) (d : Direction) :
    ∃ body, f.source k d = line (.text "def " :: f.signature ++ [.text ":"]) ++ body ∧
      body.names = f.bodyNames k d := by
  -- with the parts bracketed to the right, all that follows the signature is the body
  cases k <;> cases d <;>
    simp only [source, keyedEncode, keyedDecode, singleValueEncode, singleValueDecode, enumEncode,
      enumDecode, headSource, List.append_assoc] <;>
    refine ⟨_, rfl, ?_⟩
  case keyed.encode => simp [bodyNames, stepSource, stepLine]
  case keyed.decode => simp [bodyNames]
  case singleValue.encode => simp [bodyNames]
  case singleValue.decode => simp [bodyNames, fieldType]
  case singleValueForEnum.encode => cases h : f.cases <;> simp [bodyNames, h]
  case singleValueForEnum.decode => simp [bodyNames, List.map_eq_flatMap]

theorem function_notMem_bodyNames (f : PythonFunction) (k : ContainerKind) (d : Direction)
    (name : String) : .function name ∉ f.bodyNames k d := by
  cases k <;> cases d <;> simp [bodyNames, function_notMem_stepSource]

/-- The types of a body are the type itself and the adapters of its steps. -/
theorem type_mem_bodyNames {f : PythonFunction} {k : ContainerKind} {d : Direction} {a : String}
    (h : .type a ∈ f.bodyNames k d) : a = f.typeName ∨ ∃ s ∈ f.steps, s.transform = some a := by
  have hsteps : .type a ∈ (f.stepSource d).names →
      a = f.typeName ∨ ∃ s ∈ f.steps, s.transform = some a := by
    intro hmem
    rcases mem_types_stepSource.1 (Source.mem_types.2 hmem) with hs | ⟨-, ha, -⟩
    · exact .inr hs
    · exact .inl ha
  cases k <;> cases d <;> simp [bodyNames] at h
  case keyed.encode => exact hsteps h
  case keyed.decode => exact h.elim .inl hsteps
  all_goals simp [h]

theorem names_source (f : PythonFunction) (k : ContainerKind) (d : Direction) :
    (f.source k d).names = f.signature.names ++ f.bodyNames k d := by
  obtain ⟨body, h, hnames⟩ := f.source_eq_signature k d
  rw [h, ← hnames]
  simp

/-- A function defines what stands first in its signature. -/
theorem defined_source (f : PythonFunction) {name : String} {rest : Line}
    (hname : f.signature = .function name :: rest) (k : ContainerKind) (d : Direction) :
    (f.source k d).defined = [name] := by
  obtain ⟨body, h, hnames⟩ := f.source_eq_signature k d
  have hbody : body.defined = [] :=
    Source.defined_eq_nil fun name => hnames ▸ f.function_notMem_bodyNames k d name
  rw [h, Source.defined_append, hbody, hname]
  rfl

end PythonFunction

/-! ## Plans -/

namespace Python

theorem signature_eq_function (own : PythonSettings) (name typeName : String) (d : Direction) :
    ∃ rest, signature own name typeName d = .function name :: rest := by
  cases d <;> simp only [signature] <;> split <;> exact ⟨_, rfl⟩

theorem names_signature (own : PythonSettings) (name typeName : String) (d : Direction) :
    (signature own name typeName d).names = .function name ::
      if own.typeHints then
        match d with
        | .encode => [.type typeName, .runtime .encoder]
        | .decode => [.runtime .decoder, .type typeName]
      else [] := by
  cases d <;> simp only [signature] <;> split <;> rfl

/-- The lines of the steps of a plan, as they stand in its function. -/
def stepSource (own : PythonSettings) (p : CodecPlan) : Source :=
  (functionOf own p).stepSource p.direction

variable (own : PythonSettings) (p : CodecPlan)

theorem names_planSource : (planSource own p).names =
    (signature own (planFunction p) p.typeName p.direction).names ++
      (functionOf own p).bodyNames p.kind p.direction :=
  PythonFunction.names_source ..

theorem mem_types_stepSource {a : String} : a ∈ (stepSource own p).types ↔
    (∃ st ∈ p.steps, st.transform = some a) ∨
      p.direction = .decode ∧ a = p.typeName ∧ ∃ st ∈ p.steps, st.transform = none := by
  rw [stepSource, PythonFunction.mem_types_stepSource]
  simp [functionOf]

/-- The types in the text of a plan are the type of the plan and the adapters of its steps. -/
theorem mem_types_planSource {own : PythonSettings} {p : CodecPlan} {a : String}
    (h : a ∈ (planSource own p).types) :
    a = p.typeName ∨ ∃ st ∈ p.steps, st.transform = some a := by
  rw [Source.mem_types, names_planSource, names_signature, List.mem_append] at h
  rcases h with h | h
  · left
    cases hd : p.direction <;> split at h <;> simp [hd] at h <;> exact h
  · simpa [functionOf] using PythonFunction.type_mem_bodyNames h

/-- The function of a plan defines the name that the plan is known by, and no other. -/
theorem defined_planSource : (planSource own p).defined = [planFunction p] := by
  obtain ⟨rest, h⟩ := signature_eq_function own (planFunction p) p.typeName p.direction
  exact PythonFunction.defined_source _ h _ _

/-- **The runtime names that a plan is given are those in the text of its function.** -/
theorem runtimeNames_planSource : (planSource own p).runtimeNames = runtimeNamesOf own p := by
  rw [Source.runtimeNames_eq, names_planSource, List.filterMap_append, names_signature,
    runtimeNamesOf]
  obtain ⟨typeName, d, isPublic, body⟩ := p
  congr 1
  · cases d <;> split <;> rfl
  cases body <;> cases d
  case keyed.encode cs steps | keyed.decode cs steps =>
    simp only [CodecPlan.kind, PythonFunction.bodyNames, PythonFunction.stepSource, functionOf,
      Source.names_map, List.filterMap_cons, Token.runtime?, List.filterMap_flatMap,
      List.flatMap_map]
    rw [List.filterMap_eq_flatMap_toList]
    refine List.flatMap_congr fun st _ => ?_
    rw [PythonFunction.names_stepLine]
    cases st.transform <;> cases st.field.conditional <;> rfl
  case singleValue.encode => rfl
  case singleValue.decode => rfl
  case singleValueForEnum.encode =>
    simp [CodecPlan.kind, PythonFunction.bodyNames]
  case singleValueForEnum.decode =>
    simp [CodecPlan.kind, PythonFunction.bodyNames]

end Python

end CodecForge
