/-
  CodecForge — generators.

  A generator writes the codecs of types in one target language, under settings
  that it has read when it was made.

  * `Target` is a language, with what is known about it;
  * `Generator.make` reads the settings; only settings that cannot be read are
    refused; `makeShared` writes into settings that other generators share;
  * `Generator.warnings` finds what is odd about types, `Generator.module` is
    the text for types, and `Generator.generate` gives the text laid out, with
    warnings and `Metadata`;
  * `typesFrom` gives the types that a JSON value declares.
-/
import CodecForge.Extraction
import CodecForge.Layout
import CodecForge.Target.Python
import CodecForge.Target.Swift

namespace CodecForge

/-! ## Target languages -/

/-- A language that codecs are written in. -/
inductive Target where
  | python
  | swift
deriving DecidableEq, Repr

namespace Target

def name : Target → String
  | python => "python"
  | swift => "swift"

def fileExtension : Target → String
  | python => ".py"
  | swift => ".swift"

/-- The name of the generator for a language. -/
def generatorName : Target → String
  | python => "PythonGenerator"
  | swift => "SwiftGenerator"

/-- The module that holds the generator for a language. -/
def moduleName : Target → String
  | python => "autocodable.codegen.languages.python.generator"
  | swift => "autocodable.codegen.languages.swift.generator"

/-- How the variables of nested containers are spelled. -/
def style : Target → VariableStyle
  | python => .snake
  | swift => .camel

/-- The templates that come with a language, in order. -/
def templates : Target → List String
  | python =>
    ["enum_decode.py.j2", "enum_encode.py.j2", "keyed_decode.py.j2", "keyed_encode.py.j2",
      "module.py.j2", "single_value_decode.py.j2", "single_value_encode.py.j2"]
  | swift =>
    ["enum_decode.swift.j2", "enum_encode.swift.j2", "extension.swift.j2",
      "keyed_decode.swift.j2", "keyed_encode.swift.j2", "module.swift.j2",
      "single_value_decode.swift.j2", "single_value_encode.swift.j2"]

/-- The name of the settings of a language, short and with its module. -/
def settingsName : Target → String × String
  | python =>
    ("PythonConfig.__init__()", "autocodable.codegen.languages.python.config.PythonConfig()")
  | swift =>
    ("SwiftConfig.__init__()", "autocodable.codegen.languages.swift.config.SwiftConfig()")

end Target

/-! ## Generators -/

/-- A generator for a language, with the settings it was made with and the ones
    of the language that it has read from them. -/
inductive Generator where
  | python (settings : Settings) (own : PythonSettings)
  | swift (settings : Settings) (own : SwiftSettings)
deriving Repr

namespace Generator

def settings : Generator → Settings
  | python s _ => s
  | swift s _ => s

def target : Generator → Target
  | python _ _ => .python
  | swift _ _ => .swift

/-- The settings of the language. -/
def ownJson : Generator → Json
  | python _ own => own.toJson
  | swift _ own => own.toJson

/-- The entries of the settings of the language, which must be an object
    with strings for names and without the entry `self`. -/
def languageEntries (t : Target) (s : Settings) : Except SettingsFault (List (String × Json)) :=
  match s.languageConfig with
  | .obj es =>
    if !s.namesAreStrings then .error .nameNotString
    else if Entries.has "self" es then .error (.takenName t.settingsName.1 "self") else .ok es
  | v => .error (.notMapping t.settingsName.2 v.kindName)

/-- A generator for a language under settings. -/
def make (t : Target) (s : Settings) : Except SettingsFault Generator := do
  let es ← languageEntries t s
  match t with
  | .python => return python s (.ofEntries es)
  | .swift => return swift s (← SwiftSettings.ofEntries es)

/-- A generator under the defaults of its language, with entries for the settings
    of the language laid over them. -/
def makeWith (t : Target) (own : List (String × Json)) : Except SettingsFault Generator := do
  make t (← Settings.combine t.name [] [(Settings.languageKey, .obj own)])

/-- A generator under shared settings with entries for the settings of the
    language.  The entries are written into the shared settings, also if no
    generator can be made under them. -/
def makeShared (t : Target) (own : List (String × Json)) :
    EStateM SettingsFault Settings Generator := do
  if !own.isEmpty then
    let s ← get
    match s.languageConfig with
    | .obj es => set { s with languageConfig := .obj (Entries.putAll es own) }
    | v => throw (.notMergeable v.kindName)
  match make t (← get) with
  | .ok g => return g
  | .error e => throw e

/-! ## Warnings -/

/-- What is odd about a type, whatever the language; `seen` are the types before
    it. -/
def typeWarnings (seen : List String) (t : CodableType) : List String :=
  (if seen.contains t.typeName then [s!"Type '{t.typeName}' is declared more than once"] else []) ++
    t.ignoredEnums.map (fun name =>
      s!"Nested enum {t.typeName}.{name} is not used as a field group and was ignored") ++
    match t.shape with
    | .singleValue _ => []
    | .keyed s =>
      if s.fields.isEmpty then [s!"Type '{t.typeName}' has no coding keys"] else []
    | .singleValueForEnum s =>
      (if s.fields.isEmpty then [s!"Type '{t.typeName}' has no coding keys"] else []) ++
        if s.groups.isEmpty then []
        else [s!"Groups of enum '{t.typeName}' are ignored by the single value container"]

/-- What is odd about types, whatever the language. -/
def commonWarnings (seen : List String) : List CodableType → List String
  | [] => []
  | t :: ts => typeWarnings seen t ++ commonWarnings (t.typeName :: seen) ts

/-- The leaves that are read from an attribute of another name. -/
def attributeWarnings (t : CodableType) : List String :=
  match t.schema? with
  | none => []
  | some s => s.leaves.filterMap fun f =>
    let name := Python.attributeName f.localName
    if name = f.localName then none
    else some s!"Field {t.typeName}.{f.localName} is read from attribute '{name}'"

/-- The names of functions of a type that another type has taken, and the functions
    taken after it. -/
def nameClashes (typeName : String) (taken : List (String × String)) :
    List String → List String × List (String × String)
  | [] => ([], taken)
  | name :: names =>
    let clash := match Entries.get? name taken with
      | some other =>
        if other = typeName then []
        else [s!"Types '{other}' and '{typeName}' both generate function '{name}'"]
      | none => []
    let (rest, taken) := nameClashes typeName (Entries.put name typeName taken) names
    (clash ++ rest, taken)

/-- The functions of one type that another type has taken, and the functions
    taken after it. -/
def functionWarnings (taken : List (String × String)) (t : CodableType) (ds : List Direction) :
    List String × List (String × String) :=
  nameClashes t.typeName taken (ds.map fun d => Python.functionName t.typeName d t.isPublic)

/-- What is odd about types in Python. -/
def pythonWarnings (taken : List (String × String)) : List CodableType → List String
  | [] => []
  | t :: ts =>
    let (clashes, taken) := functionWarnings taken t t.directions
    attributeWarnings t ++ clashes ++ pythonWarnings taken ts

/-- What is odd about types. -/
def warnings (g : Generator) (types : List CodableType) : List String :=
  commonWarnings [] types ++
    match g with
    | python _ _ => pythonWarnings [] types
    | swift _ _ => []

/-! ## Texts -/

/-- The plans of a type, one for each of its directions, encode first. -/
def plansOf (g : Generator) (t : CodableType) : Except MissingContainer (List CodecPlan) :=
  ([Direction.encode, .decode].filter t.directions.contains).mapM fun d => t.plan d g.target.style

/-- The text of plans of one type. -/
def blockOf (g : Generator) (typeName : String) (plans : List CodecPlan) : String :=
  match g with
  | python _ own => Python.blockOf own plans
  | swift _ own => Swift.blockOf own typeName plans

/-- The text of one type, not laid out. -/
def block (g : Generator) (t : CodableType) : Except MissingContainer String := do
  return g.blockOf t.typeName (← g.plansOf t)

/-- The text for types with their plans, not laid out. -/
def moduleOf (g : Generator) (types : List (CodableType × List CodecPlan)) : String :=
  match g with
  | python s own => (Python.moduleOf s own types).source.text
  | swift s own => (Swift.fileOf s own (types.map fun t => (t.1.typeName, t.2))).source.text

/-- Types with their plans. -/
def withPlans (g : Generator) (types : List CodableType) :
    Except MissingContainer (List (CodableType × List CodecPlan)) :=
  types.mapM fun t => do return (t, ← g.plansOf t)

/-- The text for types, not laid out. -/
def module (g : Generator) (types : List CodableType) : Except MissingContainer String := do
  return g.moduleOf (← g.withPlans types)

/-! ## Results -/

/-- What is reported about a result. -/
structure Metadata where
  target : Target
  types : List String
  strategies : List (String × String)
  fieldCount : Nat
  hasGroups : Bool
deriving Repr

namespace Metadata

/-- The metadata of types written in a language. -/
def ofTypes (t : Target) (types : List CodableType) : Metadata where
  target := t
  types := types.map (·.typeName)
  strategies := Entries.ofPairs (types.map fun t => (t.typeName, t.strategy.text))
  fieldCount := types.foldl (fun n t => n + t.leafCount) 0
  hasGroups := types.any fun t => t.schema?.any fun s => !s.groups.isEmpty

/-- The entries of metadata in order. -/
def toEntries (m : Metadata) : List (String × Json) :=
  [("language", .str m.target.name), ("file_extension", .str m.target.fileExtension),
    ("type_count", .int m.types.length), ("types", .arr (m.types.map .str)),
    ("strategies", .obj (m.strategies.map fun s => (s.1, .str s.2))),
    ("field_count", .int m.fieldCount), ("has_groups", .bool m.hasGroups)]

end Metadata

/-- Generated source with what is reported about it. -/
structure Generated where
  code : String
  warnings : List String
  metadata : Metadata
deriving Repr

/-- Why nothing is generated. -/
inductive GenerationError where
  | declaration (e : DeclarationError)
  | schema (e : SchemaError)
  | plan (e : MissingContainer)
  | layout (e : Layout.Fault)
deriving Repr

/-- The text of an error, if it is one of those that carry a text. -/
def GenerationError.message? : GenerationError → Option String
  | .declaration e => some e.message
  | .schema e => some e.message
  | .plan _ | .layout _ => none

/-- The source for types, laid out. -/
def generate (g : Generator) (types : List CodableType) : Except GenerationError Generated := do
  let code ← (g.module types).mapError .plan
  let code ← (Layout.formatWith g.settings.indentSize code).mapError .layout
  return ⟨code, g.warnings types, .ofTypes g.target types⟩

end Generator

/-! ## From declarations -/

/-- The types that a value declares: an object or a list of declarations; an
    empty list or text declares none. -/
def typesFrom (data : Json) (overrides : List (String × Json)) :
    Except Generator.GenerationError (List CodableType) := do
  let ds ← (declarationsOf data).mapError .declaration
  (Extraction.extractAll ds overrides).1.mapError .schema

/-- Values that hold no declarations and cannot be searched for any. -/
def notIterable (data : Json) : Bool :=
  match data with
  | .null | .bool _ | .int _ | .float _ => true
  | _ => false

/-- The declarations that a value is searched for: an object is one, the items
    of a list and the characters of a text are taken one by one. -/
def declarationData (data : Json) : Json :=
  match data with
  | .str s => .arr (s.toList.map fun c => .str (String.ofList [c]))
  | v => v

end CodecForge
