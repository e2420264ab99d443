/-
  CodecForge — registered languages.

  A registry maps names of languages to generators, and aliases to names.  Names
  are compared in lower case.

  * `register` enters the generator first and then one alias after another, so
    that a conflict leaves what was entered before it;
  * `resolve` finds the name for a name or an alias;
  * `create` makes a generator from a `ConfigSource`;
  * `generateFrom` goes all the way from declarations as JSON to code, `generateAny` does so
    from a value of any kind;
  * `bundled` is the registry of the languages that come with the program.
-/
import CodecForge.Configuration
import CodecForge.Generator

namespace CodecForge

/-! ## Errors -/

/-- Why a generator cannot be made. -/
inductive CreationFailure where
  | config (e : ConfigFailure)
  | settings (e : SettingsFault)
deriving DecidableEq, Repr

def CreationFailure.message : CreationFailure → String
  | .config e => e.message
  | .settings e => e.message

/-- Why a registry refuses. -/
inductive RegistryError where
  | notGenerator
  | aliasIsLanguage (alias_ : String)
  | aliasTaken (alias_ language : String)
  | unknown (language : String) (available : List String)
  | badConfig (kind : String)
  | notCreated (language : String) (e : CreationFailure)
deriving DecidableEq, Repr

def RegistryError.message : RegistryError → String
  | .notGenerator => "Generator class must inherit from CodeGenerator"
  | .aliasIsLanguage a => s!"Alias '{a}' conflicts with existing primary language"
  | .aliasTaken a language => s!"Alias '{a}' already points to '{language}'"
  | .unknown language available =>
    s!"No generator registered for language: {language}. Available: " ++ ", ".intercalate available
  | .badConfig kind => s!"Invalid config type: <class '{kind}'>"
  | .notCreated language e => s!"Failed to create {language} generator: {e.message}"

/-- Why a call to generate code gives no result. -/
inductive CallFailure where
  /-- a value of a kind that cannot be searched for declarations -/
  | notIterable (kind : String)
  | registry (e : RegistryError)
deriving DecidableEq, Repr

def CallFailure.message : CallFailure → String
  | .notIterable kind => s!"'{kind}' object is not iterable"
  | .registry e => e.message

/-! ## Registries -/

/-- Generators under the names of languages, and names under aliases. -/
structure Registry where
  generators : List (String × Target) := []
  aliases : List (String × String) := []
deriving DecidableEq, Repr

/-- What may be offered for registration. -/
inductive Candidate where
  | generator (t : Target)
  | notGenerator
deriving DecidableEq, Repr

namespace Registry

/-- The texts in order. -/
def sorted (names : List String) : List String := names.mergeSort fun a b => decide (a ≤ b)

/-- The names of languages, in order. -/
def languages (r : Registry) : List String := sorted (r.generators.map (·.1))

/-- The aliases that point to a language, in order. -/
def aliasesOf (r : Registry) (language : String) : List String :=
  let key := Text.lowerString language
  sorted ((r.aliases.filter (·.2 = key)).map (·.1))

/-- Whether a name or an alias is known. -/
def supports (r : Registry) (language : String) : Bool :=
  let key := Text.lowerString language
  Entries.has key r.generators || Entries.has key r.aliases

/-- The name of the language for a name or an alias. -/
def resolve (r : Registry) (language : String) : Except RegistryError String :=
  let key := Text.lowerString language
  if Entries.has key r.generators then .ok key else
  match Entries.get? key r.aliases with
  | some name => .ok name
  | none => .error (.unknown language r.languages)

/-- The generator for a name or an alias; none if an alias points to a language
    that is not there. -/
def generatorFor (r : Registry) (language : String) : Except RegistryError (Option Target) := do
  return Entries.get? (← r.resolve language) r.generators

/-! ## Changing a registry -/

/-- A change: what was entered before a refusal stays. -/
abbrev Change := EStateM RegistryError Registry

/-- Enters an alias for the language `key`. -/
def addAlias (key : String) (replace : Bool) (alias_ : String) : Change Unit := do
  let r ← get
  let a := Text.lowerString alias_
  if a = key then return
  if !replace then
    if Entries.has a r.generators then throw (.aliasIsLanguage alias_)
    match Entries.get? a r.aliases with
    | some other => if other ≠ key then throw (.aliasTaken alias_ other)
    | none => pure ()
  set { r with aliases := Entries.put a key r.aliases }

/-- Enters a generator and its aliases.  Without `replace` a language that is
    there stays as it is. -/
def register (language : String) (c : Candidate) (aliases : List String) (replace : Bool) :
    Change Unit := do
  match c with
  | .notGenerator => throw .notGenerator
  | .generator t =>
    let key := Text.lowerString language
    let r ← get
    if Entries.has key r.generators && !replace then return
    set { r with generators := Entries.put key t r.generators }
    aliases.forM (addAlias key replace)

/-- Drops a language and the aliases that point to it. -/
def unregister (r : Registry) (language : String) : Registry :=
  let key := Text.lowerString language
  ⟨Entries.erase key r.generators, r.aliases.filter fun a => a.2 ≠ key⟩

/-- The registry after a change, which may have been refused half-way. -/
def changed (r : Registry) (c : Change Unit) : Except RegistryError Unit × Registry :=
  match c r with
  | .ok _ r => (.ok (), r)
  | .error e r => (.error e, r)

/-- The languages that come with the program. -/
def bundled : Registry :=
  ⟨[("python", .python), ("swift", .swift)], [("py", "python")]⟩

/-! ## Making generators -/

/-- Where the settings of a generator come from. -/
inductive ConfigSource where
  | defaults
  | settings (s : Settings)
  | file (name : String)
  | entries (es : List (String × Json))
  | other (v : Json)
deriving Repr

/-- A JSON value as a source of settings. -/
def ConfigSource.ofJson : Json → ConfigSource
  | .null => .defaults
  | .str name => .file name
  | .obj es => .entries es
  | v => .other v

/-- The settings of a source for a language. -/
def ConfigSource.load (files : Files) (language : String) :
    ConfigSource → Except RegistryError (Except ConfigFailure Settings)
  | .defaults => .ok (loadSettings files language [] none)
  | .settings s => .ok (.ok s)
  | .file name => .ok (loadSettings files language [] (some name))
  | .entries es => .ok (loadSettings files language es none)
  | .other v => .error (.badConfig v.kindName)

/-- A generator for a name or an alias. -/
def create (r : Registry) (files : Files) (language : String) (source : ConfigSource) :
    Except RegistryError Generator := do
  let key ← r.resolve language
  match Entries.get? key r.generators with
  | none => .error (.unknown language r.languages)
  | some t =>
    match ← source.load files key with
    | .error e => .error (.notCreated language (.config e))
    | .ok s => (Generator.make t s).mapError fun e => .notCreated language (.settings e)

/-- What comes of generating code in a language for a value that declares types: a refused
    language, or a result.  The value is read before the language is looked at. -/
def generateFrom (r : Registry) (files : Files) (data : Json) (language : String)
    (source : ConfigSource) (overrides : List (String × Json)) :
    Except RegistryError (Except Generator.GenerationError Generator.Generated) :=
  match typesFrom (declarationData data) overrides with
  | .error e => .ok (.error e)
  | .ok types => do return (← r.create files language source).generate types

/-- What comes of generating code in a language for a value of any kind.  A value is searched
    for declarations before it is read as such. -/
def generateAny (r : Registry) (files : Files) (data : Json) (language : String)
    (source : ConfigSource) (overrides : List (String × Json)) :
    Except CallFailure (Except Generator.GenerationError Generator.Generated) :=
  if notIterable data then .error (.notIterable data.kindName)
  else (r.generateFrom files data language source overrides).mapError .registry

/-! ## Information -/

/-- What is known about a registered language. -/
structure LanguageInfo where
  target : Target
  aliases : List String
  defaults : Json
deriving Repr

/-- What is known about a name or an alias. -/
def info (r : Registry) (files : Files) (language : String) :
    Except RegistryError LanguageInfo := do
  let key ← r.resolve language
  let g ← r.create files key .defaults
  return ⟨g.target, r.aliasesOf key, g.settings.languageConfig⟩

/-- The entries of information in order. -/
def LanguageInfo.toEntries (i : LanguageInfo) : List (String × Json) :=
  [("name", .str i.target.name), ("class", .str i.target.generatorName),
    ("file_extension", .str i.target.fileExtension), ("aliases", .arr (i.aliases.map .str)),
    ("module", .str i.target.moduleName), ("container_style", .str i.target.style.label),
    ("templates", .arr (i.target.templates.map .str)), ("default_config", i.defaults)]

end Registry

end CodecForge
