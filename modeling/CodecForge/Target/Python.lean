/-
  CodecForge — Python source.

  A Python module holds an encode and a decode function for every type.

  * `attributeName` and `functionName` are the names the module uses;
  * `PythonSettings` are the settings of the language;
  * `PythonFunction` holds what the text of one function depends on, and
    `PythonFunction.source` is that text; `PythonModule` does so for a module;
  * `functionOf` and `moduleOf` read them off plans and types;
  * `runtimeNamesOf` are the names that the module imports from the runtime.
-/
import CodecForge.Naming.Sanitizer
import CodecForge.Plan
import CodecForge.Settings
import CodecForge.Source

namespace CodecForge

/-! ## Names -/

namespace Python

/-- The keywords of the language. -/
def keywords : List String :=
  ["False", "None", "True", "and", "as", "assert", "async", "await", "break", "class", "continue",
    "def", "del", "elif", "else", "except", "finally", "for", "from", "global", "if", "import",
    "in", "is", "lambda", "nonlocal", "not", "or", "pass", "raise", "return", "try", "while",
    "with", "yield"]

/-- The words that names of functions keep clear of. -/
def words : Naming.WordSets := ⟨keywords, []⟩

/-- The attribute a local name is read from: a keyword takes an underscore. -/
def attributeName (localName : String) : String :=
  if keywords.contains localName then localName ++ "_" else localName

/-- The function for a type and a direction; one that is not public begins with
    an underscore. -/
def functionName (typeName : String) (d : Direction) (isPublic : Bool) : String :=
  (if isPublic then "" else "_") ++ d.label ++ "_" ++
    Naming.sanitized words typeName .snake "_"

/-- The part of a dotted name before the first dot. -/
def topLevelName (name : String) : String :=
  String.ofList (name.toList.takeWhile (· ≠ '.'))

end Python

/-! ## Settings -/

/-- The settings of the language, read. -/
structure PythonSettings where
  runtimeModule : Json
  typeModule : Option Json
  registerCodecs : Bool
  typeHints : Bool
  docstrings : Bool
deriving Repr

namespace PythonSettings

/-- The value of an entry, unless it is empty. -/
def nonEmpty? (es : List (String × Json)) (name : String) : Option Json :=
  (Entries.get? name es).filter Json.truthy

/-- Whether an entry is set, with a default for a missing one. -/
def flag (es : List (String × Json)) (name : String) (default : Bool) : Bool :=
  ((Entries.get? name es).map Json.truthy).getD default

def defaultRuntime : String := "autocodable.runtime"

/-- The settings that entries state. -/
def ofEntries (es : List (String × Json)) : PythonSettings where
  runtimeModule := (nonEmpty? es "runtime_module").getD (.str defaultRuntime)
  typeModule := nonEmpty? es "type_module"
  registerCodecs := flag es "register_codecs" true
  typeHints := flag es "emit_type_hints" true
  docstrings := flag es "emit_docstrings" false

/-- The settings of a module that imports its types. -/
def standalone (typeModule : Json) : PythonSettings :=
  ofEntries [("type_module", typeModule), ("register_codecs", .bool true)]

def toJson (s : PythonSettings) : Json :=
  .obj [("runtime_module", s.runtimeModule), ("type_module", s.typeModule.getD .null),
    ("register_codecs", .bool s.registerCodecs), ("emit_type_hints", .bool s.typeHints),
    ("emit_docstrings", .bool s.docstrings)]

end PythonSettings

/-! ## Functions -/

/-- A nested container as a function opens it. -/
structure PythonContainer where
  variable_ : String
  parent : String
  key : String
deriving Repr

/-- A leaf as a function writes or reads it, from the attribute `member`. -/
structure PythonStep where
  container : String
  key : String
  member : String
  transform : Option String
  conditional : Bool
deriving Repr

/-- A case as a function writes or reads it. -/
structure PythonCase where
  key : String
  member : String
deriving Repr

/-- What the text of a function depends on. -/
structure PythonFunction where
  typeName : String
  signature : Line
  docstring : Option String
  binding : String
  containers : List PythonContainer
  steps : List PythonStep
  cases : List PythonCase
deriving Repr

namespace PythonFunction

open Source (plain line blank)

/-- The docstring, if there is one. -/
def docstringSource (f : PythonFunction) : Source :=
  match f.docstring with
  | none => []
  | some d => plain s!"    \"\"\"{d}\"\"\""

/-- The signature and the docstring. -/
def headSource (f : PythonFunction) : Source :=
  line (.text "def " :: f.signature ++ [.text ":"]) ++ f.docstringSource

/-- The lines that open nested containers. -/
def nestedSource (f : PythonFunction) : Source :=
  f.containers.flatMap fun c =>
    plain s!"    {c.variable_} = {c.parent}.nested_container({literal c.key})"

/-- The line that writes a leaf. -/
def encodeStep (s : PythonStep) : Line :=
  let value := s!"value.{s.member}"
  let key := literal s.key
  match s.transform, s.conditional with
  | some t, true =>
    [.text s!"    {s.container}.encode_if_present(", .runtime .transformFromValue, .text "(",
      .type t, .text s!", {value}), {key})"]
  | some t, false =>
    [.text s!"    {s.container}.encode(", .type t, .text s!".from_value({value}), {key})"]
  | none, true => [.text s!"    {s.container}.encode_if_present({value}, {key})"]
  | none, false => [.text s!"    {s.container}.encode({value}, {key})"]

/-- The declared type of an attribute, looked up when the function runs. -/
def fieldType (typeName member : String) : Line :=
  [.runtime .fieldType, .text "(", .type typeName, .text s!", {literal member})"]

/-- The line that reads a leaf. -/
def decodeStep (typeName : String) (s : PythonStep) : Line :=
  let key := literal s.key
  let target := s!"        {s.member}="
  match s.transform, s.conditional with
  | some t, true =>
    [.text target, .runtime .transformValue,
      .text s!"({s.container}.decode_if_present({key}, ", .type t, .text ")),"]
  | some t, false =>
    [.text s!"{target}{s.container}.decode({key}, ", .type t, .text ").value(),"]
  | none, true =>
    .text s!"{target}{s.container}.decode_if_present({key}, " ::
      fieldType typeName s.member ++ [.text "),"]
  | none, false =>
    .text s!"{target}{s.container}.decode({key}, " ::
      fieldType typeName s.member ++ [.text "),"]

/-- A function that writes fields. -/
def keyedEncode (f : PythonFunction) : Source :=
  f.headSource ++ plain "    container = encoder.container()" ++ f.nestedSource ++
    f.steps.map encodeStep

/-- The call of the initializer in a function that reads fields. -/
def initializerCall (f : PythonFunction) : Source :=
  if f.steps.isEmpty then line [.text "    return ", .type f.typeName, .text "()"]
  else
    line [.text "    return ", .type f.typeName, .text "("] ++
      f.steps.map (decodeStep f.typeName) ++ plain "    )"

/-- A function that reads fields. -/
def keyedDecode (f : PythonFunction) : Source :=
  f.headSource ++ plain "    container = decoder.container()" ++ f.nestedSource ++
    f.initializerCall

/-- A function that writes one property. -/
def singleValueEncode (f : PythonFunction) : Source :=
  f.headSource ++ plain "    container = encoder.single_value_container()" ++
    plain s!"    container.encode(value.{f.binding})"

/-- A function that reads one property. -/
def singleValueDecode (f : PythonFunction) : Source :=
  f.headSource ++ plain "    container = decoder.single_value_container()" ++
    line (.text "    return " :: .type f.typeName :: .text s!"({f.binding}=container.decode(" ::
      fieldType f.typeName f.binding ++ [.text "))"])

/-- The branches that write a tag; the first is opened by `word`. -/
def encodeBranches (typeName word : String) : List PythonCase → Source
  | [] => []
  | c :: cs =>
    line [.text s!"    {word} value is ", .type typeName, .text s!".{c.member}:"] ++
      plain s!"        container.encode({literal c.key})" ++ encodeBranches typeName "elif" cs

/-- The line that refuses a value that is no case. -/
def refuseValue (indent typeName : String) : Source :=
  let reason := literal s!"Not a case of {typeName}"
  line [.text s!"{indent}raise ", .runtime .encodingError,
    .text s!".invalid_value(value, container.coding_path, {reason})"]

/-- A function that writes a tag. -/
def enumEncode (f : PythonFunction) : Source :=
  f.headSource ++ plain "    container = encoder.single_value_container()" ++
    encodeBranches f.typeName "if" f.cases ++
    if f.cases.isEmpty then refuseValue "    " f.typeName
    else plain "    else:" ++ refuseValue "        " f.typeName

/-- The branch that reads the tag of a case. -/
def decodeBranch (typeName : String) (c : PythonCase) : Source :=
  plain s!"    if string_value == {literal c.key}:" ++
    line [.text "        return ", .type typeName, .text s!".{c.member}"]

/-- A function that reads a tag. -/
def enumDecode (f : PythonFunction) : Source :=
  f.headSource ++ plain "    container = decoder.single_value_container()" ++
    plain "    string_value = container.decode(str)" ++
    f.cases.flatMap (decodeBranch f.typeName) ++
    line [.text "    raise ", .runtime .dataCorruptedError,
      .text ".in_container(container, f\"Invalid value: \x7bstring_value\x7d\")"]

/-- The lines of a function of a kind in a direction. -/
def source (f : PythonFunction) : ContainerKind → Direction → Source
  | .keyed, .encode => f.keyedEncode
  | .keyed, .decode => f.keyedDecode
  | .singleValue, .encode => f.singleValueEncode
  | .singleValue, .decode => f.singleValueDecode
  | .singleValueForEnum, .encode => f.enumEncode
  | .singleValueForEnum, .decode => f.enumDecode

end PythonFunction

/-! ## Modules -/

/-- A type for which the module registers functions. -/
structure PythonRegistration where
  typeName : String
  encode : Option String
  decode : Option String
deriving Repr

/-- What the text of a module depends on. -/
structure PythonModule where
  header : Option String
  typeHints : Bool
  runtimeModule : String
  runtimeImports : List String
  typeModule : String
  typeImports : List String
  exports : List String
  blocks : List String
  registrations : List PythonRegistration
deriving Repr

namespace PythonModule

open Source (plain line blank)

/-- An argument of a registration, none for a function that is not there. -/
def registrationArgument (label : String) : Option String → Line
  | none => []
  | some f => [.text s!", {label}=", .function f]

/-- The line that registers the functions of a type. -/
def registrationLine (r : PythonRegistration) : Line :=
  [.runtime .registerCodec, .text "(", .type r.typeName] ++
    registrationArgument "encode" r.encode ++ registrationArgument "decode" r.decode ++
    [.text ")"]

/-- The lines between `before` and `after`, nothing at all for no lines. -/
def surrounded (before ls after : Source) : Source :=
  if ls.isEmpty then [] else before ++ ls ++ after

/-- The header comment. -/
def headerSource (m : PythonModule) : Source :=
  match m.header with
  | none => []
  | some h => plain (comment "#" h)

/-- The line that imports types. -/
def typeImportSource (m : PythonModule) : Source :=
  let names := ", ".intercalate m.typeImports
  if m.typeImports.isEmpty then [] else plain s!"from {m.typeModule} import {names}"

/-- The lines before the functions. -/
def prologue (m : PythonModule) : Source :=
  m.headerSource ++
    (if m.typeHints then plain "from __future__ import annotations" ++ blank else []) ++
    surrounded (plain s!"from {m.runtimeModule} import (")
      (m.runtimeImports.flatMap fun n => plain s!"    {n},") (plain ")") ++
    m.typeImportSource ++
    surrounded (blank ++ plain "__all__ = [")
      (m.exports.flatMap fun n => plain s!"    {literal n},") (plain "]")

/-- The lines of the functions. -/
def blockSource (m : PythonModule) : Source :=
  m.blocks.flatMap fun b => blank ++ blank ++ plain b

/-- The lines after the functions. -/
def epilogue (m : PythonModule) : Source :=
  surrounded (blank ++ blank) (m.registrations.map registrationLine) []

def source (m : PythonModule) : Source := m.prologue ++ m.blockSource ++ m.epilogue

end PythonModule

/-! ## From types to functions -/

namespace Python

/-- The signature of a function. -/
def signature (s : PythonSettings) (name typeName : String) : Direction → Line
  | .encode =>
    if s.typeHints then
      [.function name, .text "(value: ", .type typeName, .text ", encoder: ", .runtime .encoder,
        .text ") -> None"]
    else [.function name, .text "(value, encoder)"]
  | .decode =>
    if s.typeHints then
      [.function name, .text "(decoder: ", .runtime .decoder, .text ") -> ", .type typeName]
    else [.function name, .text "(decoder)"]

/-- The one line that describes a function. -/
def docstring (typeName binding : String) : ContainerKind → Direction → String
  | .keyed, .encode => s!"Encode {typeName} into a keyed container."
  | .keyed, .decode => s!"Decode {typeName} from a keyed container."
  | .singleValue, .encode => s!"Encode {typeName} as its {binding} value."
  | .singleValue, .decode => s!"Decode {typeName} from its {binding} value."
  | .singleValueForEnum, .encode => s!"Encode {typeName} as its string tag."
  | .singleValueForEnum, .decode => s!"Decode {typeName} from its string tag."

/-- The attribute of the property that a plan writes. -/
def bindingOf (p : CodecPlan) : String := attributeName (p.binding?.getD "")

/-- What the text of the function of a plan depends on. -/
def functionOf (s : PythonSettings) (p : CodecPlan) : PythonFunction where
  typeName := p.typeName
  signature := signature s (functionName p.typeName p.direction p.isPublic) p.typeName p.direction
  docstring :=
    if s.docstrings then some (docstring p.typeName (bindingOf p) p.kind p.direction) else none
  binding := bindingOf p
  containers := p.nested.map fun c => ⟨c.variable_, c.parent.getD "", c.key.getD ""⟩
  steps := p.steps.map fun t =>
    ⟨t.container.variable_, t.field.key, attributeName t.field.localName, t.transform,
      t.field.conditional⟩
  cases := p.cases.map fun c => ⟨c.key, attributeName c.localName⟩

/-- The lines of the function of a plan. -/
def planSource (s : PythonSettings) (p : CodecPlan) : Source :=
  (functionOf s p).source p.kind p.direction

/-- The functions of a type, with two blank lines between them. -/
def blockOf (s : PythonSettings) (plans : List CodecPlan) : String :=
  "\n\n\n".intercalate (plans.map fun p => Text.trimEnd (planSource s p).text)

/-! ## From types to modules -/

/-- The names of the runtime that the function of a plan writes. -/
def runtimeNamesOf (s : PythonSettings) (p : CodecPlan) : List RuntimeName :=
  let hints := if s.typeHints then [if p.direction = .encode then .encoder else .decoder] else []
  let steps := p.steps.filterMap fun t =>
    match t.transform, p.direction with
    | none, .decode => some .fieldType
    | none, .encode => none
    | some _, .encode => if t.field.conditional then some .transformFromValue else none
    | some _, .decode => if t.field.conditional then some .transformValue else none
  hints ++
    match p.kind, p.direction with
    | .singleValueForEnum, .encode => [.encodingError]
    | .singleValueForEnum, .decode => [.dataCorruptedError]
    | .singleValue, .decode => .fieldType :: steps
    | _, _ => steps

/-- The top-level names of the types that the function of a plan writes. -/
def typeNamesOf (p : CodecPlan) : List String :=
  topLevelName p.typeName :: p.transforms.map topLevelName

/-- The texts in order, each once. -/
def sortedNames (names : List String) : List String :=
  (names.eraseDups).mergeSort fun a b => decide (a ≤ b)

/-- The function of a plan. -/
def planFunction (p : CodecPlan) : String := functionName p.typeName p.direction p.isPublic

/-- The functions that a type registers. -/
def registrationOf (typeName : String) (plans : List CodecPlan) : PythonRegistration :=
  ⟨typeName, (plans.find? (·.direction = .encode)).map planFunction,
    (plans.find? (·.direction = .decode)).map planFunction⟩

/-- The header comment that settings ask for. -/
def headerOf (s : Settings) : Option String :=
  if s.addComments.truthy && s.header.truthy then some s.header.text else none

/-- What the text of a module depends on, for types with their plans. -/
def moduleOf (s : Settings) (own : PythonSettings) (types : List (CodableType × List CodecPlan)) :
    PythonModule :=
  let plans := types.flatMap (·.2)
  let registrations :=
    if own.registerCodecs then
      (types.filter fun t => !t.2.isEmpty).map fun t => registrationOf t.1.typeName t.2
    else []
  let used := plans.flatMap (runtimeNamesOf own) ++
    if registrations.isEmpty then [] else [.registerCodec]
  { header := headerOf s
    typeHints := own.typeHints
    runtimeModule := own.runtimeModule.text
    runtimeImports := (RuntimeName.all.filter used.contains).map (·.label)
    typeModule := (own.typeModule.getD .null).text
    typeImports :=
      if own.typeModule.isNone then []
      else sortedNames (types.flatMap fun t =>
        topLevelName t.1.typeName :: t.2.flatMap typeNamesOf)
    exports :=
      ((types.filter (·.1.isPublic)).flatMap fun t => t.2.map planFunction).mergeSort
        fun a b => decide (a ≤ b)
    blocks := types.map fun t => blockOf own t.2
    registrations := registrations }

end Python

end CodecForge
