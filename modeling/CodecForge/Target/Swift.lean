/-
  CodecForge — Swift source.

  A Swift file holds the members `encode(to:)` and `init(from:)` of every type,
  as a rule inside an extension of the type.

  * `reference` is how a property stands as an expression;
  * `SwiftSettings` are the settings of the language;
  * `Member` holds what the text of one member depends on, and `Member.source`
    is that text; `memberOf` reads it off a plan;
  * `blockOf` puts the members of a type together, `File.source` the blocks of a
    file;
  * `indented` is how members are moved into an extension.
-/
import CodecForge.Plan
import CodecForge.Settings
import CodecForge.Source

namespace CodecForge

namespace Swift

open Source (plain line blank)

/-! ## Names -/

/-- The keywords that cannot stand as an expression. -/
def keywords : List String :=
  ["Any", "Self", "as", "associatedtype", "break", "case", "catch", "class", "continue", "default",
    "defer", "deinit", "do", "else", "enum", "extension", "fallthrough", "false", "fileprivate",
    "for", "func", "guard", "if", "import", "in", "init", "inout", "internal", "is", "let", "nil",
    "operator", "private", "protocol", "public", "repeat", "rethrows", "return", "self", "static",
    "struct", "subscript", "super", "switch", "throw", "throws", "true", "try", "typealias", "var",
    "where", "while"]

/-- A property as an expression: a keyword stands in backquotes. -/
def reference (name : String) : String :=
  if keywords.contains name then "\x60" ++ name ++ "\x60" else name

end Swift

/-! ## Settings -/

/-- The settings of the language, read. -/
structure SwiftSettings where
  imports : List Json
  wrapInExtension : Bool
  decodeHelper : Bool
deriving Repr

namespace SwiftSettings

/-- Whether an entry is set, with a default for a missing one. -/
def flag (es : List (String × Json)) (name : String) (default : Bool) : Bool :=
  ((Entries.get? name es).map Json.truthy).getD default

/-- The modules that a value lists, none for an empty value. -/
def importsOf (v : Json) : Except SettingsFault (List Json) :=
  if !v.truthy then .ok [] else
  match v.items? with
  | none => .error (.notIterable v.kindName)
  | some xs => .ok xs

/-- The settings that entries state. -/
def ofEntries (es : List (String × Json)) : Except SettingsFault SwiftSettings := do
  let imports ← importsOf ((Entries.get? "imports" es).getD .null)
  return ⟨imports, flag es "wrap_in_extension" true, flag es "emit_decode_helper" false⟩

/-- The settings of a file that compiles on its own. -/
def standalone : SwiftSettings := ⟨[.str "Foundation"], true, true⟩

def toJson (s : SwiftSettings) : Json :=
  .obj [("imports", .arr s.imports), ("wrap_in_extension", .bool s.wrapInExtension),
    ("emit_decode_helper", .bool s.decodeHelper)]

end SwiftSettings

namespace Swift

open Source (plain line blank)

/-! ## Members -/

/-- A nested container as a member opens it. -/
structure NestedContainer where
  variable_ : String
  parent : String
  keysName : String
  label : String
deriving Repr

/-- A leaf as a member writes or reads it; `reference` is the leaf as an
    expression. -/
structure Step where
  container : String
  label : String
  reference : String
  transform : Option String
  conditional : Bool
deriving Repr

/-- What the text of a member depends on: what goes before its keyword, the
    enumeration that lists the keys at the top, and what it writes or reads. -/
structure Member where
  modifier : String
  keysName : String
  binding : String
  containers : List NestedContainer
  steps : List Step
  cases : List String
deriving Repr

namespace Member

/-- The signature of a member, with its opening brace. -/
def signatureSource (m : Member) : Direction → Source
  | .encode => plain s!"{m.modifier}func encode(to encoder: Encoder) throws \x7b"
  | .decode => plain s!"{m.modifier}init(from decoder: Decoder) throws \x7b"

/-- The lines that open nested containers under a keyword. -/
def nestedSource (m : Member) (keyword attempt : String) : Source :=
  m.containers.flatMap fun c =>
    plain s!"    {keyword} {c.variable_} = {attempt}{c.parent}.nestedContainer(" ++
      plain s!"        keyedBy: {c.keysName}.self," ++
      plain s!"        forKey: .{c.label}" ++ plain "    )"

/-- What is added to the name of a call for a conditional leaf. -/
def ifPresent (t : Step) : String := if t.conditional then "IfPresent" else ""

/-- The value of a leaf, or the adapter made from it. -/
def valueTokens (t : Step) : Line :=
  let value : Token := .property t.label t.reference
  match t.transform with
  | some adapter => [.type adapter, .text "(from: ", value, .text ")"]
  | none => [value]

/-- The line that writes a leaf. -/
def encodeStep (t : Step) : Line :=
  .text s!"    try {t.container}.encode{ifPresent t}(" :: valueTokens t ++
    [.text s!", forKey: .{t.label})"]

/-- The argument that reads a leaf; all but the last end with a comma. -/
def decodeStep (t : Step) : Line :=
  let chain := if t.conditional then "?" else ""
  .text s!"        {t.label}: {t.container}.decode{ifPresent t}(" ::
    match t.transform with
    | some adapter => [.type adapter, .text s!".self, forKey: .{t.label}){chain}.value()"]
    | none => [.text s!"for: .{t.label})"]

/-- The arguments that read the leaves. -/
def decodeSteps : List Step → Source
  | [] => []
  | [t] => line (decodeStep t)
  | t :: u :: ts => line (decodeStep t ++ [.text ","]) ++ decodeSteps (u :: ts)

/-- The member that writes fields. -/
def keyedEncode (m : Member) : Source :=
  m.signatureSource .encode ++
    plain s!"    var container = encoder.container(keyedBy: {m.keysName}.self)" ++
    m.nestedSource "var" "" ++ m.steps.map encodeStep ++ plain "\x7d"

/-- The member that reads fields. -/
def keyedDecode (m : Member) : Source :=
  m.signatureSource .decode ++
    plain s!"    let container = try decoder.container(keyedBy: {m.keysName}.self)" ++
    m.nestedSource "let" "try " ++
    (if m.steps.isEmpty then plain "    try self.init()"
      else plain "    try self.init(" ++ decodeSteps m.steps ++ plain "    )") ++
    plain "\x7d"

/-- The member that writes one property. -/
def singleValueEncode (m : Member) : Source :=
  m.signatureSource .encode ++ plain "    var container = encoder.singleValueContainer()" ++
    line [.text "    try container.encode(", .property m.binding m.binding, .text ")"] ++
    plain "\x7d"

/-- The member that reads one property. -/
def singleValueDecode (m : Member) : Source :=
  m.signatureSource .decode ++ plain "    let container = try decoder.singleValueContainer()" ++
    plain s!"    try self.init({m.binding}: container.decode())" ++ plain "\x7d"

/-- The member that writes a tag. -/
def enumEncode (m : Member) : Source :=
  m.signatureSource .encode ++ plain "    var container = encoder.singleValueContainer()" ++
    plain "    switch self \x7b" ++
    m.cases.flatMap (fun label =>
      plain s!"    case .{label}:" ++
        plain s!"        try container.encode({m.keysName}.{label}.rawValue)") ++
    plain "    \x7d" ++ plain "\x7d"

/-- The member that reads a tag. -/
def enumDecode (m : Member) : Source :=
  m.signatureSource .decode ++ plain "    let container = try decoder.singleValueContainer()" ++
    plain "    let stringValue = try container.decode(String.self)" ++
    plain "    switch stringValue \x7b" ++
    m.cases.flatMap (fun label =>
      plain s!"    case {m.keysName}.{label}.rawValue:" ++
        plain s!"        self = .{label}") ++
    plain "    default:" ++ plain "        throw DecodingError.dataCorruptedError(" ++
    plain "            in: container," ++
    plain "            debugDescription: \"Invalid value: \\(stringValue)\"" ++
    plain "        )" ++ plain "    \x7d" ++ plain "\x7d"

/-- The lines of a member of a kind in a direction. -/
def source (m : Member) : ContainerKind → Direction → Source
  | .keyed, .encode => m.keyedEncode
  | .keyed, .decode => m.keyedDecode
  | .singleValue, .encode => m.singleValueEncode
  | .singleValue, .decode => m.singleValueDecode
  | .singleValueForEnum, .encode => m.enumEncode
  | .singleValueForEnum, .decode => m.enumDecode

end Member

/-! ## From plans to members -/

/-- What the text of the member of a plan depends on. -/
def memberOf (p : CodecPlan) : Member where
  modifier := if p.isPublic then "public " else ""
  keysName := p.keysName?.getD ""
  binding := p.binding?.getD ""
  containers := p.nested.map fun c =>
    ⟨c.variable_, c.parent.getD "", c.keysName, c.localName.getD ""⟩
  steps := p.steps.map fun t =>
    ⟨t.container.variable_, t.field.localName, reference t.field.localName, t.transform,
      t.field.conditional⟩
  cases := p.cases.map (·.localName)

/-- The lines of the member of a plan. -/
def memberSource (p : CodecPlan) : Source := (memberOf p).source p.kind p.direction

/-- The text of the member of a plan. -/
def memberText (p : CodecPlan) : String := Text.trimEnd (memberSource p).text

/-! ## Types and files -/

/-- A text with four blanks before its first line and before every other line
    that is not empty. -/
def indented (s : String) : String :=
  match Text.brokenLines (s ++ "\n") with
  | [] => "    "
  | l :: ls => Text.unlines (("    " ++ l) :: ls.map fun l => if l.isEmpty then l else "    " ++ l)

/-- Members with a blank line between them, moved in by four blanks. -/
def memberLines : List String → Source
  | [] => []
  | [m] => plain (indented m)
  | m :: n :: ms => plain (indented m) ++ blank ++ memberLines (n :: ms)

/-- Members inside an extension of a type. -/
def extensionSource (typeName : String) (members : List String) : Source :=
  line [.text "extension ", .type typeName, .text " \x7b"] ++ memberLines members ++ plain "\x7d"

/-- The text of a type: its members, inside an extension if settings ask for
    one. -/
def blockOf (own : SwiftSettings) (typeName : String) (plans : List CodecPlan) : String :=
  let members := plans.map memberText
  if own.wrapInExtension then Text.trimEnd (extensionSource typeName members).text
  else "\n\n".intercalate members

/-- Blocks with a blank line between them. -/
def blockLines : List String → Source
  | [] => []
  | [b] => plain b
  | b :: c :: bs => plain b ++ blank ++ blockLines (c :: bs)

/-- The helper that the decoding members call. -/
def decodeHelper : Source :=
  blank ++ plain "extension KeyedDecodingContainer \x7b" ++ plain
      "    func decode<T: Decodable>(for key: KeyedDecodingContainer<K>.Key) throws -> T \x7b" ++
    plain "        try decode(T.self, forKey: key)" ++ plain "    \x7d" ++ plain "\x7d"

/-- What the text of a file depends on. -/
structure File where
  header : Option String
  imports : List String
  blocks : List String
  decodeHelper : Bool
deriving Repr

/-- The lines before the blocks. -/
def File.prologue (f : File) : Source :=
  (match f.header with
    | none => []
    | some h => plain (comment "//" h) ++ blank) ++
    f.imports.flatMap (fun name => plain s!"import {name}") ++
    if f.imports.isEmpty then [] else blank

def File.source (f : File) : Source :=
  f.prologue ++ blockLines f.blocks ++ if f.decodeHelper then Swift.decodeHelper else []

/-- The header comment that settings ask for. -/
def headerOf (s : Settings) : Option String :=
  if s.addComments.truthy && s.header.truthy then some s.header.text else none

/-- What the text of a file depends on, for types with their plans. -/
def fileOf (s : Settings) (own : SwiftSettings) (types : List (String × List CodecPlan)) : File :=
  ⟨headerOf s, own.imports.map (·.text), types.map fun t => blockOf own t.1 t.2, own.decodeHelper⟩

end Swift

end CodecForge
