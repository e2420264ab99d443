/-
  CodecForge — reports.

  What a tool around the generators shows of declarations, schemas, types and
  plans, as JSON.  Each `report` lists the fields of its subject and what is
  derived from them, such as the normal form of a marker or the depth of a
  schema.
-/
import CodecForge.Declaration
import CodecForge.Loading
import CodecForge.Options
import CodecForge.Plan

namespace CodecForge

namespace Json

/-- Texts as JSON. -/
def strings (xs : List String) : Json := .arr (xs.map .str)

/-- A text that may be missing. -/
def ofOption : Option String → Json
  | none => .null
  | some s => .str s

end Json

/-! ## Declarations -/

def Attribute.report (a : Attribute) : Json :=
  .obj [("name", .str a.name), ("argument", .ofOption a.argument), ("marker", .str a.marker)]

def Case.report (c : Case) : Json :=
  .obj [("name", .str c.name), ("raw_value", .ofOption c.rawValue),
    ("attributes", .arr (c.attributes.map (·.report)))]

mutual

def Enumeration.report : Enumeration → Json
  | ⟨name, inherits, cases, enums⟩ =>
    .obj [("name", .str name), ("inherits", .strings inherits),
      ("is_coding_keys", .bool (Enumeration.mk name inherits cases []).isCodingKeys),
      ("cases", .arr (cases.map (·.report))), ("enums", .arr (Enumeration.reports enums))]

def Enumeration.reports : List Enumeration → List Json
  | [] => []
  | e :: es => e.report :: Enumeration.reports es

end

def Declaration.report (d : Declaration) : Json :=
  .obj [("type_name", .str d.typeName), ("kind", .str d.kind), ("type_kind", .str d.typeKind),
    ("is_extension", .bool d.isExtension), ("enums", .arr (Enumeration.reports d.enums)),
    ("options", .obj d.options), ("coding_keys", .ofOption (d.codingKeys?.map (·.name)))]

/-! ## Schemas and types -/

def Strategy.report (s : Strategy) : Json :=
  .obj [("kind", .str s.kind.label), ("binding", .ofOption s.binding?), ("text", .str s.text),
    ("requires_coding_keys", .bool s.requiresCodingKeys)]

/-- A field with the report on its group. -/
def FieldInfo.report (i : FieldInfo) (group : Json) : Json :=
  .obj [("key", .str i.key), ("local_name", .str i.localName),
    ("is_conditional", .bool i.conditional), ("value_transform", .ofOption i.valueTransform),
    ("encode_transform", .ofOption i.encodeTransform),
    ("decode_transform", .ofOption i.decodeTransform), ("has_transform", .bool i.hasTransform),
    ("group", group)]

mutual

def Field.report : Field → Json
  | .leaf i => i.report .null
  | .group i name fields =>
    i.report (.obj [("name", .str name), ("fields", .arr (Field.reports fields))])

def Field.reports : List Field → List Json
  | [] => []
  | f :: fs => f.report :: Field.reports fs

end

def Schema.report (s : Schema) : Json :=
  .obj [("name", .str s.name), ("fields", .arr (Field.reports s.fields))]

/-- The directions by name. -/
def Direction.report (ds : List Direction) : Json := .strings (ds.map (·.label))

/-- Cases by their names and keys. -/
def FieldInfo.caseReport (cs : List FieldInfo) : Json :=
  .arr (cs.map fun c => .strings [c.localName, c.key])

def CodingOptions.report (o : CodingOptions) : Json :=
  .obj [("access_control", .str o.access.label), ("strategy", o.strategy.report),
    ("directions", Direction.report o.directions)]

def CodableType.report (t : CodableType) : Json :=
  let ofSchema := fun (f : Schema → Json) => (t.schema?.map f).getD .null
  .obj [("type_name", .str t.typeName), ("strategy", t.strategy.report),
    ("selected", .str t.strategy.kind.label), ("access_control", .str t.access.label),
    ("is_public", .bool t.isPublic), ("directions", Direction.report t.directions),
    ("schema", ofSchema (·.report)),
    ("flattened", ofSchema fun s => .strings (s.leaves.map (·.localName))),
    ("depth", ofSchema fun s => .int s.depth), ("cases", FieldInfo.caseReport t.cases),
    ("ignored_enums", .strings t.ignoredEnums)]

/-! ## Plans and walks -/

def Container.report (c : Container) : Json :=
  .obj [("variable", .str c.variable_), ("keys_name", .str c.keysName), ("key", .ofOption c.key),
    ("local_name", .ofOption c.localName), ("parent", .ofOption c.parent),
    ("is_root", .bool c.isRoot)]

def FieldStep.report (t : FieldStep) : Json :=
  .obj [("key", .str t.field.key), ("local_name", .str t.field.localName),
    ("container", .str t.container.variable_), ("conditional", .bool t.field.conditional),
    ("transform", .ofOption t.transform)]

def CodecPlan.report (p : CodecPlan) : Json :=
  .obj [("type_name", .str p.typeName), ("direction", .str p.direction.label),
    ("kind", .str p.kind.label), ("is_public", .bool p.isPublic),
    ("binding", .ofOption p.binding?), ("containers", .arr (p.containers.map (·.report))),
    ("root", .ofOption (p.containers.head?.map (·.variable_))),
    ("nested", .strings (p.nested.map (·.variable_))), ("steps", .arr (p.steps.map (·.report))),
    ("cases", FieldInfo.caseReport p.cases), ("arguments", .strings p.arguments),
    ("transforms", .strings p.transforms)]

def WalkEvent.report : WalkEvent → Json
  | .opened c => .arr [.str "open", c.report]
  | .visited f c => .strings ["field", f.localName, c.variable_]

/-! ## Logs -/

/-- The name of a level. -/
def LogLevel.name : LogLevel → String
  | .debug => "DEBUG"
  | .info => "INFO"
  | .warning => "WARNING"
  | .error => "ERROR"
  | .critical => "CRITICAL"
  | .notSet => "NOTSET"

/-- The records of a log, each with the name of its level. -/
def LogRecord.report (log : List LogRecord) : Json :=
  .strings (log.map fun r => s!"{r.level.name}: {r.text}")

end CodecForge
