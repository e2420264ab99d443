/-
  CodecForge — schemas.

  A schema lists the fields that a keyed codec writes and reads.  A field is a
  leaf, or a group that opens a nested container for the fields of a schema of
  its own, to any depth.

  * `Schema.flattened` pairs every leaf, in wire order, with the innermost group
    that holds it; `Schema.groups` are the groups at the top;
  * `Strategy` is the shape in which a type is written, `CodableType` all that
    is needed to write its codec.
-/

namespace CodecForge

/-- Which of the two procedures of a codec is meant. -/
inductive Direction where
  | encode
  | decode
deriving DecidableEq, Repr

def Direction.label : Direction → String
  | .encode => "encode"
  | .decode => "decode"

/-- The visibility of the generated procedures. -/
inductive AccessControl where
  | internal
  | public_
deriving DecidableEq, Repr

def AccessControl.label : AccessControl → String
  | .internal => "internal"
  | .public_ => "public"

/-! ## Fields -/

/-- What a field says about itself.  A transform is the name of an adapter type;
    the ones for a direction go before the one for both. -/
structure FieldInfo where
  key : String
  localName : String
  conditional : Bool := false
  valueTransform : Option String := none
  encodeTransform : Option String := none
  decodeTransform : Option String := none
deriving DecidableEq, Repr, Inhabited

namespace FieldInfo

/-- The adapter used in a direction. -/
def transformFor (f : FieldInfo) : Direction → Option String
  | .encode => f.encodeTransform <|> f.valueTransform
  | .decode => f.decodeTransform <|> f.valueTransform

def hasTransform (f : FieldInfo) : Bool :=
  f.valueTransform.isSome || f.encodeTransform.isSome || f.decodeTransform.isSome

end FieldInfo

/-- An entry of a schema. -/
inductive Field where
  | leaf (info : FieldInfo)
  | group (info : FieldInfo) (schemaName : String) (fields : List Field)
deriving Repr, Inhabited

def Field.info : Field → FieldInfo
  | .leaf i => i
  | .group i _ _ => i

/-- The fields of an enumeration of coding keys. -/
structure Schema where
  name : String
  fields : List Field
deriving Repr, Inhabited

/-- The schema of a group. -/
def Field.schema? : Field → Option Schema
  | .leaf _ => none
  | .group _ name fields => some ⟨name, fields⟩

/-! ## Traversals -/

mutual

/-- The leaves of a field below the group `holder`, each with the innermost
    group that holds it. -/
def Field.flattenedIn (holder : Option FieldInfo) : Field → List (FieldInfo × Option FieldInfo)
  | .leaf i => [(i, holder)]
  | .group i _ fields => flattenedFields (some i) fields

/-- The leaves of fields below the group `holder`. -/
def flattenedFields (holder : Option FieldInfo) :
    List Field → List (FieldInfo × Option FieldInfo)
  | [] => []
  | f :: fs => f.flattenedIn holder ++ flattenedFields holder fs

end

mutual

/-- How many levels of groups a field has, none for a leaf. -/
def Field.depth : Field → Nat
  | .leaf _ => 0
  | .group _ _ fields => depthOfFields fields + 1

/-- The greatest depth of the fields. -/
def depthOfFields : List Field → Nat
  | [] => 0
  | f :: fs => max f.depth (depthOfFields fs)

end

namespace Schema

/-- The external names of the fields. -/
def keys (s : Schema) : List String := s.fields.map (·.info.key)

/-- The groups at the top, with their schemas. -/
def groups (s : Schema) : List (FieldInfo × Schema) :=
  s.fields.filterMap fun f => f.schema?.map fun g => (f.info, g)

/-- The first field at the top with a local name. -/
def field? (s : Schema) (localName : String) : Option Field :=
  s.fields.find? (·.info.localName == localName)

/-- The leaves in wire order, each with the innermost group that holds it. -/
def flattened (s : Schema) : List (FieldInfo × Option FieldInfo) :=
  flattenedFields none s.fields

/-- The leaves in wire order. -/
def leaves (s : Schema) : List FieldInfo := s.flattened.map (·.1)

/-- One more than the levels of groups. -/
def depth (s : Schema) : Nat := depthOfFields s.fields + 1

end Schema

/-! ## Types -/

/-- The shape of the container at the top of a representation. -/
inductive ContainerKind where
  | keyed
  | singleValue
  | singleValueForEnum
deriving DecidableEq, Repr

def ContainerKind.label : ContainerKind → String
  | .keyed => "keyed"
  | .singleValue => "single_value"
  | .singleValueForEnum => "single_value_for_enum"

/-- How a type is written: as keyed fields, as the value of one property, or as
    the tag of an enumeration. -/
inductive Strategy where
  | keyed
  | singleValue (binding : String)
  | singleValueForEnum
deriving DecidableEq, Repr

namespace Strategy

def kind : Strategy → ContainerKind
  | keyed => .keyed
  | singleValue _ => .singleValue
  | singleValueForEnum => .singleValueForEnum

/-- The property whose value is written. -/
def binding? : Strategy → Option String
  | singleValue b => some b
  | _ => none

/-- Whether the coding keys must be listed. -/
def requiresCodingKeys (s : Strategy) : Bool := s.kind ≠ .singleValue

/-- The printed form of a strategy. -/
def text : Strategy → String
  | singleValue b => s!"single_value({b})"
  | s => s.kind.label

end Strategy

/-- A strategy with the schema it works on. -/
inductive Shape where
  | keyed (schema : Schema)
  | singleValue (binding : String)
  | singleValueForEnum (schema : Schema)
deriving Repr

namespace Shape

def strategy : Shape → Strategy
  | keyed _ => .keyed
  | singleValue b => .singleValue b
  | singleValueForEnum _ => .singleValueForEnum

def schema? : Shape → Option Schema
  | keyed s | singleValueForEnum s => some s
  | singleValue _ => none

end Shape

/-- All that is needed to write the codec of a type. -/
structure CodableType where
  typeName : String
  shape : Shape
  access : AccessControl
  directions : List Direction
  ignoredEnums : List String
deriving Repr

namespace CodableType

def strategy (t : CodableType) : Strategy := t.shape.strategy

def schema? (t : CodableType) : Option Schema := t.shape.schema?

def isPublic (t : CodableType) : Bool := t.access = .public_

/-- The fields read as the cases of an enumeration. -/
def cases (t : CodableType) : List FieldInfo :=
  match t.schema? with
  | none => []
  | some s => s.fields.map (·.info)

/-- How many leaves the schema has. -/
def leafCount (t : CodableType) : Nat :=
  match t.schema? with
  | none => 0
  | some s => s.leaves.length

end CodableType

end CodecForge
