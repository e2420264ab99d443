/-
  CodecForge — what a declaration stands for, and what is wrong with it.

  Both can be told from a declaration without running an extraction:

  * `Enumeration.schema` is the schema of the coding keys of a keyed type, `Enumeration.tags`
    that of a type written as a tag; `Enumeration.ignored` are the nested enumerations that
    play no part in the first;
  * `Declaration.shapeFault?` is the first fault in the order in which a declaration is read,
    put together from the faults of names, markers, keys, groups and cases.
-/
import CodecForge.Extraction
import Mathlib

namespace CodecForge

open Extraction

/-! ## Schemas -/

/-- The adapter type that a marker names, empty for none. -/
def Attribute.adapter (a : Attribute) : String := withoutSelf (Text.trim (a.argument.getD ""))

namespace Case

/-- The adapter type under a marker. -/
def adapter? (c : Case) (marker : String) : Option String := (c.attribute? marker).map (·.adapter)

/-- The leaf that a case stands for. -/
def leaf (c : Case) : FieldInfo :=
  ⟨c.key, c.name, c.hasAttribute conditional, c.adapter? valueTransform, c.adapter? encodedValue,
    c.adapter? decodedValue⟩

/-- A case without regard to markers, as a group or a tag. -/
def plain (c : Case) : FieldInfo := ⟨c.key, c.name, false, none, none, none⟩

end Case

namespace Enumeration

variable (e : Enumeration)

/-- The nested enumeration that a case claims, by a marker or by its name. -/
def claimed? (c : Case) : Option Enumeration :=
  match c.attribute? group with
  | none => e.findGroup (Naming.groupEnumName c.name)
  | some a => e.findGroup (a.argument.getD "")

/-- The leaves of a group. -/
def members : List Field := e.cases.map fun c => .leaf c.leaf

/-- The field that a case at the top stands for. -/
def field (c : Case) : Field :=
  match e.claimed? c with
  | some g => .group c.plain g.name g.members
  | none => .leaf c.leaf

/-- The schema of the cases with their groups. -/
def schema : Schema := ⟨e.name, e.cases.map e.field⟩

/-- The schema of the cases as tags. -/
def tags : Schema := ⟨e.name, e.cases.map fun c => .leaf c.plain⟩

/-- The names of the nested enumerations that are not among `claimed`. -/
def unclaimed (claimed : List String) : List String :=
  (e.enums.filter fun nested => !claimed.contains nested.name).map (·.name)

theorem unclaimed_eq (claimed : List String) :
    e.unclaimed claimed = (e.enums.map (·.name)).filter (!claimed.contains ·) := by
  rw [unclaimed, List.filter_map]
  rfl

/-- What stands below the group of a case and plays no part. -/
def ignoredBelow (c : Case) : List String :=
  match e.claimed? c with
  | some g => (g.unclaimed []).map (s!"{g.name}." ++ ·)
  | none => []

/-- The nested enumerations that play no part, in the order in which they are noted. -/
def ignored : List String :=
  e.cases.flatMap e.ignoredBelow ++
    e.unclaimed (e.cases.filterMap fun c => (e.claimed? c).map (·.name))

end Enumeration

/-! ## Faults -/

namespace Extraction

variable (place typeName : String) (e : Enumeration) (c : Case)

/-- A name that is no identifier. -/
def nameFault? : Option SchemaError :=
  if Text.isAsciiIdentifier c.name then none else some (.badCaseName place c.name)

/-- A marker that names no adapter type. -/
def adapterFault? (marker : String) : Option SchemaError :=
  match c.attribute? marker with
  | none => none
  | some a => if a.adapter.isEmpty then some (.markerWithoutType place c.name a.name) else none

/-- A fault of a case that stands for a leaf. -/
def leafFault? : Option SchemaError :=
  (adapterFault? place c valueTransform).or
    ((adapterFault? place c encodedValue).or (adapterFault? place c decodedValue))

/-- A fault of a case inside a group. -/
def memberFault? : Option SchemaError :=
  (nameFault? place c).or
    (if c.hasAttribute group then some (.nestedGroup place c.name) else leafFault? place c)

/-- A key that stands twice. -/
def keysFault? (keys : List String) : Option SchemaError :=
  (firstRepeated? [] keys).map (.duplicateKey place)

/-- Leaves of one name. -/
def leavesFault? (s : Schema) : Option SchemaError :=
  (firstRepeated? [] (s.leaves.map (·.localName))).map (.duplicateField typeName)

/-- A fault of a group. -/
def groupFault? (g : Enumeration) : Option SchemaError :=
  (g.cases.findSome? (memberFault? (placeIn place g))).or
    (keysFault? (placeIn place g) (g.cases.map (·.key)))

/-- A marker for a group that is not found. -/
def claimFault? : Option SchemaError :=
  match c.attribute? group with
  | none => none
  | some a =>
    if (a.argument.getD "").isEmpty then some (.groupWithoutName place c.name a.name)
    else if (e.findGroup (a.argument.getD "")).isSome then none
    else some (.missingGroup place c.name (a.argument.getD ""))

/-- A group with a marker for leaves. -/
def markedFault? : Option SchemaError :=
  (leafMarkers.find? (c.hasAttribute ·)).map (.markedGroup place c.name)

/-- A fault of a case at the top. -/
def caseFault? : Option SchemaError :=
  (nameFault? place c).or <| (claimFault? place e c).or <|
    match e.claimed? c with
    | some g => (markedFault? place c).or (groupFault? place g)
    | none => leafFault? place c

/-- A fault of the coding keys of a keyed type. -/
def levelFault? : Option SchemaError :=
  (e.cases.findSome? (caseFault? (placeIn typeName e) e)).or
    (keysFault? (placeIn typeName e) (e.cases.map (·.key)))

/-- A fault of the coding keys of a type that is written as a tag. -/
def tagsFault? : Option SchemaError :=
  (e.cases.findSome? (nameFault? (placeIn typeName e))).or
    ((keysFault? (placeIn typeName e) (e.cases.map (·.key))).or (leavesFault? typeName e.tags))

end Extraction

namespace Declaration

variable (d : Declaration)

/-- The first fault of a declaration under a strategy. -/
def shapeFault? (s : Strategy) : Option SchemaError :=
  match s, d.codingKeys? with
  | .singleValue _, _ => none
  | _, none => some (.noCodingKeys d.typeName)
  | .singleValueForEnum, some e => tagsFault? d.typeName e
  | .keyed, some e => (levelFault? d.typeName e).or (leavesFault? d.typeName e.schema)

/-- The shape that a declaration stands for under a strategy, with the enumerations that
    play no part. -/
inductive Denotes : Strategy → Shape → List String → Prop
  | singleValue (binding : String) : Denotes (.singleValue binding) (.singleValue binding) []
  | tags {e : Enumeration} (he : d.codingKeys? = some e) :
      Denotes .singleValueForEnum (.singleValueForEnum e.tags)
        (e.enums.map fun nested => s!"{e.name}.{nested.name}")
  | keyed {e : Enumeration} (he : d.codingKeys? = some e) :
      Denotes .keyed (.keyed e.schema) e.ignored

end Declaration

end CodecForge
