/-
  CodecForge — extraction of schemas.

  Extraction turns a declaration with its options into a `CodableType`.  It
  finds the enumeration that lists the coding keys, reads the key and the
  markers of every case, and attaches the groups.

  * `SchemaError` says why a declaration is refused;
  * an extraction writes `Notices` as it goes, and what it has written stays
    also when it is refused;
  * `groupOf` finds the enumeration a case groups: by a `group` marker, or by
    the conventional name; inside a group there are no further groups;
  * `levelOf` reads one enumeration, `Extraction.run` a whole declaration.
-/
import CodecForge.Declaration
import CodecForge.Options

namespace CodecForge

/-! ## Errors and notices -/

/-- Why a declaration is refused.  A `place` names an enumeration by the path
    that leads to it. -/
inductive SchemaError where
  | option (e : UnsupportedOption)
  | notExtension (typeName kind : String)
  | noCodingKeys (typeName : String)
  | badCaseName (place name : String)
  | nestedGroup (place name : String)
  | groupWithoutName (place name marker : String)
  | missingGroup (place name group : String)
  | markedGroup (place name marker : String)
  | markerWithoutType (place name marker : String)
  | duplicateKey (place key : String)
  | duplicateField (typeName name : String)
deriving Repr

/-- The text of an error. -/
def SchemaError.message : SchemaError → String
  | .option e => e.message
  | .notExtension typeName kind =>
    s!"Codecs can be generated only for extensions; '{typeName}' is declared as {kind}"
  | .noCodingKeys typeName =>
    s!"'{typeName}' requires a CodingKey enum when the keyed or single value for enum " ++
      "container is used"
  | .badCaseName place name => s!"{place}: invalid case name '{name}'"
  | .nestedGroup place name => s!"{place}.{name}: groups cannot be nested more than one level"
  | .groupWithoutName place name marker => s!"{place}.{name}: '{marker}' needs an enum name"
  | .missingGroup place name group =>
    s!"{place}.{name}: group enum '{group}' not found or not tagged CodingKey"
  | .markedGroup place name marker =>
    s!"{place}.{name}: grouping field cannot be marked '{marker}'"
  | .markerWithoutType place name marker => s!"{place}.{name}: '{marker}' needs a type argument"
  | .duplicateKey place key => s!"{place}: duplicate key '{key}'"
  | .duplicateField typeName name => s!"{typeName}: field '{name}' is declared more than once"

/-- Something in a declaration that plays no part. -/
inductive Notice where
  | unknownMarker (place name marker : String)
  | ignoredEnum (place name : String)
deriving DecidableEq, Repr

def Notice.message : Notice → String
  | .unknownMarker place name marker => s!"{place}.{name}: unknown marker '{marker}' ignored"
  | .ignoredEnum place name => s!"{place}: nested enum {name} ignored"

/-- What an extraction has written down: notices, and the nested enumerations
    that are not used, each with its enumeration if that is a group. -/
structure Notices where
  notices : List Notice := []
  ignored : List String := []
deriving DecidableEq, Repr

/-- An extraction: what it has written stays when it fails. -/
abbrev Extraction := EStateM SchemaError Notices

namespace Extraction

/-! ## Markers -/

def conditional : String := "conditional"
def valueTransform : String := "value_transform"
def encodedValue : String := "encoded_value"
def decodedValue : String := "decoded_value"
def group : String := "group"

/-- The markers that a leaf may carry. -/
def leafMarkers : List String := [conditional, valueTransform, encodedValue, decodedValue]

/-- The markers that mean something. -/
def knownMarkers : List String := leafMarkers ++ [group]

/-- The text without one `.self` at its end. -/
def withoutSelf (s : String) : String :=
  if ".self".toList.isSuffixOf s.toList then String.ofList (s.toList.take (s.length - 5)) else s

/-- The adapter type that a marker names, none if the case has no such marker. -/
def transformOf (place : String) (c : Case) (marker : String) : Extraction (Option String) :=
  match c.attribute? marker with
  | none => pure none
  | some a =>
    let argument := withoutSelf (Text.trim (a.argument.getD ""))
    if argument.isEmpty then throw (.markerWithoutType place c.name a.name)
    else pure (some argument)

/-- Notes a marker that means nothing. -/
def noteUnknown (place : String) (c : Case) (a : Attribute) : Extraction Unit :=
  if knownMarkers.contains a.marker then pure ()
  else modify fun n => { n with notices := n.notices ++ [.unknownMarker place c.name a.name] }

/-- Notes a nested enumeration that is not used. -/
def noteIgnored (place : String) (lead : String) (e : Enumeration) : Extraction Unit :=
  modify fun n =>
    ⟨n.notices ++ [.ignoredEnum place e.name], n.ignored ++ [lead ++ e.name]⟩

/-! ## Checks -/

/-- The name of a case must be an identifier. -/
def checkName (place : String) (c : Case) : Extraction Unit :=
  if Text.isAsciiIdentifier c.name then pure () else throw (.badCaseName place c.name)

/-- The first element that stands in the list before. -/
def firstRepeated? (seen : List String) : List String → Option String
  | [] => none
  | s :: ss => if seen.contains s then some s else firstRepeated? (s :: seen) ss

/-- The external names at one level must differ. -/
def checkKeys (place : String) (fields : List Field) : Extraction Unit :=
  match firstRepeated? [] (fields.map (·.info.key)) with
  | some key => throw (.duplicateKey place key)
  | none => pure ()

/-- The local names of all leaves must differ. -/
def checkLeaves (typeName : String) (s : Schema) : Extraction Unit :=
  match firstRepeated? [] (s.leaves.map (·.localName)) with
  | some name => throw (.duplicateField typeName name)
  | none => pure ()

/-! ## Fields -/

/-- A leaf with the markers of its case. -/
def leafOf (place : String) (c : Case) : Extraction Field := do
  let value ← transformOf place c valueTransform
  let encoded ← transformOf place c encodedValue
  let decoded ← transformOf place c decodedValue
  return .leaf ⟨c.key, c.name, c.hasAttribute conditional, value, encoded, decoded⟩

/-- What is read for every case before it becomes a field. -/
def caseChecks (place : String) (c : Case) : Extraction Unit := do
  checkName place c
  c.attributes.forM (noteUnknown place c)

/-- A case inside a group: a leaf, without a `group` marker. -/
def memberOf (place : String) (c : Case) : Extraction Field := do
  caseChecks place c
  if c.hasAttribute group then throw (.nestedGroup place c.name)
  leafOf place c

/-- Notes the enumerations nested in `e` whose name is not among `claimed`. -/
def noteUnclaimed (place : String) (lead : String) (claimed : List String) (e : Enumeration) :
    Extraction Unit :=
  e.enums.forM fun nested =>
    if claimed.contains nested.name then pure () else noteIgnored place lead nested

/-- The place of an enumeration below another place. -/
def placeIn (place : String) (e : Enumeration) : String := s!"{place}.{e.name}"

/-- The leaves of a group. -/
def membersOf (place : String) (e : Enumeration) : Extraction (List Field) := do
  let place := placeIn place e
  let fields ← e.cases.mapM (memberOf place)
  checkKeys place fields
  noteUnclaimed place s!"{e.name}." [] e
  return fields

/-- The enumeration that a case groups, if it groups one. -/
def groupOf (place : String) (e : Enumeration) (c : Case) : Extraction (Option Enumeration) :=
  match c.attribute? group with
  | none => pure (e.findGroup (Naming.groupEnumName c.name))
  | some a =>
    let name := a.argument.getD ""
    if name.isEmpty then throw (.groupWithoutName place c.name a.name)
    else match e.findGroup name with
      | none => throw (.missingGroup place c.name name)
      | some g => pure (some g)

/-- A group for a case, which must not carry a marker for leaves. -/
def groupFieldOf (place : String) (c : Case) (g : Enumeration) : Extraction Field := do
  match leafMarkers.find? (c.hasAttribute ·) with
  | some marker => throw (.markedGroup place c.name marker)
  | none => return .group ⟨c.key, c.name, false, none, none, none⟩ g.name (← membersOf place g)

/-- A case at the top: its field, and the name of the enumeration it claims. -/
def fieldOf (place : String) (e : Enumeration) (c : Case) :
    Extraction (Field × Option String) := do
  caseChecks place c
  match ← groupOf place e c with
  | some g => return (← groupFieldOf place c g, some g.name)
  | none => return (← leafOf place c, none)

/-- The schema of the enumeration at the top of a keyed type. -/
def levelOf (typeName : String) (e : Enumeration) : Extraction Schema := do
  let place := placeIn typeName e
  let found ← e.cases.mapM (fieldOf place e)
  let fields := found.map (·.1)
  checkKeys place fields
  noteUnclaimed place "" (found.filterMap (·.2)) e
  return ⟨e.name, fields⟩

/-- The schema of a type written as a tag: its cases, without markers. -/
def tagsOf (typeName : String) (e : Enumeration) : Extraction Schema := do
  let place := placeIn typeName e
  e.cases.forM (checkName place)
  let schema : Schema := ⟨e.name, e.cases.map fun c =>
    .leaf ⟨c.key, c.name, false, none, none, none⟩⟩
  checkKeys place schema.fields
  checkLeaves typeName schema
  modify fun n => { n with ignored := n.ignored ++ e.enums.map fun nested =>
    s!"{e.name}.{nested.name}" }
  return schema

/-! ## Types -/

/-- The shape of a type under a strategy. -/
def shapeOf (d : Declaration) (s : Strategy) : Extraction Shape :=
  match s, d.codingKeys? with
  | .singleValue binding, _ => pure (.singleValue binding)
  | _, none => throw (.noCodingKeys d.typeName)
  | .singleValueForEnum, some e => do return .singleValueForEnum (← tagsOf d.typeName e)
  | .keyed, some e => do
    let schema ← levelOf d.typeName e
    checkLeaves d.typeName schema
    return .keyed schema

/-- The type of a declaration with overrides for its options. -/
def run (d : Declaration) (overrides : List (String × Json)) : Extraction CodableType := do
  if !d.isExtension then throw (.notExtension d.typeName d.kind)
  match CodingOptions.resolve d.options overrides with
  | .error e => throw (.option e)
  | .ok options =>
    modify fun n => { n with ignored := [] }
    let shape ← shapeOf d options.strategy
    return ⟨d.typeName, shape, options.access, options.directions, (← get).ignored⟩

/-- The types of declarations in order, up to the first that is refused. -/
def runAll (ds : List Declaration) (overrides : List (String × Json)) :
    Extraction (List CodableType) :=
  ds.mapM (run · overrides)

/-- The types of declarations with the notices, or the refusal with them. -/
def extractAll (ds : List Declaration) (overrides : List (String × Json)) :
    Except SchemaError (List CodableType) × List Notice :=
  match runAll ds overrides {} with
  | .ok types n => (.ok types, n.notices)
  | .error e n => (.error e, n.notices)

end Extraction

end CodecForge
