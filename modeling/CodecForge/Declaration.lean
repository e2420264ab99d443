/-
  CodecForge — declarations.

  A declaration is the block a codec is written for: the type that is
  augmented, the enumerations nested in it with their cases, and the markers
  attached to each case.

  * `Enumeration.isCodingKeys` tells the enumerations that list coding keys;
    `findCodingKeys` is the first of them, perhaps of a given name;
  * `Case.attribute?` is the first attribute with a given marker;
  * `declarationsOf` reads declarations from JSON: one object, a list of them,
    or an object with an entry `declarations`; `DeclarationError` says what is
    malformed, and where.
-/
import CodecForge.Json.Basic
import CodecForge.Naming.Convention

namespace CodecForge

/-! ## The model -/

/-- A marker attached to a case, with an optional type argument. -/
structure Attribute where
  name : String
  argument : Option String := none
deriving DecidableEq, Repr

/-- The name of an attribute in the form in which markers compare. -/
def Attribute.marker (a : Attribute) : String := Naming.normalizeMarker a.name

/-- A case of an enumeration. -/
structure Case where
  name : String
  rawValue : Option String := none
  attributes : List Attribute := []
deriving DecidableEq, Repr

namespace Case

/-- The first attribute with a marker. -/
def attribute? (c : Case) (marker : String) : Option Attribute :=
  c.attributes.find? (·.marker == marker)

def hasAttribute (c : Case) (marker : String) : Bool := (c.attribute? marker).isSome

/-- The external name of a case: its raw value, unless that is empty. -/
def key (c : Case) : String :=
  match c.rawValue with
  | none => c.name
  | some raw => if raw.isEmpty then c.name else raw

end Case

/-- An enumeration nested in a declaration. -/
structure Enumeration where
  name : String
  inherits : List String
  cases : List Case
  enums : List Enumeration
deriving Inhabited, Repr

/-- Whether the enumeration lists coding keys. -/
def Enumeration.isCodingKeys (e : Enumeration) : Bool := e.inherits.contains Naming.codingKeyTag

/-- The first enumeration that lists coding keys. -/
def findCodingKeys (enums : List Enumeration) : Option Enumeration :=
  enums.find? (·.isCodingKeys)

/-- The first nested enumeration of that name which lists coding keys. -/
def Enumeration.findGroup (e : Enumeration) (name : String) : Option Enumeration :=
  e.enums.find? fun nested => nested.isCodingKeys && nested.name == name

/-- The block a codec is written for. -/
structure Declaration where
  typeName : String
  kind : String
  typeKind : String
  enums : List Enumeration
  options : List (String × Json)
deriving Repr

namespace Declaration

def isExtension (d : Declaration) : Bool := d.kind == "extension"

/-- The enumeration that lists the coding keys. -/
def codingKeys? (d : Declaration) : Option Enumeration := findCodingKeys d.enums

end Declaration

/-! ## Reading -/

/-- What is wrong with a declaration; `place` names the part. -/
inductive DeclarationError where
  | emptyString (place key : String)
  | notString (place key : String)
  | notList (place key : String)
  | emptyAttribute (place : String)
  | notAttribute (place : String)
  | notCase (place : String)
  | notEnum (place : String)
  | badInherits (place : String)
  | badOptions (place : String)
  | notDeclaration
deriving DecidableEq, Repr

/-- The text of an error. -/
def DeclarationError.message : DeclarationError → String
  | .emptyString place key => s!"{place}: '{key}' must be a non-empty string"
  | .notString place key => s!"{place}: '{key}' must be a string"
  | .notList place key => s!"{place}: '{key}' must be a list"
  | .emptyAttribute place => s!"{place}: empty attribute name"
  | .notAttribute place => s!"{place}: attribute must be a string or an object"
  | .notCase place => s!"{place}: case must be a string or an object"
  | .notEnum place => s!"{place}: enum must be an object"
  | .badInherits place => s!"{place}: 'inherits' must list type names"
  | .badOptions place => s!"{place}: 'options' must be an object"
  | .notDeclaration => "declaration must be an object"

namespace Declaration

abbrev Entries := List (String × Json)

/-- An entry that must be a non-empty string. -/
def requiredString (es : Entries) (key place : String) : Except DeclarationError String :=
  match Entries.get? key es with
  | some (.str s) => if s.isEmpty then .error (.emptyString place key) else .ok s
  | _ => .error (.emptyString place key)

/-- An entry that may be missing or null, and is a string otherwise. -/
def optionalString (es : Entries) (key place : String) :
    Except DeclarationError (Option String) :=
  match Entries.get? key es with
  | none | some .null => .ok none
  | some (.str s) => .ok (some s)
  | some _ => .error (.notString place key)

/-- An entry that may be missing and is a list otherwise. -/
def listEntry (es : Entries) (key place : String) : Except DeclarationError (List Json) :=
  match Entries.get? key es with
  | none => .ok []
  | some (.arr xs) => .ok xs
  | some _ => .error (.notList place key)

/-- An attribute from its name or from an object. -/
def attributeOf (place : String) : Json → Except DeclarationError Attribute
  | .str s =>
    let name := Text.trim s
    if name.isEmpty then .error (.emptyAttribute place) else .ok ⟨name, none⟩
  | .obj es => do
    let name ← requiredString es "name" place
    let argument ← optionalString es "argument" place
    return ⟨name, argument⟩
  | _ => .error (.notAttribute place)

/-- A case from its name or from an object. -/
def caseOf (place : String) : Json → Except DeclarationError Case
  | .str s => .ok ⟨s, none, []⟩
  | .obj es => do
    let name ← requiredString es "name" place
    let place := s!"{place} '{name}'"
    let rawValue ← optionalString es "raw_value" place
    let attributes ← (← listEntry es "attributes" place).mapM (attributeOf place)
    return ⟨name, rawValue, attributes⟩
  | _ => .error (.notCase place)

/-- The names in a list that holds strings only. -/
def stringsOf : List Json → Option (List String)
  | [] => some []
  | .str s :: xs => (stringsOf xs).map (s :: ·)
  | _ :: _ => none

/-- What is read from an enumeration before the enumerations nested in it. -/
structure EnumHead where
  name : String
  inherits : List String
  cases : List Case

/-- The place of what stands in an enumeration. -/
def enumPlace (name : String) : String := s!"enum '{name}'"

/-- Name, inherited types and cases of an enumeration. -/
def enumHeadOf (place : String) (es : Entries) : Except DeclarationError EnumHead := do
  let name ← requiredString es "name" place
  let place := enumPlace name
  match stringsOf (← listEntry es "inherits" place) with
  | none => .error (.badInherits place)
  | some inherits =>
    let cases ← (← listEntry es "cases" place).mapM (caseOf s!"{place} case")
    return ⟨name, inherits, cases⟩

mutual

/-- An enumeration from an object. -/
def enumOf (place : String) : Json → Except DeclarationError Enumeration
  | .obj es => do
    let head ← enumHeadOf place es
    let enums ← enumsIn (enumPlace head.name) es
    return ⟨head.name, head.inherits, head.cases, enums⟩
  | _ => .error (.notEnum place)

/-- The enumerations under the entry `enums`, none if it is missing. -/
def enumsIn (place : String) : Entries → Except DeclarationError (List Enumeration)
  | [] => .ok []
  | (key, value) :: es =>
    if key = "enums" then
      match value with
      | .arr xs => enumsOf place xs
      | _ => .error (.notList place key)
    else enumsIn place es

/-- The enumerations of a list. -/
def enumsOf (place : String) : List Json → Except DeclarationError (List Enumeration)
  | [] => .ok []
  | x :: xs => do
    let e ← enumOf place x
    let es ← enumsOf place xs
    return e :: es

end

/-- A string, or the default for none and for an empty one. -/
def orDefault (s : Option String) (default : String) : String :=
  match s with
  | none => default
  | some s => if s.isEmpty then default else s

/-- The options of a declaration: nothing for an empty value, else an object. -/
def optionsOf (es : Entries) (place : String) : Except DeclarationError Entries :=
  match Entries.get? "options" es with
  | none => .ok []
  | some (.obj options) => .ok options
  | some v => if v.truthy then .error (.badOptions place) else .ok []

/-- A declaration from an object. -/
def ofJson : Json → Except DeclarationError Declaration
  | .obj es => do
    let typeName ← requiredString es "type_name" "declaration"
    let place := s!"declaration '{typeName}'"
    let options ← optionsOf es place
    let kind ← optionalString es "kind" place
    let typeKind ← optionalString es "type_kind" place
    let enums ← enumsIn place es
    return ⟨typeName, orDefault kind "extension", orDefault typeKind "struct", enums, options⟩
  | _ => .error .notDeclaration

end Declaration

/-- Declarations from one object, a list, or an object with an entry
    `declarations`. -/
def declarationsOf (data : Json) : Except DeclarationError (List Declaration) :=
  match (data.field? "declarations").getD data with
  | .arr xs => xs.mapM Declaration.ofJson
  | v => do return [← Declaration.ofJson v]

end CodecForge
