/-
  CodecForge — the templates that come with a language.

  A bundled template is the tree of a function, a member or a module.  It writes
  the same text as the generators, from the variables of a context.

  * `BundledTemplate.name` is its name, `find?` finds it by that name;
  * `nodes` is its tree, `render` its text under a context.
-/
import CodecForge.Template.Document

namespace CodecForge.Template

/-! ## Names -/

/-- A template that comes with a language. -/
inductive BundledTemplate where
  | pythonFunction (kind : ContainerKind) (direction : Direction)
  | pythonModule
  | swiftMember (kind : ContainerKind) (direction : Direction)
  | swiftExtension
  | swiftFile
deriving DecidableEq, Repr

namespace BundledTemplate

def kindLabel : ContainerKind → String
  | .keyed => "keyed"
  | .singleValue => "single_value"
  | .singleValueForEnum => "enum"

def name : BundledTemplate → String
  | pythonFunction k d => kindLabel k ++ "_" ++ d.label ++ ".py.j2"
  | pythonModule => "module.py.j2"
  | swiftMember k d => kindLabel k ++ "_" ++ d.label ++ ".swift.j2"
  | swiftExtension => "extension.swift.j2"
  | swiftFile => "module.swift.j2"

/-- Every kind of function in both directions. -/
def shapes : List (ContainerKind × Direction) :=
  [.keyed, .singleValue, .singleValueForEnum].flatMap fun k => [(k, .encode), (k, .decode)]

/-- The templates of a language. -/
def all : Target → List BundledTemplate
  | .python => pythonModule :: shapes.map fun (k, d) => pythonFunction k d
  | .swift => swiftExtension :: swiftFile :: shapes.map fun (k, d) => swiftMember k d

/-- The template of a language with a name, which may go through the directory
    itself but not above it. -/
def find? (t : Target) (name : String) : Option BundledTemplate :=
  let parts := (Text.parts '/' name).filter fun p => p ≠ "" ∧ p ≠ "."
  (all t).find? fun b => parts = [b.name]

end BundledTemplate

/-! ## Parts -/

namespace Bundled

instance : Coe String (List Node) := ⟨fun s => [.text s]⟩

instance : Coe Expression (List Node) := ⟨fun e => [.value e]⟩

/-- A variable of the context. -/
def given (name : String) : Expression := .variable_ name

/-- An entry of a variable. -/
def field (name entry : String) : Expression := .entry (given name) entry

def quoted (e : Expression) : Expression := .filtered e "quote" []

def constant (s : String) : Expression := .constant (.str s)

/-- One of two texts. -/
def textIf (test : Expression) (yes no : String) : Expression :=
  .choice test (constant yes) (some (constant no))

/-- Parts side by side. -/
def parts (ps : List (List Node)) : List Node := ps.flatten

/-- A line of a template. -/
def line (ps : List (List Node)) : List Node := ps.flatten ++ [.text "\n"]

/-- Parts that are there if a value is. -/
def ifSet (test : Expression) (yes : List Node) : List Node := [.branch test yes []]

def ifSetElse (test : Expression) (yes no : List Node) : List Node := [.branch test yes no]

/-- Parts that are repeated for every item of a variable. -/
def forEach (name items : String) (body : List Node) : List Node :=
  [.loop name (given items) body]

/-! ## Python -/

/-- The first lines of a function. -/
def pythonHead : List Node :=
  line ["def ", given "signature", ":"] ++
  ifSet (given "docstring") (line ["    \"\"\"", given "docstring", "\"\"\""])

/-- The containers below the one of a function. -/
def pythonContainers : List Node :=
  forEach "nested" "containers" (line ["    ", field "nested" "variable", " = ",
    field "nested" "parent", ".nested_container(", quoted (field "nested" "key"), ")"])

/-- The line of a step, which is one of four: the step has a transform or not, and is
    conditional or not. -/
def pythonStep (both transformed conditional plain : List Node) : List Node :=
  ifSetElse (.both (field "step" "transform") (field "step" "conditional")) both
    (ifSetElse (field "step" "transform") transformed
      (ifSetElse (field "step" "conditional") conditional plain))

/-- A line that writes a value under the key of a step. -/
def pythonWrite (method : String) (value : List Node) : List Node :=
  line ["    ", field "step" "container", method, value, ", ", quoted (field "step" "key"), ")"]

/-- A line that reads a value under the key of a step for the property of the step. -/
def pythonRead (before method : String) (type : List Node) (after : String) : List Node :=
  line ["        ", field "step" "attribute", "=", before, field "step" "container", method,
    quoted (field "step" "key"), ", ", type, after]

/-- The type of a property. -/
def propertyType (property : Expression) : List Node :=
  parts ["field_type(", given "type_name", ", ", quoted property, ")"]

/-- The error for a value that is none of the cases. -/
def notACase (margin : String) : List Node :=
  line [margin, "raise EncodingError.invalid_value(value, container.coding_path, ",
    quoted (.joined [constant "Not a case of ", given "type_name"]), ")"]

def pythonFunction : ContainerKind → Direction → List Node
  | .keyed, .encode =>
    let property : List Node := parts ["value.", field "step" "attribute"]
    pythonHead ++ line ["    container = encoder.container()"] ++ pythonContainers ++
    forEach "step" "steps" (pythonStep
      (pythonWrite ".encode_if_present("
        (parts ["transform_from_value(", field "step" "transform", ", ", property, ")"]))
      (pythonWrite ".encode("
        (parts [field "step" "transform", ".from_value(", property, ")"]))
      (pythonWrite ".encode_if_present(" property)
      (pythonWrite ".encode(" property))
  | .keyed, .decode =>
    let type := propertyType (field "step" "attribute")
    let transform : List Node := field "step" "transform"
    pythonHead ++ line ["    container = decoder.container()"] ++ pythonContainers ++
    ifSetElse (given "steps")
      (line ["    return ", given "type_name", "("] ++
        forEach "step" "steps" (pythonStep
          (pythonRead "transform_value(" ".decode_if_present(" transform ")),")
          (pythonRead "" ".decode(" transform ").value(),")
          (pythonRead "" ".decode_if_present(" type "),")
          (pythonRead "" ".decode(" type "),")) ++
        line ["    )"])
      (line ["    return ", given "type_name", "()"])
  | .singleValue, .encode =>
    pythonHead ++
    line ["    container = encoder.single_value_container()"] ++
    line ["    container.encode(value.", given "binding", ")"]
  | .singleValue, .decode =>
    pythonHead ++
    line ["    container = decoder.single_value_container()"] ++
    line ["    return ", given "type_name", "(", given "binding", "=container.decode(",
      propertyType (given "binding"), "))"]
  | .singleValueForEnum, .encode =>
    pythonHead ++
    line ["    container = encoder.single_value_container()"] ++
    forEach "case" "cases"
      (line ["    ", textIf (field "loop" "first") "if" "elif", " value is ",
          given "type_name", ".", field "case" "attribute", ":"] ++
        line ["        container.encode(", quoted (field "case" "key"), ")"]) ++
    ifSetElse (given "cases") (line ["    else:"] ++ notACase "        ") (notACase "    ")
  | .singleValueForEnum, .decode =>
    pythonHead ++
    line ["    container = decoder.single_value_container()"] ++
    line ["    string_value = container.decode(str)"] ++
    forEach "case" "cases"
      (line ["    if string_value == ", quoted (field "case" "key"), ":"] ++
        line ["        return ", given "type_name", ".", field "case" "attribute"]) ++
    line ["    raise DataCorruptedError.in_container(container, ",
      "f\"Invalid value: \x7bstring_value\x7d\")"]

/-- An argument of a registration that is there only if its function is. -/
def registered (direction : String) : List Node :=
  ifSet (field "registration" direction)
    (parts [", ", direction, "=", field "registration" direction])

def pythonModule : List Node :=
  ifSet (given "header") (line [Expression.filtered (given "header") "comment" []]) ++
  ifSet (given "type_hints") (line ["from __future__ import annotations"] ++ line []) ++
  ifSet (given "runtime_imports")
    (line ["from ", given "runtime_module", " import ("] ++
      forEach "name" "runtime_imports" (line ["    ", given "name", ","]) ++
      line [")"]) ++
  ifSet (given "type_imports")
    (line ["from ", given "type_module", " import ",
      Expression.filtered (given "type_imports") "join" [(none, constant ", ")]]) ++
  ifSet (given "exports")
    (line [] ++ line ["__all__ = ["] ++
      forEach "name" "exports" (line ["    ", quoted (given "name"), ","]) ++
      line ["]"]) ++
  forEach "block" "blocks" (line [] ++ line [] ++ line [given "block"]) ++
  ifSet (given "registrations")
    (line [] ++ line [] ++
      forEach "registration" "registrations"
        (line ["register_codec(", field "registration" "type_name", registered "encode",
          registered "decode", ")"]))

/-! ## Swift -/

/-- The first line of a member. -/
def swiftHead : Direction → List Node
  | .encode => line [given "modifier", "func encode(to encoder: Encoder) throws \x7b"]
  | .decode => line [given "modifier", "init(from decoder: Decoder) throws \x7b"]

/-- The containers below the one of a member. -/
def swiftContainers (binding call : String) : List Node :=
  forEach "nested" "containers"
    (line ["    ", binding, " ", field "nested" "variable", " = ", call,
        field "nested" "parent", ".nestedContainer("] ++
      line ["        keyedBy: ", field "nested" "keys_name", ".self,"] ++
      line ["        forKey: .", field "nested" "label"] ++
      line ["    )"])

/-- What the name of a call ends with at a conditional step. -/
def ifPresent : Expression := textIf (field "step" "conditional") "IfPresent" ""

def swiftMember : ContainerKind → Direction → List Node
  | .keyed, .encode =>
    swiftHead .encode ++
    line ["    var container = encoder.container(keyedBy: ", given "keys_name", ".self)"] ++
    swiftContainers "var" "" ++
    forEach "step" "steps"
      (line ["    try ", field "step" "container", ".encode", ifPresent, "(",
        ifSetElse (field "step" "transform")
          (parts [field "step" "transform", "(from: ", field "step" "reference", ")"])
          (field "step" "reference"),
        ", forKey: .", field "step" "label", ")"]) ++
    line ["\x7d"]
  | .keyed, .decode =>
    swiftHead .decode ++
    line ["    let container = try decoder.container(keyedBy: ", given "keys_name",
      ".self)"] ++
    swiftContainers "let" "try " ++
    ifSetElse (given "steps")
      (line ["    try self.init("] ++
        forEach "step" "steps"
          (line ["        ", field "step" "label", ": ", field "step" "container", ".decode",
            ifPresent, "(",
            ifSetElse (field "step" "transform")
              (parts [field "step" "transform", ".self, forKey: .", field "step" "label", ")",
                textIf (field "step" "conditional") "?" "", ".value()"])
              (parts ["for: .", field "step" "label", ")"]),
            textIf (field "loop" "last") "" ","]) ++
        line ["    )"])
      (line ["    try self.init()"]) ++
    line ["\x7d"]
  | .singleValue, .encode =>
    swiftHead .encode ++
    line ["    var container = encoder.singleValueContainer()"] ++
    line ["    try container.encode(", given "binding", ")"] ++
    line ["\x7d"]
  | .singleValue, .decode =>
    swiftHead .decode ++
    line ["    let container = try decoder.singleValueContainer()"] ++
    line ["    try self.init(", given "binding", ": container.decode())"] ++
    line ["\x7d"]
  | .singleValueForEnum, .encode =>
    swiftHead .encode ++
    line ["    var container = encoder.singleValueContainer()"] ++
    line ["    switch self \x7b"] ++
    forEach "case" "cases"
      (line ["    case .", field "case" "label", ":"] ++
        line ["        try container.encode(", given "keys_name", ".", field "case" "label",
          ".rawValue)"]) ++
    line ["    \x7d"] ++ line ["\x7d"]
  | .singleValueForEnum, .decode =>
    swiftHead .decode ++
    line ["    let container = try decoder.singleValueContainer()"] ++
    line ["    let stringValue = try container.decode(String.self)"] ++
    line ["    switch stringValue \x7b"] ++
    forEach "case" "cases"
      (line ["    case ", given "keys_name", ".", field "case" "label", ".rawValue:"] ++
        line ["        self = .", field "case" "label"]) ++
    line ["    default:"] ++
    line ["        throw DecodingError.dataCorruptedError("] ++
    line ["            in: container,"] ++
    line ["            debugDescription: \"Invalid value: \\(stringValue)\""] ++
    line ["        )"] ++
    line ["    \x7d"] ++ line ["\x7d"]

/-- A blank line between the items of a loop. -/
def blankBetween : List Node := ifSet (.negated (field "loop" "last")) (line [])

def swiftExtension : List Node :=
  line ["extension ", given "type_name", " \x7b"] ++
  forEach "member" "members"
    (line [Expression.filtered (given "member") "indent"
        [(none, .constant (.int 4)), (some "first", .constant (.bool true))]] ++
      blankBetween) ++
  line ["\x7d"]

def swiftFile : List Node :=
  ifSet (given "header")
    (line [Expression.filtered (given "header") "comment" [(none, constant "//")]] ++
      line []) ++
  forEach "name" "imports" (line ["import ", given "name"]) ++
  ifSet (given "imports") (line []) ++
  forEach "block" "blocks" (line [given "block"] ++ blankBetween) ++
  ifSet (given "decode_helper")
    (line [] ++
      line ["extension KeyedDecodingContainer \x7b"] ++
      line ["    func decode<T: Decodable>(for key: KeyedDecodingContainer<K>.Key) ",
        "throws -> T \x7b"] ++
      line ["        try decode(T.self, forKey: key)"] ++
      line ["    \x7d"] ++ line ["\x7d"])

end Bundled

/-! ## Rendering -/

namespace BundledTemplate

/-- The tree of a bundled template. -/
def nodes : BundledTemplate → List Node
  | pythonFunction k d => Bundled.pythonFunction k d
  | pythonModule => Bundled.pythonModule
  | swiftMember k d => Bundled.swiftMember k d
  | swiftExtension => Bundled.swiftExtension
  | swiftFile => Bundled.swiftFile

/-- The text of a bundled template under a context. -/
def render (c : Context) (b : BundledTemplate) : Except RenderFault String :=
  renderTemplate b.nodes c

end BundledTemplate

end CodecForge.Template
