/-
  CodecForge — classes and registered codecs.

  * a `ClassInfo` describes a class that values may belong to: its ancestors,
    the members of an enumeration, the declared types of its fields, and what it
    can do by itself to encode and decode;
  * `Classes.lineage` is a class with its ancestors, in the order in which they
    are asked;
  * a `CodecTable` holds the codecs registered for classes; registering one
    direction keeps the other;
  * `codecFor` finds the codec of the nearest class that has one.
-/
import CodecForge.Coding.Encoder

namespace CodecForge.Coding

/-! ## Procedures -/

/-- How data is decoded under a hint at a path. -/
abbrev Decoding := Hint → Value → CodingPath → Except Failure Value

/-- A procedure that writes a value; it is given the way in which other values
    are encoded. -/
structure EncodeProcedure where
  name : String
  run : Encoding → Value → EncoderM Unit

/-- A procedure that reads data at a path; it is given the way in which other
    data is decoded. -/
structure DecodeProcedure where
  name : String
  run : Decoding → Value → CodingPath → Except Failure Value

/-! ## Classes -/

/-- What is known about a class. -/
structure ClassInfo where
  name : String
  /-- the module it is defined in, empty for a built-in class -/
  home : String := ""
  /-- further classes of its values, nearest first -/
  ancestors : List String
  /-- the members of an enumeration with their values -/
  members : Option (List (String × Value)) := none
  /-- whether the members count as their values -/
  mixed : Bool := false
  /-- the declared types of its fields -/
  fields : List (String × Hint) := []
  /-- the values of the fields that may be left out -/
  defaults : List (String × Value) := []
  /-- the method that writes a value -/
  encode? : Option EncodeProcedure := none
  /-- the procedure of the class itself that reads a value -/
  decode? : Option DecodeProcedure := none

/-- The classes that are known beside the built-in ones. -/
abbrev Classes := List ClassInfo

namespace Classes

/-- The description of a class. -/
def find? (u : Classes) (name : String) : Option ClassInfo := List.find? (·.name == name) u

/-- The ancestors of a class. -/
def ancestors (u : Classes) (name : String) : List String :=
  match u.find? name with
  | some c => c.ancestors
  | none => if name = "bool" then ["int"] else []

/-- A class with its ancestors, the most general one last. -/
def lineage (u : Classes) (name : String) : List String :=
  name :: u.ancestors name ++ if name = "object" then [] else ["object"]

/-- Whether a value belongs to a class. -/
def isInstance (u : Classes) (v : Value) (name : String) : Bool :=
  (u.lineage v.className).contains name

/-- The declared type of a field. -/
def fieldType (u : Classes) (className field : String) : Option Hint :=
  (u.find? className).bind fun c => Entries.get? field c.fields

/-- The members of an enumeration as values. -/
def members (c : ClassInfo) : List Value :=
  (c.members.getD []).map fun m => .member c.name m.1 c.mixed m.2

/-- The member of an enumeration with a name, null if there is none. -/
def member (u : Classes) (enum name : String) : Value :=
  let found := do
    let c ← u.find? enum
    let v ← Entries.get? name (c.members.getD [])
    return Value.member enum name c.mixed v
  found.getD .null

/-- A record with the given fields, and the default values of the others. -/
def record (u : Classes) (name : String) (given : List (String × Value)) : Value :=
  match u.find? name with
  | none => .record name given
  | some c => .record name (c.fields.filterMap fun (field, _) =>
      (Entries.get? field given <|> Entries.get? field c.defaults).map (field, ·))

/-- Whether a class is an enumeration. -/
def isEnum (u : Classes) (name : String) : Bool := (u.find? name).any (·.members.isSome)

/-- The module of a class, empty for a built-in one. -/
def homeOf (u : Classes) (name : String) : String := ((u.find? name).map (·.home)).getD ""

/-- A class as a value. -/
def classObject (u : Classes) (name : String) : Value :=
  .classObject name (u.homeOf name) (u.isEnum name)

/-! ## Making values of a class -/

/-- The fields that must be given. -/
def required (c : ClassInfo) : List (String × Hint) :=
  c.fields.filter fun f => !Entries.has f.1 c.defaults

/-- What the class of a built-in value is made from when nothing is given. -/
def emptyBase? (u : Classes) (name : String) : Option Value :=
  (u.lineage name).findSome? fun
    | "str" => some (.str "")
    | "int" => some (.int 0)
    | "list" => some (.list [])
    | _ => none

/-- The value of a class for which nothing is given. -/
def makeEmpty (u : Classes) (name : String) : Except Failure Value :=
  if u.isEnum name then .error .badOperand else
  match u.emptyBase? name, u.find? name with
  | some v, _ => .ok (.branded name v)
  | none, some c => if (required c).isEmpty then .ok (u.record name []) else .error .badOperand
  | none, none => .error .badOperand

/-- Whether a class makes a value of an object of any kind: a text can be made of
    one, a number or a list cannot, and a record can if it takes one field. -/
def checkOneArgument (u : Classes) (name : String) : Except Failure Unit :=
  if u.isEnum name then .error .badValue else
  match u.emptyBase? name, u.find? name with
  | some (.str _), _ => .ok ()
  | none, some c =>
    if !c.fields.isEmpty && (required c).length ≤ 1 then .ok () else .error .badOperand
  | _, _ => .error .badOperand

end Classes

/-! ## Codecs -/

/-- The procedures registered for a class. -/
structure Codec where
  encode? : Option EncodeProcedure := none
  decode? : Option DecodeProcedure := none

/-- Codecs under the names of their classes. -/
abbrev CodecTable := List (String × Codec)

namespace CodecTable

/-- Registers procedures for a class; a direction that is not given keeps what
    it has. -/
def register (t : CodecTable) (name : String) (encode : Option EncodeProcedure)
    (decode : Option DecodeProcedure) : CodecTable :=
  let old := (Entries.get? name t).getD {}
  Entries.put name ⟨encode <|> old.encode?, decode <|> old.decode?⟩ t

/-- Drops the codec of a class. -/
def unregister (t : CodecTable) (name : String) : CodecTable := Entries.erase name t

/-- The codec of the first of the classes that has one. -/
def codecFor (t : CodecTable) (lineage : List String) : Option Codec :=
  lineage.findSome? fun name => Entries.get? name t

end CodecTable

end CodecForge.Coding
