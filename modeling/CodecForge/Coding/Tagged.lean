/-
  CodecForge — values and hints written as JSON.

  JSON has fewer kinds of values than codecs meet.  A value that JSON lacks is
  written as an object with one entry, whose name is a tag that begins with a
  dollar sign: a float by its text, a dictionary by its pairs, bytes in
  hexadecimal, a member by its enumeration and name, a record by its class and
  fields.  A class is read by its name, but written by what it is.  A hint is
  written as a name, or as a list of a tag and its arguments.

  * `Value.ofTagged` reads a value and `Value.toTagged` writes one; the items of a
    set are written in the order of their texts;
  * `Hint.ofTagged` reads a hint.
-/
import CodecForge.Coding.Codec
import CodecForge.Json.Reader
import CodecForge.Json.Writer
import CodecForge.Number.Integer

namespace CodecForge.Coding

/-! ## Scalars -/

/-- The float that a text denotes. -/
def floatOfText (s : String) : Double :=
  match s, Json.read s with
  | "nan", _ => .nan
  | "inf", _ => .infinity false
  | "-inf", _ => .infinity true
  | _, .ok (.float x) => x
  | _, .ok (.int n) => (Double.ofInt? n).getD .nan
  | _, _ => .nan

/-- The bytes that hexadecimal digits denote. -/
def bytesOfHex : List Char → List UInt8
  | a :: b :: cs =>
    let digit := fun c => (Json.hexValue? c).getD 0
    UInt8.ofNat (16 * digit a + digit b) :: bytesOfHex cs
  | _ => []

/-- The hexadecimal digits of bytes. -/
def hexOfBytes (bs : List UInt8) : String := String.join (bs.map fun b => Text.hex 2 b.toNat)

/-! ## Values -/

namespace Value

mutual

/-- The value that JSON with tags denotes. -/
def ofTagged (u : Classes) : Json → Value
  | .null => .null
  | .bool b => .bool b
  | .int n => .int n
  | .float x => .float x
  | .str s => .str s
  | .arr xs => .list (itemsOfTagged u xs)
  | .obj [("$int", .str s)] => .int ((readInteger s).getD 0)
  | .obj [("$float", .str s)] => .float (floatOfText s)
  | .obj [("$dict", .arr ps)] => .dict (entriesOf (pairsOfTagged u ps))
  | .obj [("$tuple", .arr xs)] => .tuple (itemsOfTagged u xs)
  | .obj [("$set", .arr xs)] => .set (distinct (itemsOfTagged u xs))
  | .obj [("$frozenset", .arr xs)] => .frozenset (distinct (itemsOfTagged u xs))
  | .obj [("$bytes", .str s)] => .bytes (bytesOfHex s.toList)
  | .obj [("$bytearray", .str s)] => .bytearray (bytesOfHex s.toList)
  | .obj [("$enum", .arr [.str enum, .str name])] => u.member enum name
  | .obj [("$obj", .arr [.str name, .arr fs])] => u.record name (fieldsOfTagged u fs)
  | .obj [("$sub", .arr [.str name, v])] => .branded name (ofTagged u v)
  | .obj [("$class", .str name)] => u.classObject name
  | _ => .null

/-- The values of items. -/
def itemsOfTagged (u : Classes) : List Json → List Value
  | [] => []
  | x :: xs => ofTagged u x :: itemsOfTagged u xs

/-- The entries that pairs denote. -/
def pairsOfTagged (u : Classes) : List Json → List (Value × Value)
  | [] => []
  | .arr [k, v] :: ps => (ofTagged u k, ofTagged u v) :: pairsOfTagged u ps
  | _ :: ps => pairsOfTagged u ps

/-- The fields that pairs denote. -/
def fieldsOfTagged (u : Classes) : List Json → List (String × Value)
  | [] => []
  | .arr [.str name, v] :: fs => (name, ofTagged u v) :: fieldsOfTagged u fs
  | _ :: fs => fieldsOfTagged u fs

end

/-- JSON with a tag. -/
def tagged (tag : String) (v : Json) : Json := .obj [("$" ++ tag, v)]

/-- JSON values in the order of their texts. -/
def byText (js : List Json) : List Json :=
  ((js.map fun j => (Json.write .oneLine j, j)).mergeSort fun a b => decide (a.1 ≤ b.1)).map (·.2)

/-- The integers from here up in size are written with a tag. -/
def taggedFrom : Nat := Nat.pow 2 53

mutual

/-- A value as JSON with tags. -/
def toTagged : Value → Json
  | null => .null
  | bool b => .bool b
  | int n => if n.natAbs < taggedFrom then .int n else tagged "int" (.str (toString n))
  | float x => tagged "float" (.str x.text)
  | str s => .str s
  | list xs => .arr (itemsToTagged xs)
  | tuple xs => tagged "tuple" (.arr (itemsToTagged xs))
  | set xs => tagged "set" (.arr (byText (itemsToTagged xs)))
  | frozenset xs => tagged "frozenset" (.arr (byText (itemsToTagged xs)))
  | dict es => tagged "dict" (.arr (pairsToTagged es))
  | bytes bs => tagged "bytes" (.str (hexOfBytes bs))
  | bytearray bs => tagged "bytearray" (.str (hexOfBytes bs))
  | member enum name _ _ => tagged "enum" (.arr [.str enum, .str name])
  | record name fs => tagged "obj" (.arr [.str name, .arr (fieldsToTagged fs)])
  | branded name v => tagged "sub" (.arr [.str name, v.toTagged])
  | v@(classObject ..) => tagged "other" (.str v.className)

def itemsToTagged : List Value → List Json
  | [] => []
  | x :: xs => x.toTagged :: itemsToTagged xs

def pairsToTagged : List (Value × Value) → List Json
  | [] => []
  | (k, v) :: es => .arr [k.toTagged, v.toTagged] :: pairsToTagged es

def fieldsToTagged : List (String × Value) → List Json
  | [] => []
  | (name, v) :: fs => .arr [.str name, v.toTagged] :: fieldsToTagged fs

end

end Value

/-! ## Hints -/

namespace Hint

/-- The hint with a name. -/
def named : String → Hint
  | "any" => any
  | "str" => scalar .str
  | "int" => scalar .int
  | "float" => scalar .float
  | "bool" => scalar .bool
  | "nonetype" => nullClass
  | "List" => items .list untyped
  | "Dict" => dict "Dict" untyped untyped
  | "Tuple" => anyTuple
  | "typevar" => free "T" []
  | name => cls name

/-- A hint that has been made, with the name of its maker and the arguments. -/
structure Made where
  maker : String
  arguments : List Hint
  hint : Hint

/-- Making hints, with those that have been made before. -/
abbrev Making := StateM (List Made)

/-- The hint that a maker makes of arguments.  Of equal arguments the same hint is
    made again, with the unions in it in the order they had before. -/
def make (maker : String) (arguments : List Hint) (hint : Hint) : Making Hint := do
  match (← get).find? fun m => m.maker == maker && sameEach m.arguments arguments with
  | some m => return m.hint
  | none =>
    modify (⟨maker, arguments, hint⟩ :: ·)
    return hint

def makeItems (kind : ItemsKind) (h : Hint) : Making Hint := make kind.name [h] (items kind h)

def makeDict (name : String) (key value : Hint) : Making Hint :=
  make name [key, value] (dict name key value)

def makeUnion (hs : List Hint) : Making Hint := make "Union" hs (unionOf hs)

def makeOptional (h : Hint) : Making Hint := do
  make "Optional" [h] (← makeUnion [h, nullClass])

/-- Two hints with a bar between them, which make a union that is named after them if
    they are classes. -/
def makePipe (u : Classes) (h k : Hint) : Making Hint :=
  if h.isClassLike && k.isClassLike then
    return pipeOf (fun name => Value.fullName name (u.homeOf name)) [h, k]
  else makeUnion [h, k]

mutual

/-- The hint that stands inside another one; null is the class of null there. -/
def inside (u : Classes) : Json → Making Hint
  | .null => return nullClass
  | .str name => return named name
  | .arr [.str "list", t] => do makeItems .list (← inside u t)
  | .arr [.str "set", t] => do makeItems .set (← inside u t)
  | .arr [.str "frozenset", t] => do makeItems .frozenset (← inside u t)
  | .arr [.str "sequence", t] => do makeItems .sequence (← inside u t)
  | .arr [.str "abstract_set", t] => do makeItems .abstractSet (← inside u t)
  | .arr [.str "dict", k, t] => do
    let key ← inside u k
    makeDict "Dict" key (← inside u t)
  | .arr [.str "mapping", k, t] => do
    let key ← inside u k
    makeDict "Mapping" key (← inside u t)
  | .arr [.str "tuple_var", t] => do
    let h ← inside u t
    make "Tuple..." [h] (tupleOf h)
  | .arr [.str "optional", t] => do makeOptional (← inside u t)
  | .arr [.str "string", .str s] => return unresolved s
  | .arr [.str "forward", .str s] => return unresolved s
  | .arr (.str "iterable" :: ts) => return free "Iterable" (← allInside u ts)
  | .arr (.str "callable" :: ts) => return free "Callable" (← allInside u ts)
  | .arr (.str "tuple" :: ts) => do
    let hs ← allInside u ts
    make "Tuple" hs (tuple hs)
  | .arr (.str "union" :: ts) => do makeUnion (← allInside u ts)
  | .arr (.str "pipe" :: ts) => do
    match ← allInside u ts with
    | [] => return any
    | h :: hs => hs.foldlM (makePipe u) h
  | .arr (.str "literal" :: vs) => return literal (Value.itemsOfTagged u vs)
  | _ => return any

def allInside (u : Classes) : List Json → Making (List Hint)
  | [] => return []
  | t :: ts => do
    let h ← inside u t
    return h :: (← allInside u ts)

end

/-- The hint that JSON denotes; null is no hint at all. -/
def ofTagged (u : Classes) : Json → Hint
  | .null => untyped
  | v => ((inside u v).run []).1

end Hint

end CodecForge.Coding
