/-
  CodecForge — JSON values.

  Objects keep their entries in the order of the text; integers are unbounded,
  and a number with a fraction or an exponent is a binary64 number.

  * `field?` reads an entry of an object, `truthy` tells the empty values from
    the others;
  * `same` is the equality under which a boolean is the integer 0 or 1 and a
    float equals the integer of its value;
  * `kindName` names the kind of a value, `shown` writes a value the way
    messages show it, `text` does so too but leaves a string as it is.
-/
import CodecForge.Entries
import CodecForge.Number.Shortest
import CodecForge.Text.Quoted

namespace CodecForge

/-- A JSON value. -/
inductive Json where
  | null
  | bool (b : Bool)
  | int (n : Int)
  | float (x : Double)
  | str (s : String)
  | arr (items : List Json)
  | obj (entries : List (String × Json))
deriving Inhabited, Repr

namespace Json

/-! ## Looking into a value -/

/-- The value of an entry of an object. -/
def field? (key : String) : Json → Option Json
  | .obj es => Entries.get? key es
  | _ => none

/-- Neither null, false, zero nor empty. -/
def truthy : Json → Bool
  | .null => false
  | .bool b => b
  | .int n => n ≠ 0
  | .float x => x.isNaN || !x.eqInt 0
  | .str s => !s.isEmpty
  | .arr xs => !xs.isEmpty
  | .obj es => !es.isEmpty

def isNull : Json → Bool
  | .null => true
  | _ => false

def isString : Json → Bool
  | .str _ => true
  | _ => false

/-- The items of a value that has items: a list, the characters of a string, or
    the names of an object. -/
def items? : Json → Option (List Json)
  | .arr xs => some xs
  | .str s => some (s.toList.map fun c => .str (String.ofList [c]))
  | .obj es => some (es.map fun e => .str e.1)
  | _ => none

/-- The name of the kind of a value. -/
def kindName : Json → String
  | .null => "NoneType"
  | .bool _ => "bool"
  | .int _ => "int"
  | .float _ => "float"
  | .str _ => "str"
  | .arr _ => "list"
  | .obj _ => "dict"

/-! ## Showing a value -/

mutual

/-- A value as messages show it, strings in quotes. -/
def shown : Json → String
  | .null => "None"
  | .bool b => if b then "True" else "False"
  | .int n => toString n
  | .float x => x.text
  | .str s => Text.quoted s
  | .arr xs => "[" ++ ", ".intercalate (shownItems xs) ++ "]"
  | .obj es => "\x7b" ++ ", ".intercalate (shownEntries es) ++ "\x7d"

/-- The items of a list as messages show them. -/
def shownItems : List Json → List String
  | [] => []
  | x :: xs => shown x :: shownItems xs

/-- The entries of an object as messages show them. -/
def shownEntries : List (String × Json) → List String
  | [] => []
  | (k, v) :: es => (Text.quoted k ++ ": " ++ shown v) :: shownEntries es

end

/-- A value as running text: a string as it is, anything else as shown. -/
def text : Json → String
  | .str s => s
  | v => v.shown

/-! ## Equality -/

/-- The integer that a boolean or an integer stands for. -/
def asInt? : Json → Option Int
  | .bool b => some (if b then 1 else 0)
  | .int n => some n
  | _ => none

/-- Whether two scalar values are equal, numbers by their value. -/
def sameScalar (x y : Json) : Bool :=
  match x, y with
  | .null, .null => true
  | .str s, .str t => s == t
  | .float a, .float b => a.same b
  | .float a, y => y.asInt?.any a.eqInt
  | x, .float b => x.asInt?.any b.eqInt
  | x, y => x.asInt?.isSome && x.asInt? == y.asInt?

end Json

end CodecForge
