/-
  CodecForge — type hints.

  A hint says what a decoded value is to be.

  * `any`, `untyped` and `unresolved` take the data as they are, also null; `free`
    hints have no class behind them and take anything but null;
  * `same` is equality of hints, for which the order in a union does not count;
  * `unionOf` and `pipeOf` build unions: nested ones are taken apart, repeated
    members dropped, and a single member is no union;
  * `Hint.name` is the name of a hint in errors, `Hint.text` its full text.
-/
import CodecForge.Coding.Value

namespace CodecForge.Coding

/-- The scalar classes that JSON has. -/
inductive Scalar where
  | int
  | float
  | str
  | bool
deriving DecidableEq, Repr

def Scalar.name : Scalar → String
  | .int => "int"
  | .float => "float"
  | .str => "str"
  | .bool => "bool"

/-- How the items of a list are kept. -/
inductive ItemsKind where
  | list
  | sequence
  | set
  | frozenset
  | abstractSet
deriving DecidableEq, Repr

def ItemsKind.name : ItemsKind → String
  | .list => "List"
  | .sequence => "Sequence"
  | .set => "Set"
  | .frozenset => "FrozenSet"
  | .abstractSet => "AbstractSet"

/-- A type hint. -/
inductive Hint where
  | any
  /-- no hint at all -/
  | untyped
  | unresolved (written : String)
  | free (name : String) (arguments : List Hint)
  | scalar (s : Scalar)
  | cls (name : String)
  | items (kind : ItemsKind) (item : Hint)
  | tupleOf (item : Hint)
  | tuple (items : List Hint)
  | anyTuple
  | dict (name : String) (key value : Hint)
  | union (name : String) (members : List Hint)
  | literal (values : List Value)
deriving Inhabited, Repr

namespace Hint

/-- The class of null. -/
def nullClass : Hint := .cls "NoneType"

def isNullClass : Hint → Bool
  | .cls "NoneType" => true
  | _ => false

/-! ## Names and texts -/

/-- The name of a hint in errors. -/
def name : Hint → String
  | any => "Any"
  | untyped => ""
  | unresolved s => s
  | free s _ => s
  | scalar s => s.name
  | cls s => s
  | items kind _ => kind.name
  | tupleOf _ | tuple _ | anyTuple => "Tuple"
  | dict s _ _ => s
  | union s _ => s
  | literal _ => "Literal"

mutual

/-- The full text of a hint. -/
def text : Hint → String
  | any => "typing.Any"
  | untyped => ""
  | unresolved s => "ForwardRef('" ++ s ++ "')"
  | free s _ => "typing." ++ s
  | scalar s => s.name
  | cls s => s
  | items kind item => "typing." ++ kind.name ++ "[" ++ item.text ++ "]"
  | tupleOf item => "typing.Tuple[" ++ item.text ++ ", ...]"
  | tuple hs => "typing.Tuple[" ++ ", ".intercalate (texts hs) ++ "]"
  | anyTuple => "typing.Tuple"
  | dict s key value => "typing." ++ s ++ "[" ++ key.text ++ ", " ++ value.text ++ "]"
  | union "Optional" [h, .cls "NoneType"] => "typing.Optional[" ++ h.text ++ "]"
  | union "Optional" [.cls "NoneType", h] => "typing.Optional[" ++ h.text ++ "]"
  | union s hs =>
    if s = "Union" then "typing.Union[" ++ ", ".intercalate (texts hs) ++ "]" else s
  | literal vs => "typing.Literal[" ++ ", ".intercalate (Value.shownItems vs) ++ "]"

/-- The full texts of hints. -/
def texts : List Hint → List String
  | [] => []
  | h :: hs => h.text :: texts hs

end

/-! ## Equality -/

/-- Whether two values are the same in a literal hint: equal and of one class. -/
def sameLiteral (v w : Value) : Bool := v.same w && v.className == w.className

mutual

/-- Whether two hints are equal, unions and literals without regard to order. -/
def same (h k : Hint) : Bool :=
  match h, k with
  | any, any | untyped, untyped | anyTuple, anyTuple => true
  | unresolved s, unresolved t => s == t
  | free s hs, free t ks => s == t && sameEach hs ks
  | scalar s, scalar t => s == t
  | cls s, cls t => s == t
  | items a h, items b k => a == b && same h k
  | tupleOf h, tupleOf k => same h k
  | tuple hs, tuple ks => sameEach hs ks
  | dict s key value, dict t key' value' => s == t && same key key' && same value value'
  | union _ hs, union _ ks => hs.length == ks.length && allAmong hs ks
  | literal vs, literal ws =>
    vs.all (fun v => ws.any (sameLiteral v)) && ws.all fun w => vs.any (sameLiteral w)
  | _, _ => false

/-- Whether the hints of two lists are equal one by one. -/
def sameEach (hs ks : List Hint) : Bool :=
  match hs, ks with
  | [], [] => true
  | h :: hs, k :: ks => same h k && sameEach hs ks
  | _, _ => false

/-- Whether every hint has an equal one among others. -/
def allAmong (hs ks : List Hint) : Bool :=
  match hs with
  | [] => true
  | h :: hs => ks.any (same h) && allAmong hs ks

end

/-! ## Unions -/

/-- The members of unions taken apart. -/
def flattened (hs : List Hint) : List Hint :=
  hs.flatMap fun
    | .union _ members => members
    | h => [h]

/-- The members of a union of hints: of equal ones the first. -/
def membersOf (hs : List Hint) : List Hint :=
  (flattened hs).foldl (fun kept h => if kept.any (same · h) then kept else kept ++ [h]) []

/-- The union of hints; of two members of which one is null it is optional. -/
def unionOf (hs : List Hint) : Hint :=
  match membersOf hs with
  | [h] => h
  | [h, k] => .union (if h.isNullClass || k.isNullClass then "Optional" else "Union") [h, k]
  | members => .union "Union" members

/-- Whether a hint is a class, or a union named after its classes. -/
def isClassLike : Hint → Bool
  | any | scalar _ | cls _ => true
  | union name _ => name ≠ "Union" && name ≠ "Optional"
  | _ => false

/-- The text of a class in the name of a union. -/
def classText (fullName : String → String) (h : Hint) : String :=
  match h with
  | cls "NoneType" => "None"
  | cls name => fullName name
  | h => h.text

/-- The union of classes named after them; `fullName` is the name of a class with
    that of its module. -/
def pipeOf (fullName : String → String) (hs : List Hint) : Hint :=
  match membersOf hs with
  | [h] => h
  | members => .union (" | ".intercalate (members.map (classText fullName))) members

end Hint

end CodecForge.Coding
