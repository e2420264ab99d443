/-
  CodecForge — values that are encoded and decoded.

  Values are dynamic: what a codec meets depends on what it is given.  Beside
  the JSON values there are tuples, sets, bytes, members of enumerations,
  records, values of a class derived from a built-in one (`branded`), and
  classes themselves.

  * a member is `mixed` if its enumeration derives from the class of its value:
    it then counts as that value, too;
  * `same` is equality across classes: numbers by their value, mixed members
    and branded values as what they stand for, dictionaries and sets without
    regard to order; `sameElement` is that of elements of collections;
  * `shown` writes a value as messages show it, `text` leaves a string as it is;
    `showable` and `hasText` say whether that can be done;
  * `ofJson` embeds JSON values.
-/
import CodecForge.Coding.Places
import CodecForge.Json.Basic
import CodecForge.Number.Integer

namespace CodecForge.Coding

/-- The keys and indexes that lead to a value. -/
abbrev CodingPath := List String

/-- A value. -/
inductive Value where
  | null
  | bool (b : Bool)
  | int (n : Int)
  | float (x : Double)
  | str (s : String)
  | list (items : List Value)
  | tuple (items : List Value)
  | set (items : List Value)
  | frozenset (items : List Value)
  | dict (entries : List (Value × Value))
  | bytes (data : List UInt8)
  | bytearray (data : List UInt8)
  | member (enum name : String) (mixed : Bool) (value : Value)
  | record (className : String) (fields : List (String × Value))
  | branded (className : String) (base : Value)
  /-- a class with the name of its module, which is empty for a built-in one -/
  | classObject (name home : String) (isEnum : Bool)
deriving Inhabited, Repr, BEq

namespace Value

/-! ## Classes -/

/-- The name of the class of a value. -/
def className : Value → String
  | null => "NoneType"
  | bool _ => "bool"
  | int _ => "int"
  | float _ => "float"
  | str _ => "str"
  | list _ => "list"
  | tuple _ => "tuple"
  | set _ => "set"
  | frozenset _ => "frozenset"
  | dict _ => "dict"
  | bytes _ => "bytes"
  | bytearray _ => "bytearray"
  | member enum _ _ _ => enum
  | record c _ => c
  | branded c _ => c
  | classObject _ _ isEnum => if isEnum then "EnumType" else "type"

def isNull : Value → Bool
  | null => true
  | _ => false

/-- What a value counts as: a mixed member is its value, a branded one its
    base. -/
def plain : Value → Value
  | member _ _ true v => v.plain
  | branded _ v => v.plain
  | v => v

/-- A list, also one of a derived class. -/
def asList? (v : Value) : Option (List Value) :=
  match v.plain with
  | list xs => some xs
  | _ => none

/-- The integer that a boolean or an integer counts as. -/
def asInt? (v : Value) : Option Int :=
  match v.plain with
  | bool b => some (if b then 1 else 0)
  | int n => some n
  | _ => none

/-! ## Equality -/

/-- Whether two values are the NaN of texts, which is one value: no number, so equal
    to nothing, but the same element as itself. -/
def bothTextNaN (v w : Value) : Bool :=
  match v, w with
  | float x, float y => x.bits == Double.textNaN.bits && x.bits == y.bits
  | _, _ => false

mutual

/-- Whether two values are equal. -/
def same (v w : Value) : Bool :=
  match v with
  | member enum name false _ =>
    match w with
    | member enum' name' false _ => enum == enum' && name == name'
    | _ => false
  | member _ _ true v => same v w
  | branded _ v => same v w
  | null =>
    match w.plain with
    | null => true
    | _ => false
  | bool b =>
    match w.plain with
    | float y => y.eqInt (if b then 1 else 0)
    | w => w.asInt? == some (if b then 1 else 0)
  | int n =>
    match w.plain with
    | float y => y.eqInt n
    | w => w.asInt? == some n
  | float x =>
    match w.plain with
    | float y => x.same y
    | w => w.asInt?.any x.eqInt
  | str s =>
    match w.plain with
    | str t => s == t
    | _ => false
  | list xs =>
    match w.plain with
    | list ys => sameItems xs ys
    | _ => false
  | tuple xs =>
    match w.plain with
    | tuple ys => sameItems xs ys
    | _ => false
  | set xs =>
    match w.plain with
    | set ys | frozenset ys => xs.length == ys.length && allAmong xs ys
    | _ => false
  | frozenset xs =>
    match w.plain with
    | set ys | frozenset ys => xs.length == ys.length && allAmong xs ys
    | _ => false
  | dict es =>
    match w.plain with
    | dict fs => es.length == fs.length && allEntriesAmong es fs
    | _ => false
  | bytes a =>
    match w.plain with
    | bytes b | bytearray b => a == b
    | _ => false
  | bytearray a =>
    match w.plain with
    | bytes b | bytearray b => a == b
    | _ => false
  | record c fs =>
    match w with
    | record d gs => c == d && sameFields fs gs
    | _ => false
  | classObject name home _ =>
    match w with
    | classObject name' home' _ => name == name' && home == home'
    | _ => false

/-- Whether two lists hold equal items in the same order. -/
def sameItems (xs ys : List Value) : Bool :=
  match xs, ys with
  | [], [] => true
  | x :: xs, y :: ys => (same x y || bothTextNaN x y) && sameItems xs ys
  | _, _ => false

/-- Whether every item has an equal one among the others. -/
def allAmong (xs ys : List Value) : Bool :=
  match xs with
  | [] => true
  | x :: xs => ys.any (fun y => same x y || bothTextNaN x y) && allAmong xs ys

/-- Whether every entry has an equal one among the others. -/
def allEntriesAmong (es fs : List (Value × Value)) : Bool :=
  match es with
  | [] => true
  | (k, v) :: es =>
    fs.any (fun f => same k f.1 && (same v f.2 || bothTextNaN v f.2)) && allEntriesAmong es fs

/-- Whether two records have equal fields. -/
def sameFields (fs gs : List (String × Value)) : Bool :=
  match fs, gs with
  | [], [] => true
  | (n, v) :: fs, (m, w) :: gs => n == m && same v w && sameFields fs gs
  | _, _ => false

end

mutual

/-- Whether a value can be an element of a set: nothing in it may change. -/
def hashable : Value → Bool
  | list _ | set _ | dict _ | bytearray _ | record _ _ => false
  | tuple xs => hashableItems xs
  | branded _ v => v.hashable
  | _ => true

def hashableItems : List Value → Bool
  | [] => true
  | x :: xs => x.hashable && hashableItems xs

end

/-- Whether two values are the same element of a collection. -/
def sameElement (v w : Value) : Bool := same v w || bothTextNaN v w

/-- The items of a set: of equal ones the first is kept. -/
def distinct (xs : List Value) : List Value :=
  xs.foldl (fun kept x => if kept.any (sameElement · x) then kept else kept ++ [x]) []

/-! ## Dictionaries -/

/-- The value under a key. -/
def lookup (key : Value) (es : List (Value × Value)) : Option Value :=
  (es.find? fun e => same e.1 key).map (·.2)

/-- The entries with a value written under a key. -/
def insert (key v : Value) : List (Value × Value) → List (Value × Value)
  | [] => [(key, v)]
  | e :: es => if same e.1 key then (e.1, v) :: es else e :: insert key v es

/-- The entries that pairs denote when the last pair of a key counts. -/
def entriesOf (pairs : List (Value × Value)) : List (Value × Value) :=
  pairs.foldl (fun es e => insert e.1 e.2 es) []

/-! ## Showing -/

/-- The name of a class with that of its module, if it has one. -/
def fullName (name home : String) : String := if home.isEmpty then name else home ++ "." ++ name

/-- The residue of a value that counts as a number. -/
def residue? (v : Value) : Option Nat :=
  match v.plain with
  | float x => x.residue?
  | v => v.asInt?.map residue

/-- The texts of the items of a set in the order in which they are shown: numbers
    by their places, other items as they were added. -/
def inSetOrder (xs : List Value) (texts : List String) : List String :=
  match xs.mapM (·.residue?) with
  | some residues => inPlaces (residues.zip texts)
  | none => texts

mutual

/-- A value as messages show it. -/
def shown : Value → String
  | null => "None"
  | bool b => if b then "True" else "False"
  | int n => toString n
  | float x => x.text
  | str s => Text.quoted s
  | list xs => "[" ++ ", ".intercalate (shownItems xs) ++ "]"
  | tuple [x] => "(" ++ x.shown ++ ",)"
  | tuple xs => "(" ++ ", ".intercalate (shownItems xs) ++ ")"
  | set [] => "set()"
  | set xs => "\x7b" ++ ", ".intercalate (inSetOrder xs (shownItems xs)) ++ "\x7d"
  | frozenset [] => "frozenset()"
  | frozenset xs =>
    "frozenset(\x7b" ++ ", ".intercalate (inSetOrder xs (shownItems xs)) ++ "\x7d)"
  | dict es => "\x7b" ++ ", ".intercalate (shownEntries es) ++ "\x7d"
  | bytes data => Text.quotedBytes false data
  | bytearray data => "bytearray(" ++ Text.quotedBytes true data ++ ")"
  | member enum name _ v => "<" ++ enum ++ "." ++ name ++ ": " ++ v.shown ++ ">"
  | record c fs => c ++ "(" ++ ", ".intercalate (shownFields fs) ++ ")"
  | branded _ v => v.shown
  | classObject name home isEnum =>
    if isEnum then "<enum '" ++ name ++ "'>" else "<class '" ++ fullName name home ++ "'>"

def shownItems : List Value → List String
  | [] => []
  | x :: xs => x.shown :: shownItems xs

def shownEntries : List (Value × Value) → List String
  | [] => []
  | (k, v) :: es => (k.shown ++ ": " ++ v.shown) :: shownEntries es

def shownFields : List (String × Value) → List String
  | [] => []
  | (n, v) :: fs => (n ++ "=" ++ v.shown) :: shownFields fs

end

/-- A value as running text: a string as it is, a member by its name unless it
    counts as an integer, anything else as shown. -/
def text : Value → String
  | str s => s
  | branded _ v => v.text
  | member _ _ true (int n) => toString n
  | member enum name _ _ => enum ++ "." ++ name
  | v => v.shown

mutual

/-- Whether a value can be shown: an integer with very many digits is not written. -/
def showable : Value → Bool
  | int n => n.natAbs < 10 ^ digitLimit
  | list xs | tuple xs | set xs | frozenset xs => showableItems xs
  | dict es => showableEntries es
  | member _ _ _ v => v.showable
  | record _ fs => showableFields fs
  | branded _ v => v.showable
  | _ => true

def showableItems : List Value → Bool
  | [] => true
  | x :: xs => x.showable && showableItems xs

def showableEntries : List (Value × Value) → Bool
  | [] => true
  | (k, v) :: es => k.showable && v.showable && showableEntries es

def showableFields : List (String × Value) → Bool
  | [] => true
  | (_, v) :: fs => v.showable && showableFields fs

end

/-- Whether a value can be written as running text. -/
def hasText : Value → Bool
  | branded _ v => v.hasText
  | member _ _ true (int n) => (int n).showable
  | member _ _ _ _ => true
  | v => v.showable

/-! ## JSON values -/

mutual

/-- A JSON value as a value. -/
def ofJson : Json → Value
  | .null => null
  | .bool b => bool b
  | .int n => int n
  | .float x => float x
  | .str s => str s
  | .arr xs => list (ofJsonItems xs)
  | .obj es => dict (ofJsonEntries es)

def ofJsonItems : List Json → List Value
  | [] => []
  | x :: xs => ofJson x :: ofJsonItems xs

def ofJsonEntries : List (String × Json) → List (Value × Value)
  | [] => []
  | (k, v) :: es => (str k, ofJson v) :: ofJsonEntries es

end

end Value

end CodecForge.Coding
