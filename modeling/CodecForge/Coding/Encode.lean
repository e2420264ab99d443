/-
  CodecForge — encoding values.

  Encoding turns a value into its representation, a tree of scalars, lists and
  dictionaries with texts for keys.

  * `encodeWith` asks for a registered codec, then takes a member of an
    enumeration by its value, a dictionary and a list apart, and at last lets
    the value encode itself; codecs and methods are given `ambient` for the
    values they write;
  * `encodeValue` ties the knot, to a depth of codecs that call each other.
-/
import CodecForge.Coding.Codec

namespace CodecForge.Coding

/-- What encoding depends on beside the value. -/
structure Context where
  classes : Classes
  codecs : CodecTable

/-- The procedure that is registered for writing a value, if the nearest class
    with a codec has one. -/
def Context.writer? (c : Context) (v : Value) : Option EncodeProcedure :=
  (c.codecs.codecFor (c.classes.lineage v.className)).bind (·.encode?)

/-- A text, a number or a boolean of exactly that class. -/
def Value.isScalar : Value → Bool
  | .bool _ | .int _ | .float _ | .str _ => true
  | _ => false

/-- A record that writes itself: by a field that can be called, which is a class that
    is given the encoder and writes nothing, or by the method of its class. -/
def encodeRecord (c : Context) (ambient : Encoding) (className : String)
    (fields : List (String × Value)) (path : CodingPath) : Except Failure Value :=
  match Entries.get? "encode" fields with
  | some (.classObject name ..) => (c.classes.checkOneArgument name).map fun _ => .null
  | some _ => .error (.at (.noCodec className) path)
  | none =>
    match (c.classes.find? className).bind (·.encode?) with
    | some p => runEncoder (p.run ambient (.record className fields)) path
    | none => .error (.at (.noCodec className) path)

/-- A class in place of a value: its method lacks the value it would write. -/
def encodeClass (c : Context) (name : String) (isEnum : Bool) (path : CodingPath) :
    Except Failure Value :=
  let hasMethod := ((c.classes.find? name).bind (·.encode?)).isSome ||
    (c.classes.lineage name).contains "str"
  if hasMethod then .error .badOperand
  else .error (.at (.noCodec (Value.classObject name "" isEnum).className) path)

mutual

/-- The representation of a value. -/
def encodeWith (c : Context) (ambient : Encoding) (v : Value) (path : CodingPath) :
    Except Failure Value :=
  match v with
  | .null => .ok .null
  | .bool b => .ok (.bool b)
  | .int n => .ok (.int n)
  | .float x => .ok (.float x)
  | .str s => .ok (.str s)
  | v =>
    match c.writer? v with
    | some p => runEncoder (p.run ambient v) path
    | none =>
      match v with
      | .member _ _ _ v => encodeWith c ambient v path
      | .branded _ (.list xs) =>
        (encodeItems c ambient path 0 xs).map .list
      | .branded n v => .ok (.branded n v)
      | .dict es => (encodeEntries c ambient path es).map fun es => .dict (Value.entriesOf es)
      | .list xs => (encodeItems c ambient path 0 xs).map .list
      | .tuple xs => (encodeItems c ambient path 0 xs).map .list
      | .record n fs => encodeRecord c ambient n fs path
      | .classObject n _ isEnum => encodeClass c n isEnum path
      | v => .error (.at (.noCodec v.className) path)

/-- The representations of items from an index on. -/
def encodeItems (c : Context) (ambient : Encoding) (path : CodingPath) (index : Nat)
    (xs : List Value) : Except Failure (List Value) :=
  match xs with
  | [] => .ok []
  | x :: xs => do
    let r ← encodeWith c ambient x (path ++ [toString index])
    let rs ← encodeItems c ambient path (index + 1) xs
    return r :: rs

/-- The representations of entries under the texts of their keys. -/
def encodeEntries (c : Context) (ambient : Encoding) (path : CodingPath)
    (es : List (Value × Value)) : Except Failure (List (Value × Value)) :=
  match es with
  | [] => .ok []
  | (k, v) :: es => do
    let key := k.text
    let r ← encodeWith c ambient v (path ++ [key])
    let rs ← encodeEntries c ambient path es
    return (.str key, r) :: rs

end

/-- How deep codecs may call each other. -/
def codecDepth : Nat := 500

/-- The encoding in which codecs may call each other to a depth. -/
def encodingAt (c : Context) : Nat → Encoding
  | 0 => encodeWith c fun _ _ => .error .tooDeep
  | depth + 1 => encodeWith c (encodingAt c depth)

/-- The representation of a value at a path. -/
def encodeValue (c : Context) : Encoding := encodingAt c codecDepth

/-! ## Adapters -/

/-- What an adapter makes from a value; null is passed on. -/
def transformFromValue (fromValue : Value → Except Failure Value) (v : Value) :
    Except Failure Value :=
  if v.isNull then .ok .null else fromValue v

/-- The value an adapter stands for; null is passed on. -/
def transformValue (value : Value → Except Failure Value) (adapter : Value) :
    Except Failure Value :=
  if adapter.isNull then .ok .null else value adapter

end CodecForge.Coding
