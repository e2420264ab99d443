/-
  CodecForge — decoding data.

  Decoding reads a representation under a type hint.

  * `decodeWith` follows the hint: a union takes its first member that fits, a
    list or a dictionary is read item by item, and a class is asked for its
    codec, its members, or whether the data is one of its values; codecs are
    given `ambient` for the data they read;
  * `decodeValue` ties the knot, to a depth of codecs that call each other;
  * `KeyedData` and `keyedData` are what a decode procedure reads from.
-/
import CodecForge.Coding.Encode

namespace CodecForge.Coding

/-! ## Scalars and classes -/

def mismatch (expected : String) (data : Value) (path : CodingPath) : Failure :=
  .at (.typeMismatch expected data.className) path

/-- Data read as a scalar: an integer is widened to a float, a boolean is no
    number. -/
def decodeScalar (s : Scalar) (data : Value) (path : CodingPath) : Except Failure Value :=
  match s, data.plain with
  | .bool, .bool _ => .ok data
  | .int, .int _ => .ok data
  | .str, .str _ => .ok data
  | .float, .float _ => .ok data
  | .float, .int n =>
    match Double.ofInt? n with
    | some x => .ok (.float x)
    | none => .error .tooLarge
  | _, _ => .error (mismatch s.name data path)

/-- The failure for data that are none of the values in question: the error that names
    them, which cannot be put into words if they have no text. -/
def unexpected (data : Value) (path : CodingPath) : Failure :=
  if data.hasText then .at (.corrupted s!"Invalid value: {data.text}") path else .badValue

/-- Data read as a member of an enumeration: the member itself, or the first one
    of an equal value. -/
def decodeMember (info : ClassInfo) (data : Value) (path : CodingPath) : Except Failure Value :=
  if data.className = info.name then .ok data else
  match (Classes.members info).find? (fun
    | .member _ _ _ v => Value.same v data
    | _ => false) with
  | some m => .ok m
  | none => .error (unexpected data path)

/-- The procedure that is registered for reading a class. -/
def Context.reader? (c : Context) (name : String) : Option DecodeProcedure :=
  (Entries.get? name c.codecs).bind (·.decode?)

/-- The procedure for reading by which the class or an ancestor reads itself. -/
def Context.ownReader? (c : Context) (name : String) : Option DecodeProcedure :=
  (c.classes.lineage name).findSome? fun n => (c.classes.find? n).bind (·.decode?)

/-- Data that is not null read as a class without a registered codec. -/
def decodeClass (c : Context) (ambient : Decoding) (name : String) (data : Value)
    (path : CodingPath) : Except Failure Value :=
  match (c.classes.find? name).filter (·.members.isSome) with
  | some info => decodeMember info data path
  | none =>
    match c.ownReader? name with
    | some p => p.run ambient data path
    | none =>
      if c.classes.isInstance data name then .ok data else .error (mismatch name data path)

/-! ## Items -/

/-- Reads items from an index on. -/
def decodeItems (read : Value → CodingPath → Except Failure Value) (path : CodingPath) :
    Nat → List Value → Except Failure (List Value)
  | _, [] => .ok []
  | i, x :: xs => do
    let v ← read x (path ++ [toString i])
    let vs ← decodeItems read path (i + 1) xs
    return v :: vs

/-- Reads the values of a dictionary. -/
def decodeEntries (read : Value → CodingPath → Except Failure Value) (path : CodingPath) :
    List (Value × Value) → Except Failure (List (Value × Value))
  | [] => .ok []
  | (k, x) :: es => do
    let v ← read x (path ++ [k.text])
    let vs ← decodeEntries read path es
    return (k, v) :: vs

/-- Items kept as their kind says. -/
def collect (kind : ItemsKind) (xs : List Value) : Except Failure Value :=
  match kind with
  | .list | .sequence => .ok (.list xs)
  | .set => if xs.all Value.hashable then .ok (.set (Value.distinct xs)) else .error .unhashable
  | .frozenset =>
    if xs.all Value.hashable then .ok (.frozenset (Value.distinct xs)) else .error .unhashable
  | .abstractSet => .error .abstractSet

/-! ## Hints -/

mutual

/-- Data read under a hint. -/
def decodeWith (c : Context) (ambient : Decoding) (h : Hint) (data : Value) (path : CodingPath) :
    Except Failure Value :=
  match h with
  | .any => .ok data
  | .untyped => .ok data
  | .unresolved _ => .ok data
  | .union name members =>
    if data.isNull then
      if members.any Hint.isNullClass then .ok .null
      else .error (.at (.valueNotFound name) path)
    else
      match members.filter (!·.isNullClass) with
      | [_] => decodeOnly c ambient members data path
      | _ => decodeFirst c ambient name members data path
  | h =>
    if data.isNull then .error (.at (.valueNotFound h.name) path) else
    match h with
    | .scalar s =>
      match c.reader? s.name with
      | some p => p.run ambient data path
      | none => decodeScalar s data path
    | .cls name =>
      match c.reader? name with
      | some p => p.run ambient data path
      | none => decodeClass c ambient name data path
    | .items kind item =>
      match data.asList? with
      | none => .error (mismatch "list" data path)
      | some xs => do collect kind (← decodeItems (decodeWith c ambient item) path 0 xs)
    | .tupleOf item =>
      match data.asList? with
      | none => .error (mismatch "tuple" data path)
      | some xs => (decodeItems (decodeWith c ambient item) path 0 xs).map .tuple
    | .tuple hs =>
      match data.asList? with
      | none => .error (mismatch "tuple" data path)
      | some xs =>
        if hs.isEmpty then .ok (.tuple xs)
        else if xs.length ≠ hs.length then .error (mismatch "Tuple" data path)
        else (decodeEach c ambient hs xs path 0).map .tuple
    | .anyTuple =>
      match data.asList? with
      | none => .error (mismatch "tuple" data path)
      | some xs => .ok (.tuple xs)
    | .dict _ _ value =>
      match data with
      | .dict es => (decodeEntries (decodeWith c ambient value) path es).map .dict
      | _ => .error (mismatch "dict" data path)
    | .literal values =>
      if values.any (Value.same · data) then .ok data else .error (unexpected data path)
    | _ => .ok data

/-- Data read under the only member of a union that is not the class of null. -/
def decodeOnly (c : Context) (ambient : Decoding) (members : List Hint) (data : Value)
    (path : CodingPath) : Except Failure Value :=
  match members with
  | [] => .ok data
  | h :: hs =>
    if h.isNullClass then decodeOnly c ambient hs data path else decodeWith c ambient h data path

/-- Data read under the first member of a union that takes it. -/
def decodeFirst (c : Context) (ambient : Decoding) (name : String) (members : List Hint)
    (data : Value) (path : CodingPath) : Except Failure Value :=
  match members with
  | [] => .error (mismatch name data path)
  | h :: hs =>
    if h.isNullClass then decodeFirst c ambient name hs data path else
    match decodeWith c ambient h data path with
    | .ok v => .ok v
    | .error e =>
      if e.isDecoding then decodeFirst c ambient name hs data path else .error e

/-- Items read under a hint each, from an index on. -/
def decodeEach (c : Context) (ambient : Decoding) (hs : List Hint) (xs : List Value)
    (path : CodingPath) (index : Nat) : Except Failure (List Value) :=
  match hs, xs with
  | h :: hs, x :: xs => do
    let v ← decodeWith c ambient h x (path ++ [toString index])
    let vs ← decodeEach c ambient hs xs path (index + 1)
    return v :: vs
  | _, _ => .ok []

end

/-- The decoding in which codecs may call each other to a depth. -/
def decodingAt (c : Context) : Nat → Decoding
  | 0 => decodeWith c fun _ _ _ => .error .tooDeep
  | depth + 1 => decodeWith c (decodingAt c depth)

/-- Data read under a hint at a path. -/
def decodeValue (c : Context) : Decoding := decodingAt c codecDepth

/-! ## Containers -/

/-- A dictionary that is read key by key. -/
structure KeyedData where
  entries : List (Value × Value)
  path : CodingPath
deriving Repr

/-- Data as a dictionary. -/
def keyedData (data : Value) (path : CodingPath) : Except Failure KeyedData :=
  match data with
  | .dict es => .ok ⟨es, path⟩
  | _ => .error (mismatch "dict" data path)

namespace KeyedData

def find (d : KeyedData) (key : String) : Option Value := Value.lookup (.str key) d.entries

def keys (d : KeyedData) : List Value := d.entries.map (·.1)

def contains (d : KeyedData) (key : String) : Bool := (d.find key).isSome

/-- Reads the value under a key, which must be there. -/
def get (d : KeyedData) (dec : Decoding) (key : String) (h : Hint) : Except Failure Value :=
  match d.find key with
  | none => .error (.at (.keyNotFound key) d.path)
  | some v => dec h v (d.path ++ [key])

/-- Reads the value under a key; null for a key that is not there or holds
    null. -/
def getIfPresent (d : KeyedData) (dec : Decoding) (key : String) (h : Hint) :
    Except Failure Value :=
  match d.find key with
  | none | some .null => .ok .null
  | some v => dec h v (d.path ++ [key])

/-- The dictionary under a key, which must be there. -/
def nested (d : KeyedData) (key : String) : Except Failure KeyedData :=
  match d.find key with
  | none => .error (.at (.keyNotFound key) d.path)
  | some v => keyedData v (d.path ++ [key])

end KeyedData

end CodecForge.Coding
