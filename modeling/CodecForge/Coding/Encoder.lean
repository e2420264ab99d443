/-
  CodecForge — encoders and their containers.

  An encoder holds the representation of one value while it is written.  A keyed
  container is open as long as something may be written to it: open containers
  are cells with numbers, and an entry of a cell is either done or an open
  container.  A handle names its cell, so it goes on writing to that cell also
  after the entry that led to it has been replaced; what it writes is then part
  of nothing.

  * `Encoder.value` is the representation written so far;
  * `keyed` gives the container at the top, `KeyedHandle.put`, `putIfPresent` and
    `nested` write through a handle, `setSingle` writes the one value.
-/
import CodecForge.Coding.Error

namespace CodecForge.Coding

/-- What stands under a key: a value that is done, or an open container. -/
inductive Slot where
  | done (v : Value)
  | cell (number : Nat)
deriving Inhabited, Repr, BEq

/-- The entries of an open container, in the order of their first writing. -/
abbrev Cell := List (Value × Slot)

namespace Cell

/-- What stands under a key. -/
def find (key : String) (c : Cell) : Option Slot :=
  (c.find? fun e => Value.same e.1 (.str key)).map (·.2)

/-- Writes under a key, in place if it is there. -/
def put (key : String) (s : Slot) : Cell → Cell
  | [] => [(.str key, s)]
  | e :: es => if Value.same e.1 (.str key) then (e.1, s) :: es else e :: put key s es

/-- The open container with the entries of a dictionary. -/
def ofEntries (es : List (Value × Value)) : Cell := es.map fun e => (e.1, .done e.2)

end Cell

/-- An encoder: where it stands, what it holds, and the open containers. -/
structure Encoder where
  path : CodingPath
  content : Option Slot := none
  cells : List Cell := []
deriving Inhabited, Repr

/-- A container to write to. -/
structure KeyedHandle where
  cell : Nat
  path : CodingPath
deriving DecidableEq, Repr

namespace Encoder

/-- The cell with a number. -/
def cellAt (e : Encoder) (n : Nat) : Cell := e.cells.getD n []

/-- What a slot holds.  A container is opened after the one it stands in, so no
    more steps are needed than there are cells. -/
def resolve (cells : List Cell) : Nat → Slot → Value
  | _, .done v => v
  | 0, .cell _ => .null
  | fuel + 1, .cell n =>
    .dict ((cells.getD n []).map fun e => (e.1, resolve cells fuel e.2))

/-- The representation written so far, null for nothing. -/
def value (e : Encoder) : Value :=
  match e.content with
  | none => .null
  | some s => resolve e.cells e.cells.length s

/-- The encoder with one more open container. -/
def push (e : Encoder) (c : Cell) : Encoder := { e with cells := e.cells ++ [c] }

/-- The encoder with a slot written into a cell. -/
def write (e : Encoder) (n : Nat) (key : String) (s : Slot) : Encoder :=
  { e with cells := e.cells.modify n (Cell.put key s) }

end Encoder

/-- A program that writes to an encoder; what it has written stays when it
    fails. -/
abbrev EncoderM := EStateM Failure Encoder

namespace EncoderM

/-- Opens a container with the given entries. -/
def openCell (c : Cell) : EncoderM Nat := do
  let e ← get
  set (e.push c)
  return e.cells.length

/-- The container at the top: there already, opened from a dictionary that is
    done, or new. -/
def keyed : EncoderM KeyedHandle := do
  let e ← get
  match e.content with
  | none =>
    let n ← openCell []
    modify fun e => { e with content := some (.cell n) }
    return ⟨n, e.path⟩
  | some (.cell n) => return ⟨n, e.path⟩
  | some (.done (.dict es)) =>
    let n ← openCell (Cell.ofEntries es)
    modify fun e => { e with content := some (.cell n) }
    return ⟨n, e.path⟩
  | some (.done _) => throw (.at .holdsSingleValue e.path)

/-- Writes the one value. -/
def setSingle (v : Value) : EncoderM Unit := do
  let e ← get
  match e.content with
  | none => set { e with content := some (.done v) }
  | some _ => throw (.at .holdsValue e.path)

end EncoderM

/-- How values are encoded at a path. -/
abbrev Encoding := Value → CodingPath → Except Failure Value

namespace KeyedHandle

/-- Encodes a value and writes it under a key. -/
def put (h : KeyedHandle) (enc : Encoding) (v : Value) (key : String) : EncoderM Unit :=
  match enc v (h.path ++ [key]) with
  | .error e => throw e
  | .ok r => modify (·.write h.cell key (.done r))

/-- Writes a value under a key unless it is null. -/
def putIfPresent (h : KeyedHandle) (enc : Encoding) (v : Value) (key : String) :
    EncoderM Unit :=
  if v.isNull then pure () else h.put enc v key

/-- The container under a key: there already, opened from a dictionary that is
    done, or new. -/
def nested (h : KeyedHandle) (key : String) : EncoderM KeyedHandle := do
  let e ← get
  let path := h.path ++ [key]
  match (e.cellAt h.cell).find key with
  | some (.cell n) => return ⟨n, path⟩
  | some (.done (.dict es)) =>
    let n ← EncoderM.openCell (Cell.ofEntries es)
    modify (·.write h.cell key (.cell n))
    return ⟨n, path⟩
  | some (.done _) => throw (.at (.notContainer key) path)
  | none =>
    let n ← EncoderM.openCell []
    modify (·.write h.cell key (.cell n))
    return ⟨n, path⟩

end KeyedHandle

/-- Encodes a value and writes it as the one value. -/
def putSingle (enc : Encoding) (v : Value) : EncoderM Unit := do
  match enc v (← get).path with
  | .error e => throw e
  | .ok r => EncoderM.setSingle r

/-- The representation that a program leaves in a new encoder. -/
def runEncoder (program : EncoderM Unit) (path : CodingPath) : Except Failure Value :=
  match program ⟨path, none, []⟩ with
  | .ok _ e => .ok e.value
  | .error e _ => .error e

end CodecForge.Coding
