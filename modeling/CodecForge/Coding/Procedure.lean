/-
  CodecForge — procedures of plans.

  What the procedures that are generated from a plan do with the runtime.  Those of a
  keyed plan open the containers of the plan, each under its variable, and then write
  or read its steps in order; those of an enumeration write or read the key of a case.

  * `Adapters` say what adapter types make of values;
  * `CodecPlan.write` fills a new encoder from the values of the leaves,
    `CodecPlan.read` reads the leaves from data, without a type hint;
  * `CodecPlan.writeTag` writes the key of the case that a value is, `CodecPlan.readTag`
    finds the case of a key.
-/
import CodecForge.Coding.Decode
import CodecForge.Plan

namespace CodecForge

namespace Coding

/-! ## Adapters -/

/-- What each adapter type writes for a value, and the value that it reads. -/
structure Adapters where
  written : String → Value → Value
  restored : String → Value → Value

namespace Adapters

/-- What a step writes for a value; a conditional step passes null by its adapter. -/
def encoded (a : Adapters) (st : FieldStep) (v : Value) : Except Failure Value :=
  match st.transform with
  | none => .ok v
  | some t =>
    if st.field.conditional then transformFromValue (fun v => .ok (a.written t v)) v
    else .ok (a.written t v)

/-- What a step makes of a value that was read. -/
def decoded (a : Adapters) (st : FieldStep) (v : Value) : Except Failure Value :=
  match st.transform with
  | none => .ok v
  | some t =>
    if st.field.conditional then transformValue (fun v => .ok (a.restored t v)) v
    else .ok (a.restored t v)

end Adapters

/-! ## Containers -/

/-- Why a procedure stops. -/
inductive ProcedureFailure where
  /-- no container is bound to a variable -/
  | unbound (variable_ : String)
  | failed (e : Failure)
deriving DecidableEq, Repr

/-- Containers under the variables they are bound to. -/
abbrev Frame (κ : Type) := List (String × κ)

section
variable {m : Type → Type} [Monad m] [MonadExceptOf ProcedureFailure m] {κ : Type}

/-- The container that a variable is bound to. -/
def Frame.bound (frame : Frame κ) (name : String) : m κ :=
  match Entries.get? name frame with
  | some k => pure k
  | none => throw (.unbound name)

/-- Opens containers in order: `root` at the top, `nested` in that of the parent. -/
def openAll (root : m κ) (nested : κ → String → m κ) (frame : Frame κ) :
    List Container → m (Frame κ)
  | [] => pure frame
  | c :: cs => do
    let k ← match c.parent, c.key with
      | some parent, some key => do nested (← frame.bound parent) key
      | _, _ => root
    openAll root nested (Entries.put c.variable_ k frame) cs

end

/-! ## Writing -/

/-- A procedure that writes to an encoder. -/
abbrev WriterM := EStateM ProcedureFailure Encoder

/-- A program on an encoder as a part of a procedure. -/
def inWriter {α : Type} (program : EncoderM α) : WriterM α :=
  EStateM.adaptExcept .failed program

/-- Writes the value of a leaf. -/
def writeStep (a : Adapters) (enc : Encoding) (values : String → Value)
    (frame : Frame KeyedHandle) (st : FieldStep) : WriterM Unit := do
  let h ← frame.bound st.container.variable_
  match a.encoded st (values st.field.localName) with
  | .error e => throw (.failed e)
  | .ok v =>
    inWriter (if st.field.conditional then h.putIfPresent enc v st.field.key
      else h.put enc v st.field.key)

/-- Writes the values of leaves in order. -/
def writeSteps (a : Adapters) (enc : Encoding) (values : String → Value)
    (frame : Frame KeyedHandle) : List FieldStep → WriterM Unit
  | [] => pure ()
  | st :: sts => do
    writeStep a enc values frame st
    writeSteps a enc values frame sts

/-! ## Reading -/

/-- Reads the value of a leaf. -/
def readStep (a : Adapters) (dec : Decoding) (frame : Frame KeyedData) (st : FieldStep) :
    Except ProcedureFailure Value := do
  let d ← frame.bound st.container.variable_
  let read := if st.field.conditional then d.getIfPresent dec st.field.key .untyped
    else d.get dec st.field.key .untyped
  (read >>= a.decoded st).mapError .failed

/-- Reads the values of leaves in order, each with the name of its leaf. -/
def readSteps (a : Adapters) (dec : Decoding) (frame : Frame KeyedData) :
    List FieldStep → Except ProcedureFailure (List (String × Value))
  | [] => .ok []
  | st :: sts => do
    let v ← readStep a dec frame st
    let vs ← readSteps a dec frame sts
    return (st.field.localName, v) :: vs

/-! ## Cases -/

/-- Whether a value is the case of an enumeration that has a name. -/
def Value.isCase (enum name : String) : Value → Bool
  | .member enum' name' _ _ => enum' == enum && name' == name
  | _ => false

end Coding

open Coding

/-! ## Plans -/

/-- The representation that the procedure of a plan leaves in a new encoder. -/
def CodecPlan.write (p : CodecPlan) (a : Adapters) (enc : Encoding) (values : String → Value)
    (path : CodingPath) : Except ProcedureFailure Value :=
  let procedure : WriterM Unit := do
    let frame ← openAll (inWriter EncoderM.keyed) (fun h key => inWriter (h.nested key)) []
      p.containers
    writeSteps a enc values frame p.steps
  match procedure ⟨path, none, []⟩ with
  | .ok _ e => .ok e.value
  | .error e _ => .error e

/-- The values of the leaves that the procedure of a plan reads from data. -/
def CodecPlan.read (p : CodecPlan) (a : Adapters) (dec : Decoding) (data : Value)
    (path : CodingPath) : Except ProcedureFailure (List (String × Value)) := do
  let frame ← openAll ((keyedData data path).mapError .failed)
    (fun d key => (d.nested key).mapError .failed) [] p.containers
  readSteps a dec frame p.steps

/-- Writes the key of the first case that a value is. -/
def CodecPlan.writeTag (p : CodecPlan) (enc : Encoding) (v : Value) : EncoderM Unit :=
  match p.cases.find? fun k => v.isCase p.typeName k.localName with
  | some k => putSingle enc (.str k.key)
  | none => do
    throw (.coding (invalidValue v (← get).path (some s!"Not a case of {p.typeName}")))

/-- The first case whose key is the text that data hold. -/
def CodecPlan.readTag (p : CodecPlan) (dec : Decoding) (data : Value) (path : CodingPath) :
    Except Failure FieldInfo := do
  let tag ← dec (.scalar .str) data path
  match p.cases.find? fun k => tag.same (.str k.key) with
  | some k => return k
  | none => throw (.at (.corrupted s!"Invalid value: {tag.text}") path)

end CodecForge
