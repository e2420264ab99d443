/-
  CodecForge — a generator at work.

  A generator is asked again and again: for the name of a function, for what is odd about
  types, for the text of one type or of several.  A Python generator has a sanitizer, which
  remembers every name that it has made safe and looks there first.  A Swift generator
  remembers nothing.

  * `AtWork` is work with the sanitizer at hand; it stops at a group without a container, and
    what was remembered by then stays;
  * `Generator.nameFunction`, `findWarnings`, `writeParts`, `writeBlock` and `writeModule` are
    the work for one question each;
  * `Call` is a question, `Generator.after` the sanitizer that calls leave, and
    `Generator.outcome` what work comes to after calls.
-/
import CodecForge.Generator

namespace CodecForge

/-- Work with the sanitizer of a generator at hand. -/
abbrev AtWork := EStateM MissingContainer Naming.Sanitizer

/-- What work comes to from a sanitizer, and the sanitizer that it leaves. -/
def AtWork.done {α : Type} (w : AtWork α) (s : Naming.Sanitizer) :
    Except MissingContainer α × Naming.Sanitizer :=
  match w s with
  | .ok a s => (.ok a, s)
  | .error e s => (.error e, s)

/-! ## Python -/

namespace Python

/-- The sanitizer of a new generator. -/
def sanitizer : Naming.Sanitizer := ⟨words, []⟩

/-- The safe form of a name. -/
def safeName (name : String) : AtWork String :=
  modifyGet fun s => s.sanitize name .snake "_"

/-- The function for a type and a direction. -/
def nameFunction (typeName : String) (d : Direction) (isPublic : Bool) : AtWork String := do
  let name ← safeName typeName
  return (if isPublic then "" else "_") ++ d.label ++ "_" ++ name

/-- The function of a plan. -/
def namePlan (p : CodecPlan) : AtWork String := nameFunction p.typeName p.direction p.isPublic

/-- The text of the function of a plan. -/
def writeFunction (own : PythonSettings) (p : CodecPlan) : AtWork String := do
  let name ← namePlan p
  let f : PythonFunction :=
    { functionOf own p with signature := signature own name p.typeName p.direction }
  return Text.trimEnd (f.source p.kind p.direction).text

/-- A type as a module holds it: its text, and the function for each direction. -/
structure WrittenType where
  type : CodableType
  plans : List CodecPlan
  block : String
  functions : List (Direction × String)
deriving Repr

/-- The functions of a type, with two blank lines between them. -/
def joined (functions : List String) : String := "\n\n\n".intercalate functions

/-- Writes a type with its plans for a module. -/
def writeType (own : PythonSettings) (t : CodableType) (plans : List CodecPlan) :
    AtWork WrittenType := do
  let functions ← plans.mapM (writeFunction own)
  let names ← plans.mapM fun p => do return (p.direction, ← namePlan p)
  return ⟨t, plans, joined functions, names⟩

/-- The functions that a written type registers. -/
def WrittenType.registration (w : WrittenType) : PythonRegistration :=
  ⟨w.type.typeName, Entries.get? .encode w.functions, Entries.get? .decode w.functions⟩

/-- The module of written types. -/
def moduleFrom (s : Settings) (own : PythonSettings) (ws : List WrittenType) : PythonModule :=
  { moduleOf s own (ws.map fun w => (w.type, w.plans)) with
    exports := ((ws.filter (·.type.isPublic)).flatMap fun w => w.functions.map (·.2)).mergeSort
      fun a b => decide (a ≤ b)
    blocks := ws.map (·.block)
    registrations :=
      if own.registerCodecs then (ws.filter fun w => !w.plans.isEmpty).map (·.registration)
      else [] }

/-- What is odd about types in Python; `taken` are the functions of the types before them. -/
def findWarnings (taken : List (String × String)) : List CodableType → AtWork (List String)
  | [] => return []
  | t :: ts => do
    let names ← t.directions.mapM fun d => nameFunction t.typeName d t.isPublic
    let (clashes, taken) := Generator.nameClashes t.typeName taken names
    return Generator.attributeWarnings t ++ clashes ++ (← findWarnings taken ts)

end Python

/-! ## Generators -/

namespace Generator

/-- The function for a type and a direction; only Python has functions. -/
def nameFunction (g : Generator) (t : CodableType) (d : Direction) : AtWork (Option String) :=
  match g with
  | python _ _ => do return some (← Python.nameFunction t.typeName d t.isPublic)
  | swift _ _ => return none

/-- What is odd about types. -/
def findWarnings (g : Generator) (types : List CodableType) : AtWork (List String) :=
  match g with
  | python _ _ => do return commonWarnings [] types ++ (← Python.findWarnings [] types)
  | swift _ _ => return commonWarnings [] types

/-- The texts of a type, one for each of its directions: the functions of Python, the
    members of Swift. -/
def writeParts (g : Generator) (t : CodableType) : AtWork (List String) := do
  let plans ← MonadExcept.ofExcept (g.plansOf t)
  match g with
  | python _ own => plans.mapM (Python.writeFunction own)
  | swift _ _ => return plans.map Swift.memberText

/-- The text of a type from the texts for its directions. -/
def enclosed (g : Generator) (typeName : String) (parts : List String) : String :=
  match g with
  | python _ _ => Python.joined parts
  | swift _ own =>
    if own.wrapInExtension then Text.trimEnd (Swift.extensionSource typeName parts).text
    else "\n\n".intercalate parts

/-- The text of one type. -/
def writeBlock (g : Generator) (t : CodableType) : AtWork String := do
  return g.enclosed t.typeName (← g.writeParts t)

/-- The text for types. -/
def writeModule (g : Generator) (types : List CodableType) : AtWork String :=
  match g with
  | python s own => do
    let written ← types.mapM fun t => do
      Python.writeType own t (← MonadExcept.ofExcept (g.plansOf t))
    return (Python.moduleFrom s own written).source.text
  | swift s own => do
    let blocks ← types.mapM g.writeBlock
    return { Swift.fileOf s own [] with blocks }.source.text

/-! ## Calls -/

/-- What a generator is asked. -/
inductive Call where
  | function (t : CodableType) (d : Direction)
  | warnings (types : List CodableType)
  | parts (t : CodableType)
  | block (t : CodableType)
  | module (types : List CodableType)

/-- The sanitizer that a call leaves. -/
def Call.left (g : Generator) (s : Naming.Sanitizer) : Call → Naming.Sanitizer
  | function t d => ((g.nameFunction t d).done s).2
  | warnings types => ((g.findWarnings types).done s).2
  | parts t => ((g.writeParts t).done s).2
  | block t => ((g.writeBlock t).done s).2
  | module types => ((g.writeModule types).done s).2

/-- The sanitizer of a generator after calls. -/
def after (g : Generator) (calls : List Call) : Naming.Sanitizer :=
  calls.foldl (Call.left g) Python.sanitizer

/-- What work of a generator comes to after calls. -/
def outcome {α : Type} (g : Generator) (calls : List Call) (w : AtWork α) :
    Except MissingContainer α :=
  (w.done (g.after calls)).1

end Generator

end CodecForge
