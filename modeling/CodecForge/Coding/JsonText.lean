/-
  CodecForge — representations as JSON texts.

  * `Value.toJson` reads a representation as JSON; `Value.ofJson` goes the other
    way, and `toJson_ofJson` says that nothing is lost;
  * `TextOptions` say how a text is written: indentation, separators, the order
    of entries, and whether numbers beyond JSON may stand in it; what they hold is
    looked at only where it is needed;
  * `encodeText` encodes a value and writes the text, `decodeText` reads a text
    and decodes it.
-/
import CodecForge.Coding.Decode
import CodecForge.Json.Reader
import CodecForge.Json.Sorted
import CodecForge.Json.Writer

namespace CodecForge.Coding

/-! ## Representations as JSON -/

namespace Value

mutual

/-- A representation as JSON; a value that is none is refused. -/
def toJson : Value → Except Failure Json
  | null => .ok .null
  | bool b => .ok (.bool b)
  | int n => .ok (.int n)
  | float x => .ok (.float x)
  | str s => .ok (.str s)
  | list xs => do return .arr (← itemsToJson xs)
  | tuple xs => do return .arr (← itemsToJson xs)
  | dict es => do return .obj (← entriesToJson es)
  | branded _ v => v.toJson
  | member _ _ true v => v.toJson
  | _ => .error .badOperand

/-- Items as JSON. -/
def itemsToJson : List Value → Except Failure (List Json)
  | [] => .ok []
  | x :: xs => do
    let j ← x.toJson
    let js ← itemsToJson xs
    return j :: js

/-- Entries as JSON; their keys must be texts. -/
def entriesToJson : List (Value × Value) → Except Failure (List (String × Json))
  | [] => .ok []
  | (.str k, v) :: es => do
    let j ← v.toJson
    let js ← entriesToJson es
    return (k, j) :: js
  | _ :: _ => .error .badOperand

end

mutual

theorem toJson_ofJson (j : Json) : (ofJson j).toJson = .ok j := by
  cases j with
  | arr xs =>
    simp [ofJson, toJson, itemsToJson_ofJsonItems xs, bind, Except.bind, pure, Except.pure]
  | obj es =>
    simp [ofJson, toJson, entriesToJson_ofJsonEntries es, bind, Except.bind, pure, Except.pure]
  | _ => simp [ofJson, toJson]

theorem itemsToJson_ofJsonItems (js : List Json) : itemsToJson (ofJsonItems js) = .ok js := by
  cases js with
  | nil => rfl
  | cons j js =>
    simp [ofJsonItems, itemsToJson, toJson_ofJson j, itemsToJson_ofJsonItems js, bind, Except.bind,
      pure, Except.pure]

theorem entriesToJson_ofJsonEntries (es : List (String × Json)) :
    entriesToJson (ofJsonEntries es) = .ok es := by
  cases es with
  | nil => rfl
  | cons e es =>
    obtain ⟨k, j⟩ := e
    simp [ofJsonEntries, entriesToJson, toJson_ofJson j, entriesToJson_ofJsonEntries es, bind,
      Except.bind, pure, Except.pure]

end

end Value

/-! ## Texts -/

/-- How the text of a representation is written.  `indent` is null for a text on
    one line, a count of blanks or the text of a level; `separators` are null, or what
    stands after an item and after a name. -/
structure TextOptions where
  indent : Json := .null
  separators : Json := .null
  ascii : Bool := true
  sortKeys : Bool := false
  allowNan : Bool := true

namespace TextOptions

/-- The options that entries state. -/
def ofEntries (es : List (String × Json)) : TextOptions :=
  let value := fun name => (Entries.get? name es).getD .null
  let flag := fun name => ((Entries.get? name es).map Json.truthy).getD true
  { indent := value "indent", separators := value "separators", ascii := flag "ensure_ascii"
    sortKeys := (value "sort_keys").truthy, allowNan := flag "allow_nan" }

/-- The text of one level of indentation, none for a text on one line. -/
def indentOf : Json → Except Failure (Option String)
  | .null => .ok none
  | .str s => .ok (some s)
  | v =>
    match v.asInt? with
    | some n => .ok (some (String.ofList (List.replicate n.toNat ' ')))
    | none => .error .badOperand

/-- The two separators, none if they are left to the layout. -/
def separatorsOf (v : Json) : Except Failure (Option (Json × Json)) :=
  match v, v.items? with
  | .null, _ => .ok none
  | _, some [item, key] => .ok (some (item, key))
  | _, some _ => .error .badValue
  | _, none => .error .badOperand

end TextOptions

mutual

/-- Whether there is an entry anywhere in a value. -/
def hasEntries : Json → Bool
  | .obj es => !es.isEmpty
  | .arr xs => anyHasEntries xs
  | _ => false

def anyHasEntries : List Json → Bool
  | [] => false
  | x :: xs => hasEntries x || anyHasEntries xs

end

/-- Whether a value has items or entries. -/
def hasItems : Json → Bool
  | .obj es => !es.isEmpty
  | .arr xs => !xs.isEmpty
  | _ => false

/-- Fails unless a condition holds. -/
def demand (holds : Bool) (failure : Failure) : Except Failure Unit :=
  if holds then .ok () else .error failure

/-- The text of a JSON value that is no string.  Separators that are no texts do not
    matter in an indented text that has no place for them. -/
def writeLayout (o : TextOptions) (separators : Option (Json × Json)) (j : Json) :
    Except Failure String := do
  let indent ← TextOptions.indentOf o.indent
  let (item, key) := separators.getD (.str (if indent.isSome then "," else ", "), .str ": ")
  demand (indent.isSome || (item.isString && key.isString)) .badOperand
  demand (item.isString || !hasItems j) .badOperand
  demand (o.allowNan || j.isFinite) .badValue
  demand (key.isString || !hasEntries j) .badOperand
  return Json.write ⟨indent, o.ascii, item.text, key.text⟩ (if o.sortKeys then j.sorted else j)

/-- The text of a representation.  A string has the same text in every layout. -/
def writeText (o : TextOptions) (v : Value) : Except Failure String := do
  let j ← v.toJson
  let separators ← TextOptions.separatorsOf o.separators
  match j with
  | .str s => return Json.stringLiteral o.ascii s
  | j => writeLayout o separators j

/-- The text of the representation of a value. -/
def encodeText (c : Context) (o : TextOptions) (v : Value) : Except Failure String := do
  writeText o (← encodeValue c v [])

/-- The value that a text represents under a hint. -/
def decodeText (c : Context) (h : Hint) (text : String) : Except Failure Value :=
  match Json.read text with
  | .ok j => decodeValue c h (.ofJson j) []
  | .error (.longInteger _) => .error .badValue
  | .error (.tooDeep _) => .error .tooDeep
  | .error e => .error (.at (.corrupted s!"Invalid JSON: {e.message}") [])

end CodecForge.Coding
