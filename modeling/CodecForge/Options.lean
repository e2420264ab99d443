/-
  CodecForge — coding options.

  The options of a declaration, and overrides that win over them, resolve to
  `CodingOptions`.  Names are compared as markers are, null counts as missing,
  and of two spellings of one name the later counts.

  * `containerOf`, `accessOf` and `directionsOf` read one option each;
  * `resolve` reads them all; a name that is none of the three is refused
    before any value is looked at, the least one first.
-/
import CodecForge.Json.Basic
import CodecForge.Naming.Convention
import CodecForge.Schema
import CodecForge.Text.Identifier

namespace CodecForge

/-- The options that can be refused. -/
inductive OptionName where
  | container
  | accessControl
  | directions
  | other
deriving DecidableEq, Repr

def OptionName.label : OptionName → String
  | .container => "container"
  | .accessControl => "accessControl"
  | .directions => "directions"
  | .other => "option"

/-- A value that an option does not take, perhaps with a hint. -/
structure UnsupportedOption where
  option : OptionName
  value : Json
  hint : Option String
deriving Repr

/-- The text of a refusal. -/
def UnsupportedOption.message (e : UnsupportedOption) : String :=
  s!"Unsupported {e.option.label} value: {e.value.shown}" ++
    match e.hint with
    | none => ""
    | some hint => s!" ({hint})"

/-- Options that are resolved. -/
structure CodingOptions where
  access : AccessControl
  strategy : Strategy
  directions : List Direction
deriving DecidableEq, Repr

namespace CodingOptions

/-! ## The container -/

/-- The strategy for a binding, which must be an identifier. -/
def bindingOf (binding : Json) : Except UnsupportedOption Strategy :=
  match binding with
  | .str s =>
    if Text.isAsciiIdentifier s then .ok (.singleValue s)
    else .error ⟨.container, binding, some "single value binding must be an identifier"⟩
  | _ => .error ⟨.container, binding, some "single value binding must be an identifier"⟩

/-- Whether `c` is the lower case letter `l` of ASCII without regard to case,
    where the long s is an s and both Turkish letters are an i. -/
def isLetter (l c : Char) : Bool :=
  c.toLower == l || (l == 's' && c.toNat == 0x17F) ||
    (l == 'i' && (c.toNat == 0x130 || c.toNat == 0x131))

/-- What follows `word` at the beginning of a text, without regard to case. -/
def afterWord? : List Char → List Char → Option (List Char)
  | [], cs => some cs
  | _ :: _, [] => none
  | l :: ls, c :: cs => if isLetter l c then afterWord? ls cs else none

/-- The text without one character satisfying `p` at its beginning. -/
def dropOne (p : Char → Bool) : List Char → List Char
  | [] => []
  | c :: cs => if p c then cs else c :: cs

def isQuote (c : Char) : Bool := c == '"' || c.toNat == 39

/-- The characters that a binding may have between its quotes. -/
def isBindingChar (c : Char) : Bool := !isQuote c && c != ')' && !Text.isBlank c

/-- The binding of a call `singleValue(…)`: a dot may go first, quotes and blanks
    may surround the binding. -/
def callBinding? (cs : List Char) : Option String := do
  let cs ← afterWord? "single".toList (dropOne (· == '.') cs)
  let cs ← afterWord? "value".toList (dropOne (· == '_') cs)
  match cs with
  | '(' :: cs =>
    let cs := dropOne isQuote (cs.dropWhile Text.isBlank)
    let rest := (dropOne isQuote (cs.dropWhile isBindingChar)).dropWhile Text.isBlank
    if rest = [')'] then some (String.ofList (cs.takeWhile isBindingChar)) else none
  | _ => none

/-- The strategy of a container written as text. -/
def containerOfText (s : String) : Except UnsupportedOption Strategy :=
  let text := Text.trim s
  match callBinding? text.toList with
  | some binding => bindingOf (.str binding)
  | none =>
    match Naming.normalizeMarker (Text.trimStartOf ['.'] text) with
    | "keyed" => .ok .keyed
    | "single_value_for_enum" => .ok .singleValueForEnum
    | _ => .error ⟨.container, .str s,
        some "expected keyed, single_value(name) or single_value_for_enum"⟩

/-- The strategy of a container option. -/
def containerOf : Json → Except UnsupportedOption Strategy
  | .str s => containerOfText s
  | .obj [(key, binding)] =>
    if Naming.normalizeMarker key = "single_value" then bindingOf binding
    else .error ⟨.container, .obj [(key, binding)], none⟩
  | v => .error ⟨.container, v, none⟩

/-! ## Access and directions -/

/-- The visibility of an option; a leading dot is accepted. -/
def accessOf (v : Json) : Except UnsupportedOption AccessControl :=
  match Text.lowerString (Text.trimStartOf ['.'] (Text.trim v.text)) with
  | "internal" => .ok .internal
  | "public" => .ok .public_
  | _ => .error ⟨.accessControl, v, some "expected internal or public"⟩

/-- The directions of an option. -/
def directionsOf (v : Json) : Except UnsupportedOption (List Direction) :=
  match Text.lowerString (Text.trim v.text) with
  | "both" => .ok [.encode, .decode]
  | "encode" => .ok [.encode]
  | "decode" => .ok [.decode]
  | _ => .error ⟨.directions, v, some "expected both, encode or decode"⟩

/-! ## All options -/

/-- The entries that are not null, under the normal form of their names. -/
def normalized (options : List (String × Json)) : List (String × Json) :=
  Entries.ofPairs ((options.filter fun o => !o.2.isNull).map fun o =>
    (Naming.normalizeMarker o.1, o.2))

/-- The names that are read. -/
def known : List String := ["access_control", "container", "directions"]

/-- The least of the names. -/
def least? : List String → Option String
  | [] => none
  | s :: ss => some (ss.foldl (fun a b => if b < a then b else a) s)

/-- The value of an option, read if it is there. -/
def readOr {α : Type} (default : α) (read : Json → Except UnsupportedOption α)
    (v : Option Json) : Except UnsupportedOption α :=
  match v with
  | none => .ok default
  | some v => read v

/-- The options of a declaration with overrides that win over them. -/
def resolve (options overrides : List (String × Json)) :
    Except UnsupportedOption CodingOptions :=
  let merged := Entries.putAll (normalized options) (normalized overrides)
  match least? ((merged.map (·.1)).filter fun name => !known.contains name) with
  | some name => .error ⟨.other, .str name, some "unknown option name"⟩
  | none => do
    let strategy ← readOr .keyed containerOf (Entries.get? "container" merged)
    let access ← readOr .internal accessOf (Entries.get? "access_control" merged)
    let directions ← readOr [.encode, .decode] directionsOf (Entries.get? "directions" merged)
    return ⟨access, strategy, directions⟩

end CodingOptions

end CodecForge
