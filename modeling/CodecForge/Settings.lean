/-
  CodecForge — settings.

  `Settings` hold what every generator reads and, under the target language's
  own names, what only one of them reads.  Values are taken as they are given;
  a generator reads them when it is made.

  * `merge` lays entries over others; the entry `language_config` is laid over
    entry by entry;
  * `ofEntries` takes the known entries for fields and every other entry for a
    setting of the language;
  * `defaultsFor` are the settings a language starts from, `Settings.combine`
    puts defaults, a file and custom settings together, in that order;
  * `warnings` finds values that a generator will not like;
  * `SettingsFault` says which value cannot be used and how.
-/
import CodecForge.Json.Writer
import CodecForge.Text.Identifier
import CodecForge.Text.Lines

namespace CodecForge

/-! ## Faults -/

/-- Why values cannot be used as settings. -/
inductive SettingsFault where
  /-- entries are laid over a value that is no object -/
  | notMergeable (kind : String)
  /-- a value that is to be read as pairs, or as a list, has no items -/
  | notIterable (kind : String)
  /-- an item that is to be read as a pair has no items -/
  | itemNotSequence (index : Nat)
  /-- an item that is to be read as a pair has another length -/
  | itemLength (index length : Nat)
  /-- the name in a pair cannot be a name -/
  | unhashableName (kind : String)
  /-- the name in a pair is no string -/
  | nameNotString
  /-- settings of a language that are no object -/
  | notMapping (receiver kind : String)
  /-- a setting under a name that is taken -/
  | takenName (receiver name : String)
deriving DecidableEq, Repr

/-- The text of a fault. -/
def SettingsFault.message : SettingsFault → String
  | .notMergeable kind => s!"'{kind}' object has no attribute 'update'"
  | .notIterable kind => s!"'{kind}' object is not iterable"
  | .itemNotSequence index =>
    s!"cannot convert dictionary update sequence element #{index} to a sequence"
  | .itemLength index length =>
    s!"dictionary update sequence element #{index} has length {length}; 2 is required"
  | .unhashableName kind => s!"unhashable type: '{kind}'"
  | .nameNotString => "keywords must be strings"
  | .notMapping receiver kind => s!"{receiver} argument after ** must be a mapping, not {kind}"
  | .takenName receiver name => s!"{receiver} got multiple values for argument '{name}'"

/-! ## Reading pairs -/

namespace Json

/-- The pair that an item is, a value without parts being its name. -/
def pairOf (index : Nat) (item : Json) : Except SettingsFault (Json × Json) :=
  match item.items? with
  | none => .error (.itemNotSequence index)
  | some [.arr _, _] => .error (.unhashableName "list")
  | some [.obj _, _] => .error (.unhashableName "dict")
  | some [name, value] => .ok (name, value)
  | some xs => .error (.itemLength index xs.length)

/-- The pairs that items are. -/
def pairsOf (index : Nat) : List Json → Except SettingsFault (List (Json × Json))
  | [] => .ok []
  | x :: xs => do
    let p ← pairOf index x
    let ps ← pairsOf (index + 1) xs
    return p :: ps

/-- A name as it is saved: a string is itself, another value its text as JSON. -/
def savedName : Json → String
  | .str s => s
  | v => write .oneLine v

/-- Lays a pair over others, of which the one with an equal name keeps its name. -/
def layPair (ps : List (Json × Json)) (p : Json × Json) : List (Json × Json) :=
  if ps.any fun q => sameScalar q.1 p.1 then
    ps.map fun q => if sameScalar q.1 p.1 then (q.1, p.2) else q
  else ps ++ [p]

/-- The entries that a value holds: those of an object, none for an empty value,
    or those that the items of a list or a string are as pairs; and whether all the
    names in them are strings. -/
def entriesOf (v : Json) : Except SettingsFault (List (String × Json) × Bool) :=
  match v with
  | .obj es => .ok (es, true)
  | _ =>
    if !v.truthy then .ok ([], true) else
    match v.items? with
    | none => .error (.notIterable v.kindName)
    | some xs => do
      let pairs := (← pairsOf 0 xs).foldl layPair []
      return (pairs.map fun p => (p.1.savedName, p.2), pairs.all fun p => p.1.isString)

end Json

/-! ## Settings -/

/-- The settings of a generator. -/
structure Settings where
  outputFile : Json := .null
  indentSize : Json := .int 4
  addComments : Json := .bool true
  header : Json := .str "Generated by autocodable. Do not edit."
  languageConfig : Json := .obj []
  /-- whether all the names of settings of the language are strings -/
  namesAreStrings : Bool := true
deriving Repr

namespace Settings

/-- The entries of settings, in the order in which they are saved. -/
def toEntries (s : Settings) : List (String × Json) :=
  [("output_file", s.outputFile), ("indent_size", s.indentSize), ("add_comments", s.addComments),
    ("header", s.header), ("language_config", s.languageConfig)]

def toJson (s : Settings) : Json := .obj s.toEntries

/-- The text under which settings are saved. -/
def saved (s : Settings) : String := Json.write .indented s.toJson

/-- The settings with one field set, none if there is no such field. -/
def set? (s : Settings) (name : String) (v : Json) : Option Settings :=
  match name with
  | "output_file" => some { s with outputFile := v }
  | "indent_size" => some { s with indentSize := v }
  | "add_comments" => some { s with addComments := v }
  | "header" => some { s with header := v }
  | "language_config" => some { s with languageConfig := v }
  | _ => none

/-- Settings with the given fields; none if one of them is no field. -/
def ofFields? (es : List (String × Json)) : Option Settings :=
  es.foldlM (fun s e => s.set? e.1 e.2) ({} : Settings)

/-! ## Merging -/

/-- The entry of the settings of a language. -/
def languageKey : String := "language_config"

/-- Lays one entry over others. -/
def mergeEntry (base : List (String × Json)) (name : String) (v : Json) :
    Except SettingsFault (List (String × Json)) :=
  match name, v with
  | "language_config", .obj new =>
    match Entries.get? languageKey base with
    | none => .ok (Entries.put languageKey (.obj new) base)
    | some (.obj old) => .ok (Entries.put languageKey (.obj (Entries.putAll old new)) base)
    | some old => .error (.notMergeable old.kindName)
  | _, _ => .ok (Entries.put name v base)

/-- Lays entries over others. -/
def merge (base upper : List (String × Json)) : Except SettingsFault (List (String × Json)) :=
  upper.foldlM (fun base e => mergeEntry base e.1 e.2) base

/-- Takes an entry for a field, or for a setting of the language if there is no such
    field. -/
def takeEntry (acc : Settings × List (String × Json)) (e : String × Json) :
    Settings × List (String × Json) :=
  if e.1 = languageKey then acc else
  match acc.1.set? e.1 e.2 with
  | some s => (s, acc.2)
  | none => (acc.1, Entries.put e.1 e.2 acc.2)

/-- The settings that entries state: the known ones, with every other entry as a
    setting of the language. -/
def ofEntries (es : List (String × Json)) : Except SettingsFault Settings := do
  let (language, namesAreStrings) ← ((Entries.get? languageKey es).getD .null).entriesOf
  let (s, language) := es.foldl takeEntry (({} : Settings), language)
  return { s with languageConfig := .obj language, namesAreStrings }

/-- The entries that a language starts from. -/
def defaultsFor : String → List (String × Json)
  | "python" =>
    [("indent_size", .int 4), ("add_comments", .bool true),
      ("language_config", .obj
        [("runtime_module", .str "autocodable.runtime"), ("type_module", .null),
          ("register_codecs", .bool true), ("emit_type_hints", .bool true),
          ("emit_docstrings", .bool false)])]
  | "swift" =>
    [("indent_size", .int 4), ("add_comments", .bool true),
      ("language_config", .obj
        [("imports", .arr []), ("wrap_in_extension", .bool true),
          ("emit_decode_helper", .bool false)])]
  | _ => []

/-- The languages that have defaults. -/
def languages : List String := ["python", "swift"]

/-- The settings of a language with the entries of a file laid over the
    defaults, and custom entries over both. -/
def combine (language : String) (file custom : List (String × Json)) :
    Except SettingsFault Settings := do
  let es ← merge (defaultsFor language) file
  let es ← merge es custom
  ofEntries es

/-! ## Warnings -/

/-- Whether a width is an integer from one up. -/
def goodWidth (v : Json) : Bool := v.asInt?.any (· ≥ 1)

/-- Whether a value is a module path: identifiers with dots between them. -/
def isModulePath (v : Json) : Bool := (Text.parts '.' v.text).all Text.isIdentifier

/-- The value of a setting of the language. -/
def languageSetting (s : Settings) (name : String) : Json :=
  (s.languageConfig.field? name).getD .null

/-- What is wrong with settings for a language. -/
def warnings (s : Settings) (language : String) : List String :=
  (if goodWidth s.indentSize then [] else [s!"Invalid indent_size: {s.indentSize.text}"]) ++
    if language = "python" then
      ["runtime_module", "type_module"].filterMap fun name =>
        let v := s.languageSetting name
        if v.truthy && !isModulePath v then
          some s!"Invalid Python module path for {name}: {v.text}"
        else none
    else []

end Settings

end CodecForge
