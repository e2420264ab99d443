/-
  CodecForge — sessions of the command line.

  A session answers one request.  It writes to two streams and to files; what it
  has written stays when it fails.

  * `generate`, `languages` and `info` answer the requests;
  * `Session.run` goes from the words of a command line to an `Outcome` and the
    session that is left.
-/
import CodecForge.CommandLine.Markup
import CodecForge.CommandLine.Request
import CodecForge.Json.Sorted
import CodecForge.Loading
import CodecForge.Registry

namespace CodecForge.CommandLine

/-! ## Sessions -/

/-- The streams and files of a session. -/
structure Session where
  files : Files
  out : String := ""
  err : String := ""
deriving Repr

/-- What a session is given: the text of standard input, and what comes of a
    request for the URL that is named. -/
structure Surroundings where
  input : String
  reply : Reply
deriving Repr

/-- What breaks a session off without a message of its own. -/
inductive Breakdown where
  | markup (e : MarkupError)
  | settings (e : SettingsFault)
  | obstacle (o : Obstacle)
  | wordless (argument : String)
deriving DecidableEq, Repr

/-- Why a session ends without a result: it has said why, it ends with an error
    to be told, or it breaks off. -/
inductive Failure where
  | told
  | error (message : String)
  | breakdown (b : Breakdown)
deriving Repr

/-- A program of a session. -/
abbrev SessionM := EStateM Failure Session

namespace SessionM

/-- Writes to the stream for messages, standard output unless that carries bare
    code. -/
def write (plain : Bool) (text : String) : SessionM Unit :=
  modify fun s => if plain then { s with err := s.err ++ text } else { s with out := s.out ++ text }

/-- The text of a marked-up message. -/
def unmarked (message : String) : SessionM String :=
  match Markup.plainText message with
  | .ok text => pure text
  | .error e => throw (.breakdown (.markup e))

/-- Writes a marked-up message on a line. -/
def say (plain : Bool) (message : String) : SessionM Unit := do
  write plain ((← unmarked message) ++ "\n")

/-- Writes code as a console shows it. -/
def showCode (code : String) : SessionM Unit :=
  write false (String.ofList ((Text.unifyLineFeeds code.toList).filter fun c =>
    !Markup.isHiddenControl c))

/-- Tells why a session fails. -/
def fail {α : Type} (plain : Bool) (message : String) : SessionM α := do
  say plain message
  throw .told

/-- Writes a table: its title, the names of its columns, and its rows. -/
def table (plain : Bool) (title : String) (columns : List String) (rows : List (List String)) :
    SessionM Unit := do
  let rows ← rows.mapM (·.mapM unmarked)
  write plain ("\n" ++ Text.unlines (title :: (columns :: rows).map ("  ".intercalate ·)) ++ "\n")

end SessionM

open SessionM

/-! ## Generating -/

namespace GenerateRequest

/-- The settings of a language that options state. -/
def languageEntries (r : GenerateRequest) : List (String × Json) :=
  let module := fun name (v : Option String) =>
    ((v.filter (!·.isEmpty)).map fun s => (name, Json.str s)).toList
  module "runtime_module" r.runtimeModule ++ module "type_module" r.typeModule ++
    if r.noRegister then [("register_codecs", .bool false)] else []

/-- The settings that options state for a language. -/
def settingsEntries (r : GenerateRequest) (language : String) : List (String × Json) :=
  let own := if language = "python" then r.languageEntries else []
  (if r.noComments then [("add_comments", .bool false)] else []) ++
    (r.indentSize.map fun v => ("indent_size", v)).toList ++
    if own.isEmpty then [] else [(Settings.languageKey, .obj own)]

/-- The coding options that are stated. -/
def codingEntries (r : GenerateRequest) : List (String × Json) :=
  [("access_control", r.accessControl), ("container", r.container),
    ("directions", r.directions)].filterMap fun (name, v) => v.map fun v => (name, v)

/-- The settings of a language under options and the file that is named. -/
def loadSettings (r : GenerateRequest) (language : String) : SessionM Settings := do
  match CodecForge.loadSettings (← get).files language (r.settingsEntries language) r.config with
  | .ok s => return s
  | .error (.config e) => throw (.error s!"Configuration error: {e.message}")
  | .error (.fault e) => throw (.breakdown (.settings e))
  | .error (.obstacle o) => throw (.breakdown (.obstacle o))

/-- The declarations of a result of loading. -/
def loaded (r : Except LoadError (List Declaration)) : SessionM (List Declaration) :=
  match r with
  | .ok ds => return ds
  | .error (.obstacle o) => throw (.breakdown (.obstacle o))
  | .error e => throw (.error s!"Failed to load input: {e.message}")

/-- The declarations that are named. -/
def loadInput (r : GenerateRequest) (w : Surroundings) : SessionM (List Declaration) := do
  if Request.readsInput (.generate r) then
    match Json.read w.input with
    | .ok v => loaded (parseDeclarations "<stdin>" v)
    | .error e =>
      match Obstacle.ofRead? e with
      | some o => throw (.breakdown (.obstacle o))
      | none => throw (.error s!"Invalid JSON input: {e.message}")
  else
    let file := r.file.filter (!·.isEmpty)
    let url := if file.isSome then none else r.url
    loaded ((loadDeclarations (← get).files w.reply file url).1.map (·.2))

/-- The words for a property of a result. -/
def propertyLabel (name : String) : String :=
  " ".intercalate ((Text.parts '_' name).map fun w => String.ofList (Text.capitalize w.toList))

/-- The text for why nothing is generated. -/
def failureText : Generator.GenerationError → String
  | .plan e => Text.quoted e.localName
  | .layout e => e.message
  | e => e.message?.getD ""

/-- Writes the code where it is asked for. -/
def deliver (r : GenerateRequest) (g : Generator) (code : String) : SessionM Unit := do
  match r.output.filter (!·.isEmpty) with
  | some name =>
    let path := Path.ofString name
    match (← get).files.write path code with
    | .error .badName => throw (.breakdown (.obstacle (.system .badName)))
    | .error .halfPair =>
      -- the file is there by then, and stays empty
      modify fun s => { s with files := (s.files.write path "").toOption.getD s.files }
      throw (.breakdown (.obstacle (.system .halfPair)))
    | .error e => fail r.plain s!"[red]✗ Failed to write to {path.text}:[/red] {e.message}"
    | .ok files =>
      modify fun s => { s with files }
      say r.plain <|
        s!"[green]✓[/green] Generated {g.target.name} code saved to [cyan]{path.text}[/cyan]"
  | none => if r.plain then write false code else showCode code

/-- Reports on a result. -/
def report (r : GenerateRequest) (result : Generator.Generated) : SessionM Unit := do
  if r.verbose then
    table r.plain "📊 Generation Metadata" ["Property", "Value"]
      (result.metadata.toEntries.map fun (name, v) => [propertyLabel name, v.text])
  if !result.warnings.isEmpty then
    say r.plain "\n[yellow]⚠️  Warnings:[/yellow]"
    result.warnings.forM fun w => say r.plain s!"  [yellow]•[/yellow] {w}"

end GenerateRequest

/-- Generates what is asked for. -/
def generate (r : GenerateRequest) (w : Surroundings) : SessionM Unit := do
  let refuse {α : Type} (e : RegistryError) : SessionM α :=
    fail r.plain s!"[red]✗ {e.message}[/red]"
  match Registry.bundled.resolve r.language with
  | .error e => refuse e
  | .ok language =>
    let settings ← r.loadSettings language
    match Registry.bundled.create (← get).files language (.settings settings) with
    | .error e => refuse e
    | .ok g =>
      let ds ← r.loadInput w
      match (Extraction.extractAll ds r.codingEntries).1 with
      | .error e => fail r.plain s!"[red]✗ Invalid declaration:[/red] {e.message}"
      | .ok types =>
        match g.generate types with
        | .error e =>
          let text := GenerateRequest.failureText e
          fail r.plain s!"[red]✗ Code generation failed:[/red] Code generation failed: {text}"
        | .ok result =>
          r.deliver g result.code
          r.report result

/-! ## Describing languages -/

/-- The rows of the table of languages. -/
def languageRow (r : Registry) (name : String) (t : Target) : List String :=
  let aliases := r.aliasesOf name
  [name, t.fileExtension, t.generatorName,
    if aliases.isEmpty then "none" else ", ".intercalate aliases]

/-- Lists the languages. -/
def languages : SessionM Unit := do
  let r := Registry.bundled
  let rows := r.languages.filterMap fun name =>
    (Entries.get? name r.generators).map (languageRow r name)
  table false "📋 Supported Languages" ["Language", "Extension", "Generator Class", "Aliases"] rows
  write false (Text.unlines ["", "💡 Quick Start",
    "Usage: autocodable generate -l LANGUAGE decls.json", "Info: autocodable info LANGUAGE", ""])

/-- Describes a language. -/
def info (language : String) : SessionM Unit := do
  match Registry.bundled.info (← get).files language with
  | .error e =>
    say false s!"[red]✗ {e.message}[/red]"
    fail false "[dim]Use 'autocodable languages' to see available options[/dim]"
  | .ok i =>
    let title := String.ofList (Text.capitalize i.target.name.toList)
    write false (Text.unlines (["", s!"🔧 {title} Generator", s!"Language: {i.target.name}",
      s!"File Extension: {i.target.fileExtension}", s!"Generator Class: {i.target.generatorName}",
      s!"Module: {i.target.moduleName}", s!"Nested Containers: {i.target.style.label} case",
      s!"Templates: {i.target.templates.length}"] ++
      (if i.aliases.isEmpty then [] else ["Aliases: " ++ ", ".intercalate i.aliases]) ++ [""]))
    let entries := match i.defaults with
      | .obj es => Json.byKey es
      | _ => []
    table false "⚙️  Default Configuration" ["Setting", "Value"]
      (entries.map fun (name, v) => [name, Json.write .oneLine v])

/-! ## Running -/

/-- How a session ends: before it begins, with an exit code, or broken off. -/
inductive Outcome where
  | stopped (code : Nat)
  | finished (code : Nat)
  | broken (b : Breakdown)
deriving Repr

/-- Whether messages go to the stream for errors. -/
def Request.isPlain : Request → Bool
  | generate r => r.plain
  | _ => false

/-- Answers a request. -/
def answer (w : Surroundings) : Request → SessionM Unit
  | .generate r => generate r w
  | .languages => languages
  | .info language => info language
  | .nothing => do
    write false grammar.helpText
    throw .told
  | .wordless name => throw (.breakdown (.wordless name))

/-- Answers a request, and tells an error that is left to be told. -/
def answered (request : Request) (w : Surroundings) : SessionM Unit :=
  tryCatch (answer w request) fun
    | .error message => fail request.isPlain s!"[red]✗ Error:[/red] {message}"
    | e => throw e

/-- What a refusal prints, and the code with which it ends. -/
def Session.refused (s : Session) : Refusal → Outcome × Session
  | .help g => (.stopped 0, { s with out := g.helpText })
  | .version => (.stopped 0, { s with out := s!"{programName} {version}\n" })
  | .usage g e =>
    (.stopped 2, { s with err := s!"{g.usage}\n{g.program}: error: {e.message}\n" })

/-- Runs a command line. -/
def Session.run (files : Files) (w : Surroundings) (words : List String) : Outcome × Session :=
  let s : Session := { files }
  match Request.read words with
  | .error refusal => s.refused refusal
  | .ok request =>
    match answered request w s with
    | .ok _ s => (.finished 0, s)
    | .error (.breakdown b) s => (.broken b, s)
    | .error _ s => (.finished 1, s)

end CodecForge.CommandLine
