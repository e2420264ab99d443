/-
  CodecForge — requests of the command line.

  * `grammar` is the grammar of the program, `generateGrammar`,
    `languagesGrammar` and `infoGrammar` those of its commands;
  * `Request.read` reads the words of a command line as a `Request`, or ends
    with what is to be printed instead.
-/
import CodecForge.CommandLine.Parsing
import CodecForge.Json.Basic

namespace CodecForge.CommandLine

/-! ## Grammars -/

/-- The name of the program. -/
def programName : String := "autocodable"

/-- The version of the program. -/
def version : String := "0.1.0"

def helpOption : Argument :=
  { name := "help", flags := ["-h", "--help"], arity := .none, effect := .help,
    help := "show this help message and exit" }

/-- An option without a word. -/
def switch (name flag help : String) : Argument := { name, flags := [flag], arity := .none, help }

/-- An option with a word. -/
def option (name : String) (flags : List String) (help : String) : Argument :=
  { name, flags, help }

/-- The commands with their help. -/
def commands : List (String × String) :=
  [("generate", "Generate codecs from declaration JSON"),
    ("languages", "List supported languages"), ("info", "Show details about a language")]

/-- The grammar of the program. -/
def grammar : Grammar where
  program := programName
  description := some "Generate encode/decode routines from coding-key declarations"
  options :=
    [helpOption,
      { name := "version", flags := ["--version"], arity := .none, effect := .version,
        help := "show program's version number and exit" },
      { name := "log_level", flags := ["--log-level"],
        choices := ["DEBUG", "INFO", "WARNING", "ERROR"],
        help := "Logging level (default: WARNING)" }]
  positional := some { name := "command", arity := .command, choices := commands.map (·.1) }
  commands := commands

/-- Examples of the command that generates. -/
def examples : String :=
  "\n  ".intercalate
    ["Examples:", "autocodable generate -l python user.json",
      "autocodable generate -l swift --access-control public -o User+Codable.swift user.json",
      "autocodable generate -l py --type-module myapp.models --stdin < decls.json"]

/-- The grammar of the command that generates. -/
def generateGrammar : Grammar where
  program := programName ++ " generate"
  description := some "Generate encode/decode routines from declaration JSON"
  options :=
    [helpOption,
      option "url" ["--url"] "URL to fetch declaration JSON from",
      switch "stdin" "--stdin" "Read declaration JSON from standard input",
      { name := "language", flags := ["--language", "-l"], required := true,
        help := "Target language for code generation" },
      option "output" ["--output", "-o"] "Output file (default: stdout)",
      option "config" ["--config"] "Configuration file path (JSON)",
      switch "plain" "--plain" "Write bare code to stdout, without highlighting",
      switch "verbose" "--verbose" "Show generation result metadata"]
  groups :=
    [⟨"coding options",
      [{ name := "access_control", flags := ["--access-control"],
          choices := ["internal", "public"], help := "Visibility of the generated procedures" },
        option "container" ["--container"]
          "Container strategy: keyed, single_value_for_enum or \"single_value(name)\"",
        { name := "directions", flags := ["--directions"], choices := ["both", "encode", "decode"],
          help := "Which procedures to generate (default: both)" }]⟩,
    ⟨"common generation options",
      [switch "no_comments" "--no-comments" "Don't add the header comment",
        { name := "indent_size", flags := ["--indent-size"], isNumber := true,
          help := "Indentation width" }]⟩,
    ⟨"Python-specific options",
      [option "runtime_module" ["--runtime-module"]
          "Module the runtime containers are imported from",
        option "type_module" ["--type-module"]
          "Module the codable and adapter types are imported from",
        switch "no_register" "--no-register" "Don't emit register_codec calls"]⟩]
  positional := some { name := "file", arity := .atMostOne, help := "Declaration JSON file" }
  exclusive := ["file", "url", "stdin"]
  epilog := some examples

/-- The grammar of the command that lists languages. -/
def languagesGrammar : Grammar where
  program := programName ++ " languages"
  options := [helpOption]

/-- The grammar of the command that describes a language. -/
def infoGrammar : Grammar where
  program := programName ++ " info"
  options := [helpOption]
  positional := some { name := "language", required := true, help := "Language name or alias" }

/-! ## Requests -/

/-- What is to be generated, and how. -/
structure GenerateRequest where
  file : Option String
  url : Option String
  language : String
  output : Option String
  config : Option String
  plain : Bool
  verbose : Bool
  accessControl : Option Json
  container : Option Json
  directions : Option Json
  noComments : Bool
  indentSize : Option Json
  runtimeModule : Option String
  typeModule : Option String
  noRegister : Bool
deriving Repr

/-- What the program is asked to do. -/
inductive Request where
  | generate (r : GenerateRequest)
  | languages
  | info (language : String)
  /-- nothing is asked -/
  | nothing
  /-- no word is given for an argument that needs one -/
  | wordless (argument : String)
deriving Repr

/-- What is printed instead when there is no request. -/
inductive Refusal where
  | help (g : Grammar)
  | version
  | usage (g : Grammar) (e : UsageError)
deriving Repr

namespace Reading

/-- The text given for an argument. -/
def text? (r : Reading) (name : String) : Option String :=
  match Entries.get? name r.values with
  | some (.text s) => some s
  | _ => none

/-- The value given for an argument; no word is an empty list. -/
def value? (r : Reading) (name : String) : Option Json :=
  match Entries.get? name r.values with
  | some (.text s) => some (.str s)
  | some (.number n) => some (.int n)
  | some .nothing => some (.arr [])
  | _ => none

/-- Whether no word is given for an argument that is there. -/
def isWordless (r : Reading) (name : String) : Bool :=
  Entries.get? name r.values = some .nothing

def flag (r : Reading) (name : String) : Bool := Entries.has name r.values

/-- The words of a command. -/
def words (r : Reading) (name : String) : List String :=
  match Entries.get? name r.values with
  | some (.words ws) => ws
  | _ => []

end Reading

/-- The request that the options of the command state. -/
def GenerateRequest.of (r : Reading) : GenerateRequest where
  file := r.text? "file"
  url := r.text? "url"
  language := (r.text? "language").getD ""
  output := r.text? "output"
  config := r.text? "config"
  plain := r.flag "plain"
  verbose := r.flag "verbose"
  accessControl := r.value? "access_control"
  container := r.value? "container"
  directions := r.value? "directions"
  noComments := r.flag "no_comments"
  indentSize := r.value? "indent_size"
  runtimeModule := r.text? "runtime_module"
  typeModule := r.text? "type_module"
  noRegister := r.flag "no_register"

namespace Request

/-- What the words of a command line state under a grammar. -/
def parsed (g : Grammar) (words : List String) : Except Refusal Reading :=
  (g.parse words).mapError fun
    | .help => .help g
    | .version => .version
    | .error e => .usage g e

/-- The request of a command, with the words that nothing takes. -/
def ofCommand (name : String) (words : List String) : Except Refusal (Request × List String) :=
  match name with
  | "generate" => do
    let r ← parsed generateGrammar words
    return (if r.isWordless "language" then .wordless "language" else .generate (.of r), r.extras)
  | "languages" => do
    let r ← parsed languagesGrammar words
    return (.languages, r.extras)
  | "info" => do
    let r ← parsed infoGrammar words
    return (.info ((r.text? "language").getD ""), r.extras)
  | _ => .ok (.nothing, [])

/-- The request that a command line states. -/
def read (words : List String) : Except Refusal Request := do
  let r ← parsed grammar words
  let (request, extras) ← match r.words "command" with
    | [] => pure (.nothing, [])
    | name :: words => ofCommand name words
  let extras := r.extras ++ extras
  if !extras.isEmpty then throw (.usage grammar (.unrecognized extras))
  return if r.isWordless "log_level" then .wordless "log_level" else request

/-- Whether the request is answered from standard input: no file and no URL is
    named. -/
def readsInput : Request → Bool
  | generate r => (r.file.getD "").isEmpty && (r.url.getD "").isEmpty
  | _ => false

/-- The files that a request reads. -/
def inputs : Request → List String
  | generate r => r.file.toList ++ r.config.toList
  | _ => []

/-- The file that a request writes. -/
def output? : Request → Option String
  | generate r => r.output
  | _ => none

end Request

end CodecForge.CommandLine
