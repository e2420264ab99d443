/-
  CodecForge — grammars of command lines.

  A grammar lists the arguments that a program takes: options with their flags,
  and at most one positional argument, which may be a command with arguments of
  its own.

  * `Grammar.usage` is the line that sums a grammar up, `Grammar.helpText` its
    full description: a heading for every group of arguments, and the help of an
    argument in a column of its own.
-/

namespace CodecForge.CommandLine

/-! ## Arguments -/

/-- How many words an argument takes. -/
inductive Arity where
  | none
  | one
  | atMostOne
  /-- a word and everything after it -/
  | command
deriving DecidableEq, Repr

/-- What an argument does when it is met. -/
inductive Effect where
  | store
  | help
  | version
deriving DecidableEq, Repr

/-- An argument; one without flags is positional. -/
structure Argument where
  name : String
  flags : List String := []
  arity : Arity := .one
  effect : Effect := .store
  required : Bool := false
  choices : List String := []
  isNumber : Bool := false
  help : String := ""
deriving Repr

namespace Argument

/-- How messages name an argument. -/
def label (a : Argument) : String := if a.flags.isEmpty then a.name else "/".intercalate a.flags

/-- What stands for the word that an argument takes. -/
def metavar (a : Argument) : String :=
  if !a.choices.isEmpty then "\x7b" ++ ",".intercalate a.choices ++ "\x7d"
  else if a.flags.isEmpty then a.name
  else (a.name.map Char.toUpper)

/-- The words that an argument takes, as usages show them. -/
def words (a : Argument) : String :=
  match a.arity with
  | .none => ""
  | .one => a.metavar
  | .atMostOne => s!"[{a.metavar}]"
  | .command => a.metavar ++ " ..."

/-- An argument in a usage. -/
def usage (a : Argument) : String :=
  match a.flags with
  | [] => a.words
  | flag :: _ =>
    let text := if a.arity = .none then flag else flag ++ " " ++ a.words
    if a.required then text else s!"[{text}]"

/-- An argument at the head of its help. -/
def heading (a : Argument) : String :=
  if a.flags.isEmpty then a.metavar
  else ", ".intercalate (a.flags.map fun flag =>
    if a.arity = .none then flag else flag ++ " " ++ a.words)

end Argument

/-! ## Grammars -/

/-- Arguments under a heading. -/
structure Group where
  title : String
  arguments : List Argument
deriving Repr

/-- The arguments of a program, its options first by groups.  Of the arguments
    that `exclusive` names exactly one must be given. -/
structure Grammar where
  program : String
  description : Option String := none
  options : List Argument
  groups : List Group := []
  positional : Option Argument := none
  exclusive : List String := []
  /-- the commands that the positional argument may name, with their help -/
  commands : List (String × String) := []
  epilog : Option String := none
deriving Repr

namespace Grammar

/-- Every option. -/
def allOptions (g : Grammar) : List Argument := g.options ++ g.groups.flatMap (·.arguments)

/-- Every argument. -/
def arguments (g : Grammar) : List Argument := g.positional.toList ++ g.allOptions

/-- The argument with a name. -/
def find? (g : Grammar) (name : String) : Option Argument := g.arguments.find? (·.name == name)

/-- The option with a flag. -/
def withFlag? (g : Grammar) (flag : String) : Option Argument :=
  g.allOptions.find? (·.flags.contains flag)

/-- Every flag. -/
def flags (g : Grammar) : List String := g.allOptions.flatMap (·.flags)

/-! ## Usage and help -/

/-- The line that sums a grammar up. -/
def usage (g : Grammar) : String :=
  " ".intercalate ("usage:" :: g.program :: (g.allOptions ++ g.positional.toList).map (·.usage))

/-- An entry of a list: a heading and its help. -/
structure Entry where
  indent : Nat
  heading : String
  help : String

def blanks (n : Nat) : String := String.ofList (List.replicate n ' ')

/-- The lines of an entry with its help from a column on; a heading that is too
    long has a line of its own. -/
def Entry.lines (column : Nat) (e : Entry) : List String :=
  let start := blanks e.indent ++ e.heading
  if e.help.isEmpty then [start]
  else if start.length + 2 ≤ column then [start ++ blanks (column - start.length) ++ e.help]
  else [start, blanks column ++ e.help]

/-- The entries of the positional argument, with its commands. -/
def positionalEntries (g : Grammar) : List Entry :=
  g.positional.toList.map (fun a => ⟨2, a.heading, a.help⟩) ++
    g.commands.map fun (name, help) => ⟨4, name, help⟩

def entriesOf (arguments : List Argument) : List Entry :=
  arguments.map fun a => ⟨2, a.heading, a.help⟩

/-- The groups of entries under their headings. -/
def sections (g : Grammar) : List (String × List Entry) :=
  [("positional arguments", g.positionalEntries), ("options", entriesOf g.options)] ++
    g.groups.map fun s => (s.title, entriesOf s.arguments)

/-- The column in which help begins at most. -/
def widestColumn : Nat := 24

/-- The column in which help begins. -/
def column (entries : List Entry) : Nat :=
  min widestColumn (entries.foldl (fun n e => max n (e.indent + e.heading.length)) 0 + 2)

/-- The full description of a grammar. -/
def helpText (g : Grammar) : String :=
  let sections := g.sections.filter fun s => !s.2.isEmpty
  let column := column (sections.flatMap (·.2))
  let texts := sections.map fun (title, entries) =>
    "\n".intercalate ((title ++ ":") :: entries.flatMap (Entry.lines column))
  "\n\n".intercalate (g.usage :: (g.description.toList ++ texts ++ g.epilog.toList)) ++ "\n"

end Grammar

end CodecForge.CommandLine
