/-
  CodecForge — reading command lines.

  * `Grammar.classify` tells the words of a command line that are options from
    the others; an option may be shortened as long as it stays the only one, and
    after two dashes every word is an argument;
  * `Grammar.parse` gives what the words state, with the words that nothing
    takes, or the `Stop` at which reading ends.
-/
import CodecForge.CommandLine.Grammar
import CodecForge.Entries
import CodecForge.Number.Integer
import CodecForge.Text.Quoted

namespace CodecForge.CommandLine

/-! ## Errors -/

/-- What is wrong with a command line; `label` names an argument. -/
inductive UsageError where
  | ambiguous (word : String) (flags : List String)
  | expectedOne (label : String)
  | ignored (label text : String)
  | invalidNumber (label text : String)
  | invalidChoice (label text : String) (choices : List String)
  | notAllowed (label other : String)
  | missing (labels : List String)
  | missingOneOf (labels : List String)
  | unrecognized (words : List String)
deriving DecidableEq, Repr

/-- The text of an error. -/
def UsageError.message : UsageError → String
  | .ambiguous word flags =>
    s!"ambiguous option: {word} could match " ++ ", ".intercalate flags
  | .expectedOne label => s!"argument {label}: expected one argument"
  | .ignored label text => s!"argument {label}: ignored explicit argument {Text.quoted text}"
  | .invalidNumber label text => s!"argument {label}: invalid int value: {Text.quoted text}"
  | .invalidChoice label text choices =>
    s!"argument {label}: invalid choice: {Text.quoted text} (choose from " ++
      ", ".intercalate (choices.map Text.quoted) ++ ")"
  | .notAllowed label other => s!"argument {label}: not allowed with argument {other}"
  | .missing labels => "the following arguments are required: " ++ ", ".intercalate labels
  | .missingOneOf labels => "one of the arguments " ++ " ".intercalate labels ++ " is required"
  | .unrecognized words => "unrecognized arguments: " ++ " ".intercalate words

/-- Why reading ends before everything is read. -/
inductive Stop where
  | error (e : UsageError)
  | help
  | version
deriving DecidableEq, Repr

/-! ## Words -/

/-- An option as a word names it: its flag, and the text after the flag. -/
structure OptionWord where
  argument : Argument
  flag : String
  text : Option String
deriving Repr

/-- A word of a command line. -/
inductive Word where
  | option (o : OptionWord)
  | unknownOption (word : String)
  | argument (word : String)
  | separator
deriving Repr

/-- Whether a text is a negative number: digits, perhaps with a point before the
    last of them. -/
def isNegativeNumber (cs : List Char) : Bool :=
  match cs with
  | '-' :: cs =>
    let isDigits := fun ds : List Char => !ds.isEmpty && ds.all fun c => (digitValue? c).isSome
    let cs := if cs.getLast? = some '\n' then cs.dropLast else cs
    isDigits cs ||
      let whole := cs.takeWhile fun c => (digitValue? c).isSome
      match cs.drop whole.length with
      | '.' :: fraction => isDigits fraction
      | _ => false
  | _ => false

/-- The text before the first equals sign and the text after it. -/
def atEquals (cs : List Char) : String × Option String :=
  let before := cs.takeWhile (· ≠ '=')
  (String.ofList before,
    match cs.drop before.length with
    | [] => none
    | _ :: after => some (String.ofList after))

namespace Grammar

/-- The options that a word may stand for: those whose flag it begins, and for a
    single dash the one whose flag is its first letter. -/
def candidates (g : Grammar) (word : String) : List OptionWord :=
  match word.toList with
  | '-' :: '-' :: _ =>
    let (start, text) := atEquals word.toList
    g.allOptions.flatMap fun a =>
      (a.flags.filter fun flag => start.toList.isPrefixOf flag.toList).map fun flag =>
        ⟨a, flag, text⟩
  | cs =>
    let short := String.ofList (cs.take 2)
    g.allOptions.flatMap fun a => a.flags.filterMap fun flag =>
      if flag = short then some ⟨a, flag, some (String.ofList (cs.drop 2))⟩
      else if cs.isPrefixOf flag.toList then some ⟨a, flag, none⟩
      else none

/-- A word before two dashes. -/
def classifyWord (g : Grammar) (word : String) : Except UsageError Word :=
  match word.toList with
  | '-' :: c :: cs =>
    match g.withFlag? word with
    | some a => .ok (.option ⟨a, word, none⟩)
    | none =>
      match atEquals word.toList with
      | (flag, some text) =>
        match g.withFlag? flag with
        | some a => .ok (.option ⟨a, flag, some text⟩)
        | none => fromCandidates ('-' :: c :: cs)
      | (_, none) => fromCandidates ('-' :: c :: cs)
  | _ => .ok (.argument word)
where
  fromCandidates (cs : List Char) : Except UsageError Word :=
    match g.candidates word with
    | [o] => .ok (.option o)
    | [] =>
      if isNegativeNumber cs || cs.contains ' ' then .ok (.argument word)
      else .ok (.unknownOption word)
    | os => .error (.ambiguous word (os.map (·.flag)))

/-- The words of a command line; after two dashes every word is an argument. -/
def classify (g : Grammar) : List String → Except UsageError (List Word)
  | [] => .ok []
  | w :: ws =>
    if w = "--" then .ok (.separator :: ws.map .argument)
    else do
      let word ← g.classifyWord w
      let rest ← g.classify ws
      return word :: rest

end Grammar

/-! ## Values -/

/-- What is given for an argument; two dashes in place of a text give no word. -/
inductive Given where
  | flag
  | nothing
  | text (s : String)
  | number (n : Int)
  | words (ws : List String)
deriving DecidableEq, Repr

/-- What has been read: the values of arguments, the words that nothing takes,
    and whether the positional argument has been met. -/
structure Reading where
  values : List (String × Given) := []
  extras : List String := []
  positionalMet : Bool := false
deriving Repr

namespace Grammar

/-- The value that a word denotes for an argument. -/
def given (a : Argument) (word : String) : Except UsageError Given :=
  if a.isNumber then
    match readInteger word with
    | some n => .ok (.number n)
    | none => .error (.invalidNumber a.label word)
  else if !a.choices.isEmpty && !a.choices.contains word then
    .error (.invalidChoice a.label word a.choices)
  else .ok (.text word)

/-- Stops if another of the arguments that exclude each other has been given. -/
def checkExclusive (g : Grammar) (r : Reading) (a : Argument) : Except Stop Unit :=
  if !g.exclusive.contains a.name then .ok () else
  match g.exclusive.find? fun name => name ≠ a.name && Entries.has name r.values with
  | none => .ok ()
  | some name => .error (.error (.notAllowed a.label (((g.find? name).map (·.label)).getD name)))

/-- Enters a value for an argument. -/
def enter (g : Grammar) (r : Reading) (a : Argument) (v : Given) : Except Stop Reading := do
  g.checkExclusive r a
  match a.effect with
  | .store => return { r with values := Entries.put a.name v r.values }
  | .help => throw .help
  | .version => throw .version

/-- Enters the word that an option or a positional argument takes. -/
def enterWord (g : Grammar) (r : Reading) (a : Argument) (word : String) :
    Except Stop Reading := do
  g.enter r a (← (given a word).mapError .error)

/-! ## Options -/

/-- Options that share a single dash: those that take no word, and the option
    that takes a word, with the text at hand for it. -/
structure Cluster where
  plain : List Argument
  last : Option (Argument × Option String) := none
deriving Repr

/-- The options that share a dash with `a`, which takes no word, by the letters
    after it.  A letter that is no option leaves the letters to the option before
    it, which has no use for them. -/
def readCluster (g : Grammar) (a : Argument) : List Char → Except UsageError Cluster
  | [] => .ok ⟨[a], none⟩
  | c :: cs =>
    match g.withFlag? (String.ofList ['-', c]) with
    | none => .error (.ignored a.label (String.ofList (c :: cs)))
    | some next =>
      if next.arity = .none then do
        let rest ← readCluster g next cs
        return { rest with plain := a :: rest.plain }
      else .ok ⟨[a], some (next, if cs.isEmpty then none else some (String.ofList cs))⟩

/-- Whether a cluster lacks the word that its last option takes. -/
def Cluster.lacksWord (c : Cluster) (rest : List Word) : Option Argument :=
  match c.last, rest with
  | some (_, none), .argument _ :: _ => none
  | some (a, none), _ => some a
  | _, _ => none

/-- Enters the word that an option takes: its own text or the next word. -/
def readWord (g : Grammar) (r : Reading) (a : Argument) (text : Option String)
    (rest : List Word) : Except Stop (Reading × List Word) :=
  match text, rest with
  | some "--", rest => do return (← g.enter r a .nothing, rest)
  | some text, rest => do return (← g.enterWord r a text, rest)
  | none, .argument w :: rest => do return (← g.enterWord r a w, rest)
  | none, _ => .error (.error (.expectedOne a.label))

/-- Reads an option with the words after it. -/
def readOption (g : Grammar) (r : Reading) (o : OptionWord) (rest : List Word) :
    Except Stop (Reading × List Word) :=
  if o.argument.arity ≠ .none then g.readWord r o.argument o.text rest else
  match o.text with
  | none => do return (← g.enter r o.argument .flag, rest)
  | some text =>
    if (o.flag.toList.drop 1).head? = some '-' || text.isEmpty then
      .error (.error (.ignored o.argument.label text))
    else do
      let c ← (g.readCluster o.argument text.toList).mapError .error
      if let some a := c.lacksWord rest then throw (.error (.expectedOne a.label))
      let r ← c.plain.foldlM (fun r a => g.enter r a .flag) r
      match c.last with
      | none => return (r, rest)
      | some (a, text) => g.readWord r a text rest

/-! ## Positional arguments -/

/-- The words after the separators at the beginning. -/
def dropSeparators : List Word → List Word
  | .separator :: ws => dropSeparators ws
  | ws => ws

/-- The texts of words as they were written. -/
def written (raw : List String) (rest : List Word) : List String :=
  raw.drop (raw.length - rest.length)

/-- Enters the positional argument from the words at hand, of which `raw` are
    the texts; none if it takes none of them. -/
def readPositional (g : Grammar) (r : Reading) (raw : List String) (ws : List Word) :
    Except Stop (Option (Reading × List Word)) :=
  match g.positional with
  | none => .ok none
  | some a =>
    if r.positionalMet then .ok none else
    let met := { r with positionalMet := true }
    match a.arity, dropSeparators ws with
    | .command, .argument _ :: _ =>
      match written raw ws with
      | [] => .ok none
      | word :: words => do
        let _ ← (given a word).mapError .error
        return some (← g.enter met a (.words (word :: words)), [])
    | .command, _ => .ok none
    | _, .argument w :: rest => do return some (← g.enterWord met a w, dropSeparators rest)
    | .atMostOne, rest => .ok (some (met, rest))
    | _, _ => .ok none

/-! ## Reading -/

/-- The words from the first option on. -/
def fromOption (ws : List Word) : List Word :=
  ws.dropWhile fun
    | .option _ | .unknownOption _ => false
    | _ => true

/-- Passes over the words before the next option. -/
def skipped (raw : List String) (r : Reading) (ws : List Word) : Reading × List Word :=
  let rest := fromOption ws
  let here := written raw ws
  ({ r with extras := r.extras ++ here.take (here.length - rest.length) }, rest)

/-- Reads words in turn: options with what they take, and the positional
    argument from the words between them.  Every round takes a word, so as many
    rounds as there are words are enough. -/
def readWords (g : Grammar) (raw : List String) :
    Nat → Reading → List Word → Except Stop Reading
  | 0, r, _ => .ok r
  | fuel + 1, r, ws =>
    match ws with
    | .option o :: rest => do
      let (r, rest) ← g.readOption r o rest
      readWords g raw fuel r rest
    | .unknownOption w :: rest => readWords g raw fuel { r with extras := r.extras ++ [w] } rest
    | ws => do
      let (r, rest) := match ← g.readPositional r raw ws with
        | some (r, rest) => if rest.length < ws.length then (r, rest) else skipped raw r ws
        | none => skipped raw r ws
      if rest.isEmpty then return r
      readWords g raw fuel r rest

/-- The labels of the required arguments that are missing. -/
def missing (g : Grammar) (r : Reading) : List String :=
  (g.arguments.filter fun a => a.required && !Entries.has a.name r.values).map (·.label)

/-- What the words of a command line state. -/
def parse (g : Grammar) (raw : List String) : Except Stop Reading := do
  let ws ← (g.classify raw).mapError .error
  let r ← g.readWords raw (ws.length + 1) {} ws
  let missing := g.missing r
  if !missing.isEmpty then throw (.error (.missing missing))
  if !g.exclusive.isEmpty && !g.exclusive.any fun name => Entries.has name r.values then
    throw (.error (.missingOneOf (g.exclusive.map fun name =>
      ((g.find? name).map (·.label)).getD name)))
  return r

end Grammar

end CodecForge.CommandLine
