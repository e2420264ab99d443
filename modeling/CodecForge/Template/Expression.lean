/-
  CodecForge — expressions in templates.

  An expression is a variable, a constant or a collection, an entry of a value, a
  choice between values, or a value that goes through a filter.

  * `Expression.value` finds the value of an expression among the variables of a
    context; a `RenderFault` says what is missing or does not fit;
  * `Filter.apply` is a value after a filter with its arguments.
-/
import CodecForge.Generator
import CodecForge.Naming.Convention
import CodecForge.Source
import CodecForge.Template.Token

namespace CodecForge.Template

/-! ## Faults -/

/-- What is wrong with the text of a template. -/
inductive Flaw where
  | token (flaw : TokenFlaw)
  | unexpected (found : Token)
  | expected (label : String) (found : Token)
  | noExpression (found : Token)
  | noEntryName
  /-- an argument without a name after one with a name -/
  | lateArgument
  | openComment
deriving DecidableEq, Repr

/-- The words for a flaw. -/
def Flaw.message : Flaw → String
  | .token flaw => flaw.message
  | .unexpected found => s!"unexpected {Text.quoted found.label}"
  | .expected label .stop => s!"unexpected end of template, expected {Text.quoted label}."
  | .expected label found =>
    s!"expected token {Text.quoted label}, got {Text.quoted found.label}"
  | .noExpression found => s!"Expected an expression, got {Text.quoted found.label}"
  | .noEntryName => "expected name or number"
  | .lateArgument => "invalid syntax for function call expression"
  | .openComment => "Missing end of comment tag"

/-- Why a function does not take its arguments. -/
inductive ArgumentFault where
  /-- a name that no argument has -/
  | unknown (function name : String)
  | repeated (function name : String)
  | tooMany (function : String) (least most given : Nat)
deriving DecidableEq, Repr

/-- The words for a fault. -/
def ArgumentFault.message : ArgumentFault → String
  | .unknown function name => s!"{function}() got an unexpected keyword argument '{name}'"
  | .repeated function name => s!"{function}() got multiple values for argument '{name}'"
  | .tooMany function least most given =>
    let range := if least = most then toString most else s!"from {least} to {most}"
    let plural := if least = 1 && most = 1 then "" else "s"
    s!"{function}() takes {range} positional argument{plural} but {given} were given"

/-- Why a template is not rendered. -/
inductive RenderFault where
  | missingTemplate (name : String)
  | flaw (f : Flaw)
  | unknownFilter (name : String)
  /-- a variable that the context lacks -/
  | undefined (name : String)
  /-- a context with a variable that templates have themselves -/
  | reserved (name : String)
  /-- an entry that a value lacks -/
  | noEntry (kind field : String)
  | noItem (kind index : String)
  | noChoice
  | notIterable (kind : String)
  /-- a filter for texts meets another value -/
  | notText (kind method : String)
  | notAddable (kind : String)
  | notSliceable (kind : String)
  | unhashableSlice
  | notCount (kind : String)
  | arguments (fault : ArgumentFault)
deriving DecidableEq, Repr

/-- The text of a fault. -/
def RenderFault.message : RenderFault → String
  | .missingTemplate name => name
  | .flaw f => f.message
  | .unknownFilter name => s!"No filter named {Text.quoted name}."
  | .undefined name => s!"{Text.quoted name} is undefined"
  | .reserved name => s!"Template.render() got multiple values for argument '{name}'"
  | .noEntry kind field => s!"{Text.quoted kind} has no attribute {Text.quoted field}"
  | .noItem kind index => s!"{kind} has no element {index}"
  | .noChoice =>
    "the inline if-expression on line 1 evaluated to false and no else section was defined."
  | .notIterable kind => s!"'{kind}' object is not iterable"
  | .notText kind method => s!"'{kind}' object has no attribute '{method}'"
  | .notAddable kind => s!"unsupported operand type(s) for +=: '{kind}' and 'str'"
  | .notSliceable kind => s!"'{kind}' object is not subscriptable"
  | .unhashableSlice => "unhashable type: 'slice'"
  | .notCount kind => s!"can't multiply sequence by non-int of type '{kind}'"
  | .arguments fault => fault.message

/-! ## Expressions -/

/-- A filter. -/
inductive Filter where
  | quote
  | comment
  | snakeCase
  | camelCase
  | pascalCase
  | capitalizeFirst
  | join
  | indent
deriving DecidableEq, Repr

namespace Filter

def label : Filter → String
  | quote => "quote"
  | comment => "comment"
  | snakeCase => "snake_case"
  | camelCase => "camel_case"
  | pascalCase => "pascal_case"
  | capitalizeFirst => "capitalize_first"
  | join => "join"
  | indent => "indent"

def all : List Filter :=
  [quote, comment, snakeCase, camelCase, pascalCase, capitalizeFirst, join, indent]

def ofLabel? (name : String) : Option Filter := all.find? (·.label == name)

end Filter

/-- An expression; the arguments of a filter may have names. -/
inductive Expression where
  | constant (v : Json)
  | variable_ (name : String)
  | list (items : List Expression)
  | object (entries : List (Expression × Expression))
  | entry (e : Expression) (name : String)
  | item (e index : Expression)
  | joined (items : List Expression)
  | negated (e : Expression)
  | both (a b : Expression)
  | either (a b : Expression)
  | choice (test yes : Expression) (no : Option Expression)
  | filtered (e : Expression) (filter : String) (arguments : List (Option String × Expression))
deriving Inhabited, Repr

/-! ## Entries -/

/-- What faults call the value that lacks an entry. -/
def ownerLabel (v : Json) : String :=
  match v with
  | .null => "None"
  | v => v.kindName ++ " object"

/-- The value under an entry. -/
def entryOf (v : Json) (field : String) : Except RenderFault Json :=
  match v.field? field with
  | some x => .ok x
  | none => .error (.noEntry (ownerLabel v) field)

/-- The item of a list, or the character of a text, at an index, which counts from
    the end if it is negative. -/
def itemOf (v index : Json) : Except RenderFault Json :=
  match v, index, index.asInt? with
  | v, .str field, _ => entryOf v field
  | .arr _, _, some i | .str _, _, some i =>
    let xs := v.items?.getD []
    let i := if i < 0 then i + xs.length else i
    match if i < 0 then none else xs[i.toNat]? with
    | some x => .ok x
    | none => .error (.noItem (ownerLabel v) index.shown)
  | v, index, _ => .error (.noItem (ownerLabel v) index.shown)

def itemsOf (v : Json) : Except RenderFault (List Json) :=
  match v.items? with
  | some xs => .ok xs
  | none => .error (.notIterable v.kindName)

/-! ## Filters -/

/-- A conversion of a text, which refuses other values. -/
def converted (convert : String → String) : Json → Except RenderFault Json
  | .str s => .ok (.str (convert s))
  | v => .error (.notText v.kindName "replace")

/-- The value with its first character in upper case. -/
def capitalized : Json → Except RenderFault Json
  | .str s => .ok (.str (Naming.capitalizeFirst s))
  | .arr _ => .error (.notText "list" "upper")
  | .obj _ => .error .unhashableSlice
  | v => .error (.notSliceable v.kindName)

/-- The lines of a text with blanks before them: before the first one only if
    `first` says so, and before those that are empty only if `empty` does. -/
def indented (blanks : String) (first empty : Bool) : Json → Except RenderFault Json
  | .str s =>
    match Text.brokenLines (s ++ "\n") with
    | [] => .ok (.str "")
    | l :: ls => .ok (.str ("\n".intercalate ((if first then blanks ++ l else l) ::
        ls.map fun l => if l.isEmpty && !empty then l else blanks ++ l)))
  | .arr _ => .error (.notText "list" "splitlines")
  | v => .error (.notAddable v.kindName)

/-- What indents the lines: a text, or so many blanks. -/
def margin (width : Json) : Except RenderFault String :=
  match width, width.asInt? with
  | .str s, _ => .ok s
  | _, some n => .ok (String.ofList (List.replicate n.toNat ' '))
  | v, none => .error (.notCount v.kindName)

/-- What the function of a filter is called in faults, and the names of its
    arguments: those that every filter gives it, and those that may be added. -/
structure Signature where
  label : String
  given : List String
  optional : List String
deriving DecidableEq, Repr

/-- The functions of the filters. -/
def Filter.signature : Filter → Signature
  | quote => ⟨"TemplateEngine._quote_filter", ["self", "value"], []⟩
  | comment => ⟨"TemplateEngine._comment_filter", ["self", "value"], ["style"]⟩
  | snakeCase => ⟨"to_snake_case", ["name"], []⟩
  | camelCase => ⟨"to_camel_case", ["name"], []⟩
  | pascalCase => ⟨"to_pascal_case", ["name"], []⟩
  | capitalizeFirst => ⟨"capitalize_first", ["name"], []⟩
  | join => ⟨"sync_do_join", ["eval_ctx", "value"], ["d"]⟩
  | indent => ⟨"do_indent", ["s"], ["width", "first", "blank"]⟩

/-- Why a function does not take arguments.  Their names are looked at first. -/
def Signature.fault? (s : Signature) (arguments : List (Option String × Json)) :
    Option ArgumentFault :=
  let names := arguments.filterMap (·.1)
  let given := s.given.length + (arguments.length - names.length)
  let all := s.given ++ s.optional
  let misnamed := names.findSome? fun name =>
    if !all.contains name then some (.unknown s.label name)
    else if (all.take given).contains name then some (.repeated s.label name)
    else none
  misnamed <|> if given > all.length then
    some (.tooMany s.label s.given.length all.length given) else none

/-- The argument at a position, or with a name. -/
def argument? (arguments : List (Option String × Json)) (position : Nat) (name : String) :
    Option Json :=
  ((arguments.filter (·.1.isNone))[position]?.map (·.2)) <|> Entries.get? (some name) arguments

/-- A value after a filter. -/
def Filter.apply (f : Filter) (arguments : List (Option String × Json)) (v : Json) :
    Except RenderFault Json := do
  if let some fault := f.signature.fault? arguments then throw (.arguments fault)
  match f with
  | quote => return .str (literal v.text)
  | comment =>
    let mark := ((argument? arguments 0 "style").getD (.str "#")).text
    return .str (CodecForge.comment mark v.text)
  | snakeCase => converted Naming.toSnake v
  | camelCase => converted Naming.toCamel v
  | pascalCase => converted Naming.toPascal v
  | capitalizeFirst => capitalized v
  | join =>
    let separator := ((argument? arguments 0 "d").getD (.str "")).text
    return .str (separator.intercalate ((← itemsOf v).map (·.text)))
  | indent =>
    let blanks ← margin ((argument? arguments 0 "width").getD (.int 4))
    let flag := fun position name =>
      ((argument? arguments position name).getD (.bool false)).truthy
    indented blanks (flag 1 "first") (flag 2 "blank") v

/-! ## Values -/

/-- The variables of a template. -/
abbrev Context := List (String × Json)

mutual

/-- The value of an expression. -/
def Expression.value (c : Context) : Expression → Except RenderFault Json
  | .constant v => .ok v
  | .variable_ name =>
    match Entries.get? name c with
    | some v => .ok v
    | none => .error (.undefined name)
  | .list es => do return .arr (← valuesOf c es)
  | .object es => do return .obj (Entries.ofPairs (← entriesOf c es))
  | .entry e field => do entryOf (← e.value c) field
  | .item e index => do
    let v ← e.value c
    itemOf v (← index.value c)
  | .joined es => do return .str (String.join ((← valuesOf c es).map (·.text)))
  | .negated e => do return .bool !(← e.value c).truthy
  | .both a b => do
    let v ← a.value c
    if v.truthy then b.value c else return v
  | .either a b => do
    let v ← a.value c
    if v.truthy then return v else b.value c
  | .choice test yes no => do
    if (← test.value c).truthy then yes.value c else
    match no with
    | some no => no.value c
    | none => throw .noChoice
  | .filtered e name arguments => do
    let v ← e.value c
    let arguments ← argumentsOf c arguments
    match Filter.ofLabel? name with
    | some f => f.apply arguments v
    | none => throw (.unknownFilter name)

/-- The values of expressions. -/
def valuesOf (c : Context) : List Expression → Except RenderFault (List Json)
  | [] => .ok []
  | e :: es => do
    let v ← e.value c
    return v :: (← valuesOf c es)

/-- The entries that pairs of expressions denote. -/
def entriesOf (c : Context) :
    List (Expression × Expression) → Except RenderFault (List (String × Json))
  | [] => .ok []
  | (k, e) :: es => do
    let key ← k.value c
    let v ← e.value c
    return (key.text, v) :: (← entriesOf c es)

/-- The values of arguments. -/
def argumentsOf (c : Context) : List (Option String × Expression) →
    Except RenderFault (List (Option String × Json))
  | [] => .ok []
  | (name, e) :: es => do
    let v ← e.value c
    return (name, v) :: (← argumentsOf c es)

end

mutual

/-- The filters of an expression, the outer ones first. -/
def Expression.filters : Expression → List String
  | .constant _ | .variable_ _ => []
  | .list es | .joined es => filtersOf es
  | .object es => entryFilters es
  | .entry e _ | .negated e => e.filters
  | .item a b | .both a b | .either a b => a.filters ++ b.filters
  -- a filter in a choice is looked up only when it is needed
  | .choice .. => []
  | .filtered e name arguments => name :: e.filters ++ argumentFilters arguments

def filtersOf : List Expression → List String
  | [] => []
  | e :: es => e.filters ++ filtersOf es

def entryFilters : List (Expression × Expression) → List String
  | [] => []
  | (k, e) :: es => k.filters ++ e.filters ++ entryFilters es

def argumentFilters : List (Option String × Expression) → List String
  | [] => []
  | (_, e) :: es => e.filters ++ argumentFilters es

end

end CodecForge.Template
