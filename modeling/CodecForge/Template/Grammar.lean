/-
  CodecForge — reading expressions of templates.

  * `readExpression` reads the expression at the beginning of tokens and gives
    the tokens after it; `readPrint` reads one that two closing braces end;
  * the loosest parts come first: a choice, `or`, `and`, `not`, `~`, and at last
    a value with its entries and filters.
-/
import CodecForge.Template.Expression

namespace CodecForge.Template

namespace Grammar

/-! ## Tokens -/

/-- The first of the tokens. -/
def first (ts : List Token) : Token := ts.headD .stop

/-- The tokens, the first of which must not be broken. -/
def checked (ts : List Token) : Except Flaw (List Token) :=
  match first ts with
  | .broken flaw => .error (.token flaw)
  | _ => .ok ts

/-- The tokens after the first one. -/
def next (ts : List Token) : Except Flaw (List Token) := checked (ts.drop 1)

/-- The tokens after one that must come first. -/
def expect (t : Token) (ts : List Token) : Except Flaw (List Token) :=
  if first ts = t then next ts else .error (.expected t.label (first ts))

/-- The name that must come first. -/
def expectName (ts : List Token) : Except Flaw (String × List Token) :=
  match first ts with
  | .name s => do return (s, ← next ts)
  | t => .error (.expected "name" t)

/-- The words that stand for a constant. -/
def constants : List (String × Json) :=
  [("true", .bool true), ("True", .bool true), ("false", .bool false), ("False", .bool false),
    ("none", .null), ("None", .null)]

/-- The texts that go on with a text: they stand for one together. -/
def moreTexts (s : String) : List Token → Except Flaw (String × List Token)
  | .text t :: ts => moreTexts (s ++ t) ts
  | ts => do return (s, ← checked ts)

/-! ## Expressions -/

mutual

/-- A value, or a choice of values.  Between two tokens that are taken a few steps
    are made at most, and every step spends one unit of `fuel`. -/
def expression (fuel : Nat) (ts : List Token) : Except Flaw (Expression × List Token) :=
  match fuel with
  | 0 => .error (.unexpected (first ts))
  | fuel + 1 => do
    let (e, ts) ← disjunction fuel ts
    choices fuel e ts

/-- What goes on with a value: `if` with its test, perhaps `else` with another
    value. -/
def choices (fuel : Nat) (e : Expression) (ts : List Token) :
    Except Flaw (Expression × List Token) :=
  match fuel with
  | 0 => .error (.unexpected (first ts))
  | fuel + 1 => do
    if first ts ≠ .name "if" then return (e, ts)
    let (test, ts) ← disjunction fuel (← next ts)
    if first ts ≠ .name "else" then choices fuel (.choice test e none) ts
    else
      let (no, ts) ← expression fuel (← next ts)
      choices fuel (.choice test e (some no)) ts

/-- Values with `or` between them. -/
def disjunction (fuel : Nat) (ts : List Token) : Except Flaw (Expression × List Token) :=
  match fuel with
  | 0 => .error (.unexpected (first ts))
  | fuel + 1 => do
    let (e, ts) ← conjunction fuel ts
    moreDisjuncts fuel e ts

def moreDisjuncts (fuel : Nat) (e : Expression) (ts : List Token) :
    Except Flaw (Expression × List Token) :=
  match fuel with
  | 0 => .error (.unexpected (first ts))
  | fuel + 1 => do
    if first ts ≠ .name "or" then return (e, ts)
    let (other, ts) ← conjunction fuel (← next ts)
    moreDisjuncts fuel (.either e other) ts

/-- Values with `and` between them. -/
def conjunction (fuel : Nat) (ts : List Token) : Except Flaw (Expression × List Token) :=
  match fuel with
  | 0 => .error (.unexpected (first ts))
  | fuel + 1 => do
    let (e, ts) ← negation fuel ts
    moreConjuncts fuel e ts

def moreConjuncts (fuel : Nat) (e : Expression) (ts : List Token) :
    Except Flaw (Expression × List Token) :=
  match fuel with
  | 0 => .error (.unexpected (first ts))
  | fuel + 1 => do
    if first ts ≠ .name "and" then return (e, ts)
    let (other, ts) ← negation fuel (← next ts)
    moreConjuncts fuel (.both e other) ts

/-- A value, perhaps after `not`. -/
def negation (fuel : Nat) (ts : List Token) : Except Flaw (Expression × List Token) :=
  match fuel with
  | 0 => .error (.unexpected (first ts))
  | fuel + 1 => do
    if first ts = .name "not" then
      let (e, ts) ← negation fuel (← next ts)
      return (.negated e, ts)
    let (e, ts) ← filtered fuel ts
    if first ts ≠ .operator "~" then return (e, ts)
    let (es, ts) ← moreParts fuel ts
    return (.joined (e :: es), ts)

/-- The parts of a text after the first one. -/
def moreParts (fuel : Nat) (ts : List Token) : Except Flaw (List Expression × List Token) :=
  match fuel with
  | 0 => .error (.unexpected (first ts))
  | fuel + 1 => do
    if first ts ≠ .operator "~" then return ([], ts)
    let (e, ts) ← filtered fuel (← next ts)
    let (es, ts) ← moreParts fuel ts
    return (e :: es, ts)

/-- A value with its entries and filters. -/
def filtered (fuel : Nat) (ts : List Token) : Except Flaw (Expression × List Token) :=
  match fuel with
  | 0 => .error (.unexpected (first ts))
  | fuel + 1 => do
    let (e, ts) ← primary fuel ts
    let (e, ts) ← entries fuel e ts
    filters fuel e ts

/-- A value by itself. -/
def primary (fuel : Nat) (ts : List Token) : Except Flaw (Expression × List Token) :=
  match fuel with
  | 0 => .error (.unexpected (first ts))
  | fuel + 1 =>
    match first ts with
    | .name s => do
      let ts ← next ts
      match Entries.get? s constants with
      | some v => return (.constant v, ts)
      | none => return (.variable_ s, ts)
    | .text s => do
      let (s, ts) ← moreTexts s (ts.drop 1)
      return (.constant (.str s), ts)
    | .integer n => do return (.constant (.int n), ← next ts)
    | .decimal x => do return (.constant (.float x), ← next ts)
    | .operator "(" => do
      let (e, ts) ← expression fuel (← next ts)
      return (e, ← expect (.operator ")") ts)
    | .operator "[" => do
      let (es, ts) ← listItems fuel (← next ts)
      return (.list es, ts)
    | .operator "\x7b" => do
      let (es, ts) ← objectEntries fuel (← next ts)
      return (.object es, ts)
    | t => .error (.unexpected t)

/-- The items of a list and its closing bracket. -/
def listItems (fuel : Nat) (ts : List Token) : Except Flaw (List Expression × List Token) :=
  match fuel with
  | 0 => .error (.unexpected (first ts))
  | fuel + 1 => do
    if first ts = .operator "]" then return ([], ← next ts)
    let (e, ts) ← expression fuel ts
    if first ts = .operator "]" then return ([e], ← next ts)
    let (es, ts) ← listItems fuel (← expect (.operator ",") ts)
    return (e :: es, ts)

/-- The entries of an object and its closing brace. -/
def objectEntries (fuel : Nat) (ts : List Token) :
    Except Flaw (List (Expression × Expression) × List Token) :=
  match fuel with
  | 0 => .error (.unexpected (first ts))
  | fuel + 1 => do
    if first ts = .operator "\x7d" then return ([], ← next ts)
    let (key, ts) ← expression fuel ts
    let (e, ts) ← expression fuel (← expect (.operator ":") ts)
    if first ts = .operator "\x7d" then return ([(key, e)], ← next ts)
    let (es, ts) ← objectEntries fuel (← expect (.operator ",") ts)
    return ((key, e) :: es, ts)

/-- The entries that are looked up in a value. -/
def entries (fuel : Nat) (e : Expression) (ts : List Token) :
    Except Flaw (Expression × List Token) :=
  match fuel with
  | 0 => .error (.unexpected (first ts))
  | fuel + 1 =>
    match first ts with
    | .operator "." => do
      let ts ← next ts
      let rest ← next ts
      match first ts with
      | .name field => entries fuel (.entry e field) rest
      | .integer n => entries fuel (.item e (.constant (.int n))) rest
      | _ => .error .noEntryName
    | .operator "[" => do
      let (index, ts) ← expression fuel (← next ts)
      entries fuel (.item e index) (← expect (.operator "]") ts)
    | _ => .ok (e, ts)

/-- The filters that a value goes through. -/
def filters (fuel : Nat) (e : Expression) (ts : List Token) :
    Except Flaw (Expression × List Token) :=
  match fuel with
  | 0 => .error (.unexpected (first ts))
  | fuel + 1 => do
    if first ts ≠ .operator "|" then return (e, ts)
    let (name, ts) ← expectName (← next ts)
    let (name, ts) ← longName fuel name ts
    if first ts ≠ .operator "(" then filters fuel (.filtered e name []) ts
    else
      let (given, ts) ← arguments fuel false (← next ts)
      filters fuel (.filtered e name given) ts

/-- The parts of a name after points. -/
def longName (fuel : Nat) (name : String) (ts : List Token) : Except Flaw (String × List Token) :=
  match fuel with
  | 0 => .error (.unexpected (first ts))
  | fuel + 1 => do
    if first ts ≠ .operator "." then return (name, ts)
    let (part, ts) ← expectName (← next ts)
    longName fuel (name ++ "." ++ part) ts

/-- The arguments of a filter and their closing parenthesis.  Once one has a name
    (`named`), all that follow have names. -/
def arguments (fuel : Nat) (named : Bool) (ts : List Token) :
    Except Flaw (List (Option String × Expression) × List Token) :=
  match fuel with
  | 0 => .error (.unexpected (first ts))
  | fuel + 1 => do
    if first ts = .operator ")" then return ([], ← next ts)
    let (name, ts) ← match ts with
      | .name s :: .operator "=" :: rest => do pure (some s, ← checked rest)
      | ts => if named then throw .lateArgument else pure (none, ts)
    let (e, ts) ← expression fuel ts
    if first ts = .operator ")" then return ([(name, e)], ← next ts)
    let (es, ts) ← arguments fuel name.isSome (← expect (.operator ",") ts)
    return ((name, e) :: es, ts)

end

end Grammar

/-- The expression at the beginning of tokens. -/
def readExpression (ts : List Token) : Except Flaw (Expression × List Token) := do
  Grammar.expression (16 * ts.length + 16) (← Grammar.checked ts)

/-- The expression that closing braces end. -/
def readPrint (ts : List Token) : Except Flaw Expression := do
  if Grammar.first ts = .close then throw (.noExpression .close)
  let (e, ts) ← readExpression ts
  discard (Grammar.expect .close ts)
  return e

end CodecForge.Template
