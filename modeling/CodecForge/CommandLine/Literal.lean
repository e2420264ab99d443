/-
  CodecForge — literals in the parameters of a marked-up message.

  A literal is a number, a text in quotes, a word for a truth value or for
  nothing, or a collection of literals in parentheses or braces; literals with
  commas after them are a collection without brackets.

  * `Kind` is what counts of a literal for its place in another one;
  * the readers take tokens from the beginning of a list and give the rest;
  * `room` is how far a literal may still reach into others: every kind of place
    takes its share of `wholeRoom`, and the place after a final comma does, too;
  * `isLiteral` tells whether a text is one literal and nothing else.
-/
import CodecForge.CommandLine.Literal.Token

namespace CodecForge.CommandLine.Literal

/-! ## Kinds -/

/-- What kind of value a literal denotes, as far as its place in other literals
    depends on it. -/
inductive Kind where
  /-- a real number without a sign -/
  | real (isLarge : Bool)
  | signed (isLarge : Bool)
  | imaginary
  | key
  /-- a collection that cannot stand in a set or before a colon -/
  | changeable
  /-- the word for a collection without items, which parentheses must follow -/
  | emptySet
deriving DecidableEq, Repr

/-- Whether a kind of value may stand in a set or before a colon. -/
def Kind.isKey (k : Kind) : Bool := k ≠ .changeable

/-- The kind of a literal with a sign; only numbers have one. -/
def Kind.withSign? : Kind → Option Kind
  | .real isLarge => some (.signed isLarge)
  | .imaginary => some .key
  | _ => none

/-- The kind of a sum: a real number that is not too large, and an imaginary
    one. -/
def Kind.sum? : Kind → Kind → Option Kind
  | .real false, .imaginary | .signed false, .imaginary => some .key
  | _, _ => none

/-- The kind of a collection that cannot change. -/
def Kind.ofItems (areKeys : Bool) : Kind := if areKeys then .key else .changeable

/-! ## Room -/

/-- The room for a literal that stands in no other. -/
def wholeRoom : Nat := 5975

/-- The room in a place that takes a share. -/
def within? (room share : Nat) : Option Nat := if share ≤ room then some (room - share) else none

/-- The shares of the places of a collection: the first, the second and later
    ones. -/
structure Shares where
  first : Nat
  second : Nat
  later : Nat
deriving DecidableEq, Repr

def Shares.ofTuple : Shares := ⟨28, 30, 31⟩

def Shares.ofBraces : Shares := ⟨29, 30, 30⟩

/-- The shares of literals without brackets around them. -/
def Shares.ofLine : Shares := ⟨0, 2, 2⟩

/-- The shares of the places after the first one. -/
def Shares.rest (s : Shares) : Shares := ⟨s.second, s.later, s.later⟩

/-! ## Literals -/

/-- The tokens after texts that go on with a text: they stand for one together. -/
def afterTexts? (isBytes : Bool) : List Token → Option (List Token)
  | .text b :: ts => if b = isBytes then afterTexts? isBytes ts else none
  | ts => some ts

/-- Whether a list of places ends before these tokens. -/
def isEnd : List Token → Bool
  | [] | .mark ')' :: _ | .mark '\x7d' :: _ => true
  | _ => false

/-- The kind of a literal, and the rest. -/
abbrev Found := Option (Kind × List Token)

mutual

/-- A literal that may stand anywhere. -/
def value? (fuel room : Nat) (ts : List Token) : Found :=
  match fuel with
  | 0 => none
  | fuel + 1 =>
    match sum? fuel room ts with
    | some (.emptySet, _) => none
    | found => found

/-- A literal, or a sum of a real number and an imaginary one. -/
def sum? (fuel room : Nat) (ts : List Token) : Found :=
  match fuel with
  | 0 => none
  | fuel + 1 => do
    let (kind, rest) ← signed? fuel room ts
    match rest with
    | .mark '+' :: rest | .mark '-' :: rest =>
      let (other, rest) ← called? fuel room rest
      return (← kind.sum? other, rest)
    | rest => return (kind, rest)

/-- A literal, or a number with a sign. -/
def signed? (fuel room : Nat) (ts : List Token) : Found :=
  match fuel with
  | 0 => none
  | fuel + 1 =>
    match ts with
    | .mark '+' :: ts | .mark '-' :: ts => do
      let (kind, rest) ← called? fuel (← within? room 1) ts
      return (← kind.withSign?, rest)
    | ts => called? fuel room ts

/-- A literal without a sign; parentheses follow the word for a collection
    without items. -/
def called? (fuel room : Nat) (ts : List Token) : Found :=
  match fuel with
  | 0 => none
  | fuel + 1 =>
    match atom? fuel room ts with
    | some (.emptySet, .mark '(' :: .mark ')' :: rest) =>
      (within? room 24).map fun _ => (.changeable, rest)
    | found => found

/-- A single token, or a literal in brackets. -/
def atom? (fuel room : Nat) (ts : List Token) : Found :=
  match fuel with
  | 0 => none
  | fuel + 1 =>
    match ts with
    | .number (.real isLarge) :: rest => some (.real isLarge, rest)
    | .number .imaginary :: rest => some (.imaginary, rest)
    | .constant :: rest => some (.key, rest)
    | .emptySet :: rest => some (.emptySet, rest)
    | .text isBytes :: rest => do
      let _ ← within? room 2
      return (.key, ← afterTexts? isBytes rest)
    | .mark '(' :: ts => round? fuel room ts
    | .mark '\x7b' :: ts => curly? fuel room ts
    | _ => none

/-- A literal or a collection after an opening parenthesis. -/
def round? (fuel room : Nat) (ts : List Token) : Found :=
  match fuel with
  | 0 => none
  | fuel + 1 => do
    let inner ← within? room Shares.ofTuple.first
    match ts with
    | .mark ')' :: rest => return (.key, rest)
    | ts =>
      match ← sum? fuel inner ts with
      | (kind, .mark ')' :: rest) => return (kind, rest)
      | (.emptySet, _) => none
      | (kind, rest) =>
        match ← items? fuel room Shares.ofTuple.rest rest with
        | (areKeys, .mark ')' :: rest) => return (.ofItems (kind.isKey && areKeys), rest)
        | _ => none

/-- A collection after an opening brace. -/
def curly? (fuel room : Nat) (ts : List Token) : Found :=
  match fuel with
  | 0 => none
  | fuel + 1 => do
    let inner ← within? room Shares.ofBraces.first
    match ts with
    | .mark '\x7d' :: rest => return (.changeable, rest)
    | ts =>
      let (kind, rest) ← value? fuel inner ts
      if !kind.isKey then none else
      let (areKeys, rest) ← match rest with
        | .mark ':' :: rest => do
          let (_, rest) ← value? fuel inner rest
          entries? fuel room Shares.ofBraces.rest rest
        | rest => items? fuel room Shares.ofBraces.rest rest
      match rest with
      | .mark '\x7d' :: rest => if areKeys then some (.changeable, rest) else none
      | _ => none

/-- The literals after the first one, each after a comma, and perhaps a final
    comma: whether all of them may stand in a set, and the rest. -/
def items? (fuel room : Nat) (shares : Shares) (ts : List Token) :
    Option (Bool × List Token) :=
  match fuel with
  | 0 => none
  | fuel + 1 =>
    match ts with
    | .mark ',' :: ts => do
      let inner ← within? room shares.first
      if isEnd ts then return (true, ts) else
      let (kind, rest) ← value? fuel inner ts
      let (areKeys, rest) ← items? fuel room shares.rest rest
      return (kind.isKey && areKeys, rest)
    | ts => some (true, ts)

/-- The entries after the first one: whether all of their keys may be keys, and
    the rest. -/
def entries? (fuel room : Nat) (shares : Shares) (ts : List Token) :
    Option (Bool × List Token) :=
  match fuel with
  | 0 => none
  | fuel + 1 =>
    match ts with
    | .mark ',' :: ts => do
      let inner ← within? room shares.first
      if isEnd ts then return (true, ts) else
      match ← value? fuel inner ts with
      | (kind, .mark ':' :: rest) =>
        let (_, rest) ← value? fuel inner rest
        let (areKeys, rest) ← entries? fuel room shares.rest rest
        return (kind.isKey && areKeys, rest)
      | _ => none
    | ts => some (true, ts)

end

/-- Whether tokens are one literal and nothing else.  Between two tokens a few
    steps are taken at most. -/
def isWhole (ts : List Token) : Bool :=
  let fuel := 8 * ts.length + 8
  match value? fuel wholeRoom ts with
  | none => false
  | some (_, rest) =>
    match items? fuel wholeRoom Shares.ofLine.rest rest with
    | some (_, []) => true
    | _ => false

end Literal

/-- Whether a text is one literal and nothing else. -/
def isLiteral (cs : List Char) : Bool := (Literal.tokens? cs).any Literal.isWhole

end CodecForge.CommandLine
