/-
  CodecForge — templates as trees.

  A template is text with values in it, with parts that are there only under a
  condition, and with parts that are repeated for the items of a value.

  * `Node.render` is the text of a part under a context, `renderAll` that of
    several; parts are rendered from left to right, so that the first fault is
    that of the first part with one;
  * `readTemplate` reads a text with values between double braces, and with
    comments.
-/
import CodecForge.Template.Grammar

namespace CodecForge.Template

/-! ## Trees -/

/-- A part of a template. -/
inductive Node where
  | text (s : String)
  | value (e : Expression)
  | branch (test : Expression) (yes no : List Node)
  | loop (name : String) (items : Expression) (body : List Node)
deriving Inhabited, Repr

/-- The context in a loop: the item has a name, and `loop` tells whether it is the
    first or the last one. -/
def loopContext (c : Context) (name : String) (index count : Nat) (item : Json) : Context :=
  (name, item) ::
    ("loop", .obj [("first", .bool (index == 0)), ("last", .bool (index + 1 == count))]) :: c

mutual

/-- The text of a part under a context. -/
def Node.render : Node → Context → Except RenderFault String
  | .text s, _ => .ok s
  | .value e, c => do return (← e.value c).text
  | .branch test yes no, c => do
    if (← test.value c).truthy then renderAll yes c else renderAll no c
  | .loop name items body, c => do
    let xs ← itemsOf (← items.value c)
    let texts ← xs.zipIdx.mapM fun (x, i) => renderAll body (loopContext c name i xs.length x)
    return String.join texts

/-- The text of parts under a context. -/
def renderAll : List Node → Context → Except RenderFault String
  | [], _ => .ok ""
  | n :: ns, c => do
    let s ← n.render c
    return s ++ (← renderAll ns c)

end

/-- The text of a template under a context, which must leave the name of the
    template itself alone. -/
def renderTemplate (ns : List Node) (c : Context) : Except RenderFault String :=
  if Entries.has "self" c then .error (.reserved "self") else renderAll ns c

/-! ## Reading -/

/-- What stands at the end of a comment: how many characters it takes, with the
    blanks or the line feed that go with it. -/
def commentEnd? (cs : List Char) : Option Nat :=
  let blanks := fun n => n + ((cs.drop n).takeWhile Text.isBlank).length
  if ['+', '#', '\x7d'].isPrefixOf cs then some 3
  else if ['-', '#', '\x7d'].isPrefixOf cs then some (blanks 3)
  else if ['#', '\x7d'].isPrefixOf cs then
    some (if (cs.drop 2).head? = some '\n' then 3 else 2)
  else none

/-- The place after the comment that text of a template begins with. -/
def afterComment (position : Nat) : List Char → Except Flaw Place
  | [] => .error .openComment
  | c :: cs =>
    match commentEnd? (c :: cs) with
    | some n => .ok (Place.after ⟨c :: cs, position⟩ n)
    | none => afterComment (position + 1) cs

/-- The text before a sign that takes the blanks before it away. -/
def beforeSign (sign : Option Char) (cur : List Char) : String :=
  String.ofList (if sign = some '-' then cur.dropWhile Text.isBlank else cur).reverse

/-- The text before a comment: blanks that begin its line are dropped. -/
def beforeComment (sign : Option Char) (atLineStart : Bool) (cur : List Char) : String :=
  if sign = some '-' || sign = some '+' then beforeSign sign cur else
  let line := cur.takeWhile (· ≠ '\n')
  let startsLine := line.length < cur.length || atLineStart
  String.ofList (if startsLine && line.all Text.isBlank then cur.drop line.length else cur).reverse

/-- The sign that two opening characters carry, if there is one. -/
def signAt (p : Place) : Option Char := p.chars.head?.filter fun c => c = '-' || c = '+'

/-- The parts of a template from a place on; `cur` is the text before, reversed,
    and `atLineStart` tells whether that text begins a line. -/
def nodesFrom (fuel : Nat) (atLineStart : Bool) (cur : List Char) (p : Place) :
    Except Flaw (List Node) :=
  match fuel with
  | 0 => .ok [.text (String.ofList cur.reverse)]
  | fuel + 1 =>
    match p.chars with
    | [] => .ok [.text (String.ofList cur.reverse)]
    | '{' :: '{' :: _ => do
      let p := p.after 2
      let sign := signAt p
      let (ts, rest) := tokens (p.after sign.toList.length)
      let e ← readPrint ts
      return .text (beforeSign sign cur) :: .value e :: (← nodesFrom fuel false [] rest)
    | '{' :: '#' :: _ => do
      let p := p.after 2
      let sign := signAt p
      let inner := p.after sign.toList.length
      -- a comment that begins at the very end of the text may stay open
      let rest ← if inner.chars.isEmpty then pure inner
        else afterComment inner.position inner.chars
      let atStart := (inner.chars.take (rest.position - inner.position)).getLast? = some '\n'
      return .text (beforeComment sign atLineStart cur) :: (← nodesFrom fuel atStart [] rest)
    | c :: cs => nodesFrom fuel atLineStart (c :: cur) ⟨cs, p.position + 1⟩

/-- The filters that parts of a template name. -/
def filtersIn (ns : List Node) : List String :=
  ns.flatMap fun
    | .value e => e.filters
    | _ => []

/-- The parts of a text; every line break counts as a line feed. -/
def readTemplate (source : String) : Except RenderFault (List Node) := do
  let p : Place := ⟨Text.unifyLineFeeds source.toList, 0⟩
  let ns ← (nodesFrom (p.chars.length + 1) true [] p).mapError .flaw
  match (filtersIn ns).find? fun name => (Filter.ofLabel? name).isNone with
  | some name => throw (.unknownFilter name)
  | none => return ns

/-- The text of a text with values under a context. -/
def renderText (source : String) (c : Context) : Except RenderFault String := do
  renderTemplate (← readTemplate source) c

end CodecForge.Template
