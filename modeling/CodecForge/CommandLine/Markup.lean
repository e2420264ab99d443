/-
  CodecForge — marked-up messages.

  Messages carry tags in brackets that style the text between them.  A console
  without styles shows a message as the text without its tags, with emoji for
  their codes.

  * a tag is `[name]` or `[name=parameters]` with a first character that is a
    lower case letter, a number sign, a slash or an at sign; a backslash before
    it makes it text;
  * `[/name]` closes the last tag of that name and `[/]` the last tag; the
    parameters of a tag for an action, `[@name=parameters]`, are read when it is
    closed;
  * `plainText` is the text of a message, or a `MarkupError`.
-/
import CodecForge.CommandLine.Literal
import CodecForge.CommandLine.Style
import CodecForge.Text.Emoji
import CodecForge.Text.Identifier

namespace CodecForge.CommandLine

/-- What is wrong with a message: a closing tag closes nothing, the parameters of
    an action are no literal, or a part of a colour is no number. -/
inductive MarkupError where
  | closesNothing (tag : String)
  | badParameters (parameters : String)
  | notNumber (style : String)
deriving DecidableEq, Repr

namespace Markup

/-! ## Pieces -/

/-- A piece of a message. -/
inductive Piece where
  | text (cs : List Char)
  | tag (cs : List Char)
deriving DecidableEq, Repr

/-- Whether a tag may begin with a character. -/
def opensTag (c : Char) : Bool := c.isLower || c == '#' || c == '/' || c == '@'

/-- The text of a tag after its opening bracket. -/
def tagAt? (cs : List Char) : Option (List Char) :=
  let inner := cs.takeWhile fun c => c ≠ '[' && c ≠ ']'
  if (cs.head?.any opensTag) && (cs.drop inner.length).head? = some ']' then some inner else none

/-- The pieces of a message after `slashes` backslashes; `cur` is the text
    before, reversed.  Half of the backslashes before a tag are text, and one
    more makes the tag text, too.  Texts that a tag or a backslash sets off are
    pieces of their own. -/
def piecesFrom (cur : List Char) (slashes : Nat) : List Char → List Piece
  | [] => [.text (List.replicate slashes '\\' ++ cur).reverse]
  | '\\' :: cs => piecesFrom cur (slashes + 1) cs
  | '[' :: cs =>
    match tagAt? cs with
    | none =>
      -- a backslash before a bracket that opens no tag is dropped
      piecesFrom ('[' :: (List.replicate (slashes - 1) '\\' ++ cur)) 0 cs
    | some inner =>
      let before := [.text cur.reverse, .text (List.replicate (slashes / 2) '\\')]
      let here : Piece := if slashes % 2 = 1 then .text ('[' :: inner ++ [']']) else .tag inner
      before ++ here :: skipTag cs
  | c :: cs => piecesFrom (c :: (List.replicate slashes '\\' ++ cur)) 0 cs
where
  /-- The pieces after the bracket that closes a tag. -/
  skipTag : List Char → List Piece
    | [] => []
    | c :: cs => if c = ']' then piecesFrom [] 0 cs else skipTag cs

/-! ## Tags -/

/-- A tag that is open: the form of its name that compares, and its parameters. -/
structure Tag where
  name : String
  parameters : Option String
deriving DecidableEq, Repr

/-- Whether a tag stands for an action. -/
def Tag.isAction (t : Tag) : Bool := t.name.toList.head? = some '@'

/-- The style that a tag asks for. -/
def Tag.style (t : Tag) : String :=
  match t.parameters with
  | none => t.name
  | some p => t.name ++ " " ++ p

/-- The name of a tag and its parameters. -/
def cutTag (cs : List Char) : List Char × Option (List Char) :=
  let name := cs.takeWhile (· ≠ '=')
  (name, if (cs.drop name.length).isEmpty then none else some (cs.drop (name.length + 1)))

/-- The form in which a name compares. -/
def nameForm (name : String) : Except MarkupError String :=
  (normalName name).mapError fun _ => .notNumber name

/-- Whether a character may stand in the name of a handler. -/
def isHandlerChar (c : Char) : Bool := Text.isWordChar c || c = '.'

/-- What the parameters of an action give to its handler, whose name may come
    first: nothing if there is but a name. -/
def handlerArguments (cs : List Char) : List Char :=
  match cs.dropWhile isHandlerChar with
  | [] => "()".toList
  | '(' :: rest =>
    if rest.getLast? = some ')' && !rest.contains '\n' then '(' :: rest else cs
  | _ => cs

/-- Checks a tag that is closed. -/
def Tag.close (t : Tag) : Except MarkupError Unit :=
  match t.parameters with
  | none => .ok ()
  | some p =>
    if !t.isAction || p.isEmpty ||
        isLiteral (handlerArguments (Text.strip Text.isBlank p.toList)) then .ok ()
    else .error (.badParameters p)

/-- Takes the first tag with a name out of the tags that are open. -/
def take? (name : String) : List Tag → Option (Tag × List Tag)
  | [] => none
  | t :: ts =>
    if t.name = name then some (t, ts)
    else (take? name ts).map fun (found, ts) => (found, t :: ts)

/-! ## Texts -/

/-- Controls that a console does not show. -/
def isHiddenControl (c : Char) : Bool :=
  let n := c.toNat
  n == 7 || n == 8 || n == 11 || n == 12 || n == 13

/-- A message as it is read: its text, the tags that are open, the last one
    first, and every style that is asked for. -/
structure Reading where
  text : List Char := []
  opened : List Tag := []
  styles : List String := []

/-- The message with another piece. -/
def Reading.add (r : Reading) : Piece → Except MarkupError Reading
  | .text cs => .ok { r with text := r.text ++ Text.withEmoji cs }
  | .tag cs =>
    match cutTag cs with
    | ('/' :: name, _) => do
      let name := Text.trim (String.ofList name)
      let found ← if name.isEmpty then pure (r.opened.head?.map fun t => (t, r.opened.drop 1))
        else (nameForm name).map fun form => take? form r.opened
      match found with
      | none => throw (.closesNothing (String.ofList cs))
      | some (t, opened) =>
        t.close
        return { r with opened }
    | (name, parameters) => do
      let t : Tag := ⟨← nameForm (String.ofList name), parameters.map String.ofList⟩
      return { r with opened := t :: r.opened, styles := r.styles ++ [t.style] }

/-- The text of a message.  Every style that is asked for is read, though none is
    shown. -/
def plainText (message : String) : Except MarkupError String := do
  let r ← (piecesFrom [] 0 message.toList).foldlM Reading.add {}
  r.styles.forM fun s => do discard (nameForm s)
  return String.ofList (r.text.filter fun c => !isHiddenControl c)

end Markup

end CodecForge.CommandLine
