/-
  CodecForge — emoji by their names.

  A code is a name between colons without blanks, perhaps with a hyphen and the
  presentation that is wanted: `:key:`, `:key-text:`.

  * `emoji?` is the emoji with a name;
  * `codeAt?` is the code after a colon, `EmojiCode.text?` what it stands for;
  * `withEmoji` puts emoji for the codes in a text.  A code that names no emoji
    stays as it is.
-/
import CodecForge.Text.Blank
import CodecForge.Text.Case
import CodecForge.Text.EmojiTable
import CodecForge.Text.Lines

namespace CodecForge.Text

/-! ## Names -/

/-- The words of a row in pairs. -/
def pairsOf : List String → List (String × String)
  | name :: emoji :: words => (name, emoji) :: pairsOf words
  | _ => []

/-- The emoji of one form with their names. -/
def emojiNames : List (String × String) := emojiRows.flatMap fun row => pairsOf (parts ' ' row)

/-- The emoji in the tones of skin with their names. -/
def tonedEmojiNames : List (String × String) :=
  tonedEmojiRows.flatMap fun row => pairsOf (parts ' ' row)

/-- The character that asks for an emoji in colours. -/
def pictorial : Char := Char.ofNat 0xFE0F

/-- The character that asks for an emoji in one colour. -/
def textual : Char := Char.ofNat 0xFE0E

/-- An emoji in a tone: the modifier stands for the wish for colours. -/
def toned (tone : Char) : List Char → List Char
  | [] => []
  | c :: cs => c :: tone :: if cs.head? = some pictorial then cs.drop 1 else cs

/-- The emoji in a tone that a name states. -/
def inTone? (name : String) : Option (List Char) :=
  skinTones.findSome? fun (tone, modifier) => do
    let ending := ("_" ++ tone ++ "_skin_tone").toList
    let cs := name.toList
    let base := cs.take (cs.length - ending.length)
    if ending.isSuffixOf cs then
      let (_, emoji) ← tonedEmojiNames.find? (·.1 == String.ofList base)
      return toned modifier emoji.toList
    else none

/-- The emoji with a name. -/
def emoji? (name : String) : Option (List Char) :=
  match (tonedEmojiNames ++ emojiNames).find? (·.1 == name) with
  | some (_, emoji) => some emoji.toList
  | none => inTone? name

/-! ## Codes -/

/-- What stands between two colons. -/
structure EmojiCode where
  name : List Char
  presentation : Option Char
deriving DecidableEq, Repr

/-- What a code stands for, its name in any letter case. -/
def EmojiCode.text? (code : EmojiCode) : Option (List Char) :=
  (emoji? (lowerString (String.ofList code.name))).map (· ++ code.presentation.toList)

/-- The presentations with their words, up to the colon. -/
def presentations : List (List Char × Char) :=
  [("-emoji:".toList, pictorial), ("-text:".toList, textual)]

/-- The code at the beginning of the text after a colon, and how many characters
    it takes with the colon that ends it; `name` is the name so far, reversed. -/
def codeAt? (name : List Char) : List Char → Option (EmojiCode × Nat)
  | [] => none
  | c :: cs =>
    match presentations.find? fun p => p.1.isPrefixOf (c :: cs) with
    | some (word, p) => some (⟨name.reverse, some p⟩, name.length + word.length)
    | none =>
      if c = ':' then some (⟨name.reverse, none⟩, name.length + 1)
      else if isBlank c then none
      else codeAt? (c :: name) cs

/-- The text after `skip` characters with emoji for its codes. -/
def withEmojiFrom : Nat → List Char → List Char
  | _, [] => []
  | skip + 1, _ :: cs => withEmojiFrom skip cs
  | 0, c :: cs =>
    match if c = ':' then codeAt? [] cs else none with
    | none => c :: withEmojiFrom 0 cs
    | some (code, n) => (code.text?.getD (c :: cs.take n)) ++ withEmojiFrom n cs

/-- The text with emoji for its codes. -/
def withEmoji (cs : List Char) : List Char := withEmojiFrom 0 cs

end CodecForge.Text
