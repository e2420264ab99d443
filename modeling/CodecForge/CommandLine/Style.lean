/-
  CodecForge — styles of text on a console.

  A style is written in words: attributes, `not` before one that is turned off,
  a colour, `on` before the colour behind the text, and `link` before an
  address.

  * `Style.read` reads a style, `Style.text` writes it with the words in a fixed
    order;
  * `normalName` is the form in which the names of styles compare: two names of
    one style have the same.
-/
import CodecForge.Number.Integer
import CodecForge.Text.Case
import CodecForge.Text.Lines

namespace CodecForge.CommandLine

/-- Why a text is no style: a word means nothing, or a part of a colour is no
    number. -/
inductive StyleFault where
  | notStyle
  | notNumber
deriving DecidableEq, Repr

namespace Style

/-! ## Colours -/

/-- The names of colours. -/
def colorRows : List String :=
  ["black red green yellow blue magenta cyan white bright_black bright_red bright_green",
    "bright_yellow bright_blue bright_magenta bright_cyan bright_white grey0 gray0 navy_blue",
    "dark_blue blue3 blue1 dark_green deep_sky_blue4 dodger_blue3 dodger_blue2 green4",
    "spring_green4 turquoise4 deep_sky_blue3 dodger_blue1 green3 spring_green3 dark_cyan",
    "light_sea_green deep_sky_blue2 deep_sky_blue1 spring_green2 cyan3 dark_turquoise",
    "turquoise2 green1 spring_green1 medium_spring_green cyan2 cyan1 dark_red deep_pink4",
    "purple4 purple3 blue_violet orange4 grey37 gray37 medium_purple4 slate_blue3 royal_blue1",
    "chartreuse4 dark_sea_green4 pale_turquoise4 steel_blue steel_blue3 cornflower_blue",
    "chartreuse3 cadet_blue sky_blue3 steel_blue1 pale_green3 sea_green3 aquamarine3",
    "medium_turquoise chartreuse2 sea_green2 sea_green1 aquamarine1 dark_slate_gray2",
    "dark_magenta dark_violet purple light_pink4 plum4 medium_purple3 slate_blue1 yellow4",
    "wheat4 grey53 gray53 light_slate_grey light_slate_gray medium_purple light_slate_blue",
    "dark_olive_green3 dark_sea_green light_sky_blue3 sky_blue2 dark_sea_green3",
    "dark_slate_gray3 sky_blue1 chartreuse1 light_green pale_green1 dark_slate_gray1 red3",
    "medium_violet_red magenta3 dark_orange3 indian_red hot_pink3 medium_orchid3",
    "medium_orchid medium_purple2 dark_goldenrod light_salmon3 rosy_brown grey63 gray63",
    "medium_purple1 gold3 dark_khaki navajo_white3 grey69 gray69 light_steel_blue3",
    "light_steel_blue yellow3 dark_sea_green2 light_cyan3 light_sky_blue1 green_yellow",
    "dark_olive_green2 dark_sea_green1 pale_turquoise1 deep_pink3 magenta2 hot_pink2 orchid",
    "medium_orchid1 orange3 light_pink3 pink3 plum3 violet light_goldenrod3 tan misty_rose3",
    "thistle3 plum2 khaki3 light_goldenrod2 light_yellow3 grey84 gray84 light_steel_blue1",
    "yellow2 dark_olive_green1 honeydew2 light_cyan1 red1 deep_pink2 deep_pink1 magenta1",
    "orange_red1 indian_red1 hot_pink dark_orange salmon1 light_coral pale_violet_red1",
    "orchid2 orchid1 orange1 sandy_brown light_salmon1 light_pink1 pink1 plum1 gold1",
    "navajo_white1 misty_rose1 thistle1 yellow1 light_goldenrod1 khaki1 wheat1 cornsilk1",
    "grey100 gray100 grey3 gray3 grey7 gray7 grey11 gray11 grey15 gray15 grey19 gray19 grey23",
    "gray23 grey27 gray27 grey30 gray30 grey35 gray35 grey39 gray39 grey42 gray42 grey46",
    "gray46 grey50 gray50 grey54 gray54 grey58 gray58 grey62 gray62 grey66 gray66 grey70",
    "gray70 grey74 gray74 grey78 gray78 grey82 gray82 grey85 gray85 grey89 gray89 grey93",
    "gray93 default"]

def colorNames : List String := colorRows.flatMap Text.words

/-- The text between an opening word and a closing parenthesis. -/
def between? (word : String) (cs : List Char) : Option (List Char) :=
  if word.toList.isPrefixOf cs && cs.getLast? = some ')' then
    some (cs.drop word.length).dropLast
  else none

/-- Whether a text is a number sign and six hexadecimal digits. -/
def isHexColor : List Char → Bool
  | '#' :: ds => ds.length = 6 && ds.all fun c => c.isDigit || ('a' ≤ c && c ≤ 'f')
  | _ => false

/-- Whether a text is the number of a colour, of three digits at most. -/
def isColorNumber (ds : List Char) : Bool :=
  !ds.isEmpty && ds.length ≤ 3 && ds.all Char.isDigit && (readDigits ds).any (· ≤ 255)

/-- Checks the three parts of a colour. -/
def checkMixed (ds : List Char) : Except StyleFault Unit :=
  if ds.isEmpty || !ds.all fun c => c = ',' || (digitValue? c).isSome then .error .notStyle else
  match Text.splitOn ',' ds with
  | [r, g, b] =>
    match [r, g, b].mapM readDigits with
    | none => .error .notNumber
    | some parts => if parts.all (· ≤ 255) then .ok () else .error .notStyle
  | _ => .error .notStyle

/-- The colour that a word names. -/
def colorOf (word : String) : Except StyleFault String :=
  let name := Text.lowerString word
  let cs := name.toList
  if colorNames.contains name || isHexColor cs then .ok name else
  match between? "color(" cs, between? "rgb(" cs with
  | some ds, _ => if isColorNumber ds then .ok name else .error .notStyle
  | _, some ds => (checkMixed ds).map fun _ => name
  | _, _ => .error .notStyle

/-! ## Attributes -/

/-- The attributes in the order in which they are written, with their short
    names. -/
def attributeOrder : List (String × Option String) :=
  [("bold", some "b"), ("dim", some "d"), ("italic", some "i"), ("underline", some "u"),
    ("blink", none), ("blink2", none), ("reverse", some "r"), ("conceal", some "c"),
    ("strike", some "s"), ("underline2", some "uu"), ("frame", none), ("encircle", none),
    ("overline", some "o")]

/-- The attribute with a name. -/
def attribute? (name : String) : Option String :=
  (attributeOrder.find? fun a => a.1 = name || a.2 = some name).map (·.1)

end Style

/-! ## Styles -/

/-- A style; an attribute is on, off or not stated. -/
structure Style where
  attributes : List (String × Bool) := []
  color : Option String := none
  background : Option String := none
  link : Option String := none
deriving DecidableEq, Repr

namespace Style

/-- Turns an attribute on or off; the last time counts. -/
def turn (s : Style) (name : String) (on : Bool) : Style :=
  { s with attributes := (name, on) :: s.attributes.filter (·.1 ≠ name) }

/-- The style with a word that stands for itself. -/
def addWord (s : Style) (word : String) : Except StyleFault Style :=
  match attribute? word with
  | some a => .ok (s.turn a true)
  | none => do return { s with color := some (← colorOf word) }

/-- The style with further words. -/
def addWords (s : Style) : List String → Except StyleFault Style
  | [] => .ok s
  | [word] => s.addWord (Text.lowerString word)
  | word :: next :: words =>
    match Text.lowerString word with
    | "on" => do addWords { s with background := some (← colorOf next) } words
    | "not" =>
      match attribute? next with
      | some a => addWords (s.turn a false) words
      | none => .error .notStyle
    | "link" => addWords { s with link := some next } words
    | word => do addWords (← s.addWord word) (next :: words)

/-- The style that a text states. -/
def read (text : String) : Except StyleFault Style :=
  match Text.words text with
  | ["none"] => .ok {}
  | words => addWords {} words

/-- The words of a style. -/
def text (s : Style) : String :=
  let attributes := attributeOrder.filterMap fun (name, _) =>
    (s.attributes.find? (·.1 = name)).map fun (_, on) => if on then name else "not " ++ name
  let words := attributes ++ s.color.toList ++ s.background.toList.map ("on " ++ ·) ++
    s.link.toList.map ("link " ++ ·)
  if words.isEmpty then "none" else " ".intercalate words

end Style

/-- The form in which names of styles compare: the words of a style, and the name
    in lower case if it is no style. -/
def normalName (name : String) : Except StyleFault String :=
  match Style.read name with
  | .ok s => .ok s.text
  | .error .notStyle => .ok (Text.lowerString (Text.trim name))
  | .error .notNumber => .error .notNumber

end CodecForge.CommandLine
