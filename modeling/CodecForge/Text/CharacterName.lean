/-
  CodecForge — names of characters.

  A character has a name in one of three ways, and `isCharacterName` tells whether
  a text is such a name:

  * `isListed` names stand in a table; small letters do as well as capitals;
  * `isSyllableName` names tell how a Hangul syllable sounds: a consonant, a vowel
    and a consonant, of which the consonants may be silent;
  * `isIdeographName` names end in the number of a unified ideograph.
-/
import CodecForge.Text.CharacterNameTable

namespace CodecForge.Text

/-! ## The table -/

/-- Whether nothing of a name follows in a table. -/
def isNameEnd (cs : List Char) : Bool := cs.head?.all fun c => c.isLower || c = '\n'

/-- Whether a name is one of those that a table tells; `last` is the name that it
    has told so far.  Of both, the last character is the first. -/
def isAmong (sought last : List Char) : List Char → Bool
  | [] => false
  | c :: cs =>
    if c = ' ' || c = '\n' then isAmong sought last cs
    else if c.isLower then isAmong sought (last.drop (c.toNat - 97)) cs
    else
      let last := (if c = '_' then ' ' else c) :: last
      (isNameEnd cs && last = sought) || isAmong sought last cs

/-- Whether a name stands in the table of names. -/
def isListed (name : List Char) : Bool :=
  isAmong (name.map Char.toUpper).reverse [] characterNames.toList

/-! ## Names by rule -/

/-- What follows a beginning, if a text has it. -/
def afterBeginning? (beginning : String) (cs : List Char) : Option (List Char) :=
  if beginning.toList.isPrefixOf cs then some (cs.drop beginning.length) else none

/-- The consonants before the vowel of a syllable. -/
def leadingSounds : List String :=
  ["G", "GG", "N", "D", "DD", "R", "M", "B", "BB", "S", "SS", "", "J", "JJ", "C", "K", "T", "P",
    "H"]

/-- The vowels of syllables. -/
def vowelSounds : List String :=
  ["A", "AE", "YA", "YAE", "EO", "E", "YEO", "YE", "O", "WA", "WAE", "OE", "YO", "U", "WEO", "WE",
    "WI", "YU", "EU", "YI", "I"]

/-- The consonants after the vowel of a syllable. -/
def trailingSounds : List String :=
  ["", "G", "GG", "GS", "N", "NJ", "NH", "D", "L", "LG", "LM", "LB", "LS", "LT", "LP", "LH", "M",
    "B", "BS", "S", "SS", "NG", "J", "C", "K", "T", "P", "H"]

/-- Whether a name is the one of a Hangul syllable. -/
def isSyllableName (name : List Char) : Bool :=
  (afterBeginning? "HANGUL SYLLABLE " name).any fun sounds =>
    leadingSounds.any fun lead => (afterBeginning? lead sounds).any fun sounds =>
      vowelSounds.any fun vowel => (afterBeginning? vowel sounds).any fun sounds =>
        trailingSounds.contains (String.ofList sounds)

/-- The ranges of the unified ideographs. -/
def ideographRanges : List (Nat × Nat) :=
  [(0x3400, 0x4DBF), (0x4E00, 0x9FFF), (0x20000, 0x2A6DF), (0x2A700, 0x2B738),
    (0x2B740, 0x2B81D), (0x2B820, 0x2CEA1), (0x2CEB0, 0x2EBE0), (0x30000, 0x3134A)]

/-- The value of a digit of base 16 with a capital letter. -/
def capitalDigit? (c : Char) : Option Nat :=
  if c.isDigit then some (c.toNat - 48)
  else if 'A' ≤ c && c ≤ 'F' then some (c.toNat - 55)
  else none

/-- Whether a name is the one of a unified ideograph: its number has four digits or
    five. -/
def isIdeographName (name : List Char) : Bool :=
  (afterBeginning? "CJK UNIFIED IDEOGRAPH-" name).any fun ds =>
    (ds.length = 4 || ds.length = 5) && (ds.mapM capitalDigit?).any fun ns =>
      let n := ns.foldl (fun m d => m * 16 + d) 0
      ideographRanges.any fun (first, last) => first ≤ n && n ≤ last

/-- Whether a text is the name of a character. -/
def isCharacterName (name : List Char) : Bool :=
  isSyllableName name || isIdeographName name || isListed name

end CodecForge.Text
