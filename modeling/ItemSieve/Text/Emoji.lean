import ItemSieve.Text.Emoji.Table

/-!
# Emoji

The parts that characters play in an emoji. Some are an emoji by themselves (`isEmoji`), others
become one in the style that a variation selector asks for (`Style`). A skin tone colours the emoji
before it, two letters make a flag, a joiner ties an emoji to the next one, and tags behind a black
flag spell the region that the flag is of.
-/

namespace ItemSieve.Text

/-- The character that ties what stands before it to what stands behind it. -/
def joiner : Char := '\u200D'

/-- The mark of a key around the character before it. -/
def keycap : Char := '\u20E3'

/-- The flag that tags turn into the flag of a region. -/
def blackFlag : Char := .ofNat 0x1F3F4

/-- The tag behind the last tag of a flag. -/
def lastTag : Char := .ofNat 0xE007F

/-- A letter of the name of a region, in tags. -/
def isTagLetter (c : Char) : Bool :=
  0xE0061 ≤ c.toNat && c.toNat ≤ 0xE007A

/-- A digit of the name of a region, in tags. -/
def isTagDigit (c : Char) : Bool :=
  0xE0030 ≤ c.toNat && c.toNat ≤ 0xE0039

/-- One of the letters of which two make a flag. -/
def isFlagLetter (c : Char) : Bool :=
  0x1F1E6 ≤ c.toNat && c.toNat ≤ 0x1F1FF

/-- One of the five skin colours. -/
def isSkinTone (c : Char) : Bool :=
  0x1F3FB ≤ c.toNat && c.toNat ≤ 0x1F3FF

/-- The character is shown in the colour of a skin tone behind it. -/
def takesSkinTone (c : Char) : Bool :=
  inRanges skinRanges c

/-- The character is shown as an emoji unless asked otherwise. -/
def isEmoji (c : Char) : Bool :=
  inRanges emojiRanges c

/-- The character has an emoji style and a text style. -/
def isRestyled (c : Char) : Bool :=
  inRanges restyledRanges c

/-- An ideograph in a square, which is as wide in the text style as in the emoji style. -/
def isSquaredIdeograph (c : Char) : Bool :=
  0x1F200 ≤ c.toNat && c.toNat < 0x1F300

/-- A quotation mark that has a fullwidth style. -/
def isQuote (c : Char) : Bool :=
  c == '\u2018' || c == '\u2019' || c == '\u201C' || c == '\u201D'

/-- The style that a variation selector asks for in the character before it. -/
inductive Style where
  | emoji
  | text
  | fullwidth
  deriving DecidableEq, Repr

namespace Style

/-- The style that a character asks for, if it is a variation selector that matters to the width. -/
def ofChar? (c : Char) : Option Style :=
  if c == '\uFE0F' then some .emoji
  else if c == '\uFE0E' then some .text
  else if c == '\uFE01' then some .fullwidth
  else none

/-- The columns of a character shown in a style, if the style is one of the character's and its
columns differ from those without a style. -/
def columns? (c : Char) : Style → Option Nat
  | .emoji => if isRestyled c then some 2 else none
  | .text => if isRestyled c && isEmoji c && !isSquaredIdeograph c then some 1 else none
  | .fullwidth => if isQuote c then some 2 else none

end Style

end ItemSieve.Text
