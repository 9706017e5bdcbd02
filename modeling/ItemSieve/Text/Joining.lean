import ItemSieve.Text.Emoji
import ItemSieve.Text.Ligature

/-!
# Joining

Neighbouring characters can be shown as one: a carriage return and a line feed, the parts of an
emoji, the letters of a ligature. Whether a character is depends on what stands behind it, so a text
is read from its end, and what has been read is to the character before it no more than a `Start`.
`Start.join?` says what a character makes with the start behind it, and `Start.ofChar` what it makes
alone.
-/

namespace ItemSieve.Text

/-- What stands between a joiner, which ties it to an emoji, and the character before it. -/
inductive Tied where
  | nothing
  | keycap
  /-- One letter of a flag. -/
  | flagLetter
  /-- The letters of one or more flags. -/
  | flags
  /-- The same and one letter more. -/
  | flagsAndLetter
  /-- So many letters of the tags of a flag, and the last tag. -/
  | tagLetters (count : Nat)
  /-- So many digits of the tags of a flag, and the other tags up to the last one. -/
  | tagDigits (count : Nat)
  deriving DecidableEq, Repr

/-- What the start of a text is to the character before it. -/
inductive Start where
  /-- Nothing: the character is shown by itself. -/
  | plain
  | lineFeed
  | emoji
  | skinTone
  /-- One letter of a flag. -/
  | flagLetter
  /-- Two or more letters of flags. -/
  | flagLetters
  /-- What a joiner ties to an emoji. -/
  | tied (t : Tied)
  /-- An alef, with which a lam is one letter. -/
  | alef
  /-- The Kirat Rai vowel sign e. -/
  | signE
  /-- The Kirat Rai vowel sign ai, which is two of the former. -/
  | signAi
  /-- The end of a ligature, perhaps with a joiner before it. -/
  | ligature (e : Ending) (joined : Bool)
  deriving DecidableEq, Repr

namespace Start

/-- The start that a character makes by itself. -/
def ofChar (c : Char) : Start :=
  if c == '\n' then .lineFeed
  else if isAlef c then .alef
  else if c.toNat == 0x16D67 then .signE
  else if c.toNat == 0x16D68 then .signAi
  else if isFlagLetter c then .flagLetter
  else if isSkinTone c then .skinTone
  else if isEmoji c then .emoji
  else
    match Ending.ofChar? c with
    | some e => .ligature e false
    | none => .plain

/-- The start belongs to a ligature, which no variation selector parts. -/
def isLigature : Start → Bool
  | .alef => true
  | .ligature _ _ => true
  | _ => false

/-- The start behind a variation selector that has no effect on the character before it. -/
def behindSelector (start : Start) : Start :=
  if start.isLigature then start else .plain

/-- The start that a variation selector makes. A joiner ties the character before it all the same if
the style is that of an emoji. -/
def select (s : Style) : Start → Start
  | .tied .nothing => if s = .emoji then .tied .nothing else .plain
  | .tied .keycap => if s = .emoji then .tied .keycap else .plain
  | start => start.behindSelector

/-- The start is tied to an emoji, so an emoji that it ends takes no columns besides those. -/
def isTied : Start → Bool
  | .tied _ => true
  | _ => false

/-- The columns that a character adds before what is tied to an emoji and the start that both make,
if it belongs to what is tied. A flag of two letters is shown in the columns of the emoji it is tied
to, so its second letter, met first, counts one column and its first letter takes it back. -/
def tie? (c : Char) : Tied → Option (Int × Start)
  | .nothing =>
    if c == Text.keycap then some (0, .tied .keycap)
    else if isFlagLetter c then some (1, .tied .flagLetter)
    else if isSkinTone c then some (0, .skinTone)
    else if c == lastTag then some (0, .tied (.tagLetters 0))
    else if isEmoji c then some (0, .emoji)
    else none
  | .keycap => none
  | .flagLetter => if isFlagLetter c then some (-1, .tied .flags) else none
  | .flags =>
    if isFlagLetter c then some (3, .tied .flagsAndLetter)
    else if c == joiner then some (0, .tied .nothing)
    else none
  | .flagsAndLetter =>
    if isFlagLetter c then some (-1, .tied .flags)
    else if c == joiner then some (0, .tied .nothing)
    else none
  | .tagLetters n =>
    if isTagLetter c && n < 6 then some (0, .tied (.tagLetters (n + 1)))
    else if isTagDigit c && n < 5 then some (0, .tied (.tagDigits 1))
    else if c == blackFlag && 3 ≤ n then some (0, .emoji)
    else none
  | .tagDigits n =>
    if isTagDigit c && n < 3 then some (0, .tied (.tagDigits (n + 1)))
    else if c == blackFlag && n == 3 then some (0, .emoji)
    else none

/-- The columns that a character adds before a start and the start that both make, if they are shown
as one. -/
def join? (c : Char) : Start → Option (Int × Start)
  | .plain => none
  | .lineFeed => if c == '\r' then some (0, .plain) else none
  | .emoji => if c == joiner then some (0, .tied .nothing) else none
  | .skinTone =>
    if takesSkinTone c then some (0, .emoji)
    else if c == joiner then some (0, .tied .nothing)
    else none
  | .flagLetter => if isFlagLetter c then some (1, .flagLetters) else none
  | .flagLetters =>
    if isFlagLetter c then some (1, .flagLetters)
    else if c == joiner then some (0, .tied .nothing)
    else none
  | .tied t => tie? c t
  | .alef =>
    if isLam c then some (0, .plain)
    else if isArabicMark c then some (0, .alef)
    else none
  | .signE =>
    if c.toNat == 0x16D63 || c.toNat == 0x16D69 then some (0, .plain)
    else if c.toNat == 0x16D67 then some (0, .signAi)
    else if c.toNat == 0x16D68 then some (1, .signE)
    else none
  | .signAi => if c.toNat == 0x16D63 then some (0, .plain) else none
  | .ligature e joined =>
    if c == joiner then some (0, .ligature e true)
    else if isInvisibleMark c then some (0, .ligature e joined)
    else
      match e.extend? c joined with
      | some (n, some e) => some (n, .ligature e joined)
      | some (n, none) => some (n, .plain)
      | none => none

end Start

end ItemSieve.Text
