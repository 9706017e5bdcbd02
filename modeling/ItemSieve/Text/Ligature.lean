import ItemSieve.Text.Ligature.Table
import ItemSieve.Text.Width.Table

/-!
# Ligatures

The letters that some scripts write as one sign. A ligature is found from its end (`Ending`): a
character before the end belongs to it if it is the one that the end waits for. Invisible marks
between the two part no ligature; a lam and an alef may have visible marks between them as well.
-/

namespace ItemSieve.Text

/-- An alef, with which a lam before it is written as one letter. -/
def isAlef (c : Char) : Bool :=
  inRanges alefRanges c

/-- A lam. -/
def isLam (c : Char) : Bool :=
  inRanges lamRanges c

/-- A mark that may stand between a lam and an alef. -/
def isArabicMark (c : Char) : Bool :=
  inRanges blankRanges c && !inRanges partingRanges c

/-- A combining mark that is invisible. -/
def isInvisibleMark (c : Char) : Bool :=
  inRanges invisibleMarkRanges c

/-- A Tifinagh consonant. -/
def isConsonant (c : Char) : Bool :=
  inRanges consonantRanges c

/-- The end of a ligature. -/
inductive Ending where
  /-- The Hebrew lamed of alef and lamed. -/
  | lamed
  /-- The Khmer letter that a coeng sign puts below the letter before it. -/
  | subscript
  /-- The Buginese ya. -/
  | ya
  /-- The Buginese vowel sign i and ya. -/
  | iYa
  /-- The second of two Tifinagh consonants. -/
  | consonant
  /-- The same behind the sign that binds it to the first. -/
  | boundConsonant
  /-- The second of two Lisu tone letters. -/
  | tone
  /-- The Old Turkic orkhon i. -/
  | orkhonI
  deriving DecidableEq, Repr

namespace Ending

/-- The end of a ligature that a character makes by itself. -/
def ofChar? (c : Char) : Option Ending :=
  if c == '\u05DC' then some .lamed
  else if inRanges subscriptRanges c then some .subscript
  else if c == '\u1A10' then some .ya
  else if isConsonant c then some .consonant
  else if c == '\uA4FC' || c == '\uA4FD' then some .tone
  else if c.toNat == 0x10C03 then some .orkhonI
  else none

/-- The columns that a character adds to a ligature it belongs to, and the end that it makes with
it, or `none` when it begins the ligature. `joined` tells that a joiner stands between the two. -/
def extend? (c : Char) (joined : Bool) : Ending → Option (Int × Option Ending)
  | .lamed => if joined && c == '\u05D0' then some (0, none) else none
  | .subscript => if c == '\u17D2' then some (-1, none) else none
  | .ya => if joined && c == '\u1A17' then some (0, some .iYa) else none
  | .iYa => if c == '\u1A15' then some (0, none) else none
  | .consonant =>
    if c == '\u2D7F' then some (1, some .boundConsonant)
    else if joined && isConsonant c then some (0, none)
    else none
  | .boundConsonant => if isConsonant c then some (-1, none) else none
  | .tone => if '\uA4F8' ≤ c && c ≤ '\uA4FB' then some (0, none) else none
  | .orkhonI => if joined && c.toNat == 0x10C32 then some (0, none) else none

end Ending

end ItemSieve.Text
