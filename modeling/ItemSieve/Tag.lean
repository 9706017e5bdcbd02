import ItemSieve.Text.Case
import ItemSieve.Text.Space

/-!
# Tags

A tag is a token of a query that a filter takes for itself. Tags are compared in their normal form:
small letters, without white space and apostrophes.
-/

namespace ItemSieve.Tag

/-- The characters that the normal form leaves out. -/
def isDropped (c : Char) : Bool :=
  Text.isSpace c || c == '\x27' || c == '’'

/-- The normal form of a list of characters. -/
def normalChars (s : List Char) : List Char :=
  Text.lower (s.filter (!isDropped ·))

/-- The normal form of a token or of a name. -/
def normal (s : String) : String :=
  .ofList (normalChars s.toList)

/-- How a filter answers a token. -/
inductive Claim where
  /-- The token is a tag of the filter, which follows it from now on. -/
  | claimed
  /-- The filter follows the token, which stands for another tag. -/
  | resolved
  /-- The token is no tag of the filter, which stays as it is. -/
  | rejected
  deriving DecidableEq, Repr

/-- The filter took the token. -/
def Claim.isConsumed : Claim → Bool
  | claimed | resolved => true
  | rejected => false

end ItemSieve.Tag
