/-!
# White space

`isSpace` is the Unicode property White_Space. `trim` drops it at both ends of a text, `words` cuts
a text at it.
-/

namespace ItemSieve.Text

/-- The characters with the Unicode property White_Space. -/
def isSpace (c : Char) : Bool :=
  let n := c.toNat
  9 ≤ n && n ≤ 13 || n == 0x20 || n == 0x85 || n == 0xA0 || n == 0x1680 ||
    0x2000 ≤ n && n ≤ 0x200A || n == 0x2028 || n == 0x2029 || n == 0x202F || n == 0x205F ||
    n == 0x3000

/-- The text without the white space at its start and at its end. -/
def trim (s : List Char) : List Char :=
  ((s.dropWhile isSpace).reverse.dropWhile isSpace).reverse

/-- The text without the white space at its start and at its end. -/
def trimmed (s : String) : String :=
  .ofList (trim s.toList)

/-- The maximal stretches without white space, in order. -/
def words (s : List Char) : List (List Char) :=
  (s.splitOnP isSpace).filter (!·.isEmpty)

/-- The trimmed stretches between the occurrences of `c`, in order, without the empty ones. -/
def fields (c : Char) (s : List Char) : List (List Char) :=
  ((s.splitOnP (· == c)).map trim).filter (!·.isEmpty)

end ItemSieve.Text
