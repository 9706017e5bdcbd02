/-!
# Decimal numerals

Reading of numbers that a user types: ASCII digits, leading zeros allowed, and at most a plus sign
before them.
-/

namespace ItemSieve.Text

/-- The number written by a nonempty list of ASCII digits. -/
def digits? (s : List Char) : Option Nat :=
  if !s.isEmpty && s.all Char.isDigit then some (Nat.ofDigitChars 10 s 0) else none

/-- The number written by digits, after an optional plus sign. -/
def natural? : List Char → Option Nat
  | '+' :: rest => digits? rest
  | s => digits? s

/-- The number below `2 ^ 32` that the text writes. -/
def word? (s : String) : Option UInt32 :=
  (natural? s.toList).bind fun n => if n < UInt32.size then some (.ofNat n) else none

end ItemSieve.Text
