import ItemSieve.Json.Lexeme

/-!
# Number lexemes of JSON

`readNumber` reads a number and tells whether it is a natural one. A number with a sign, a fraction
or an exponent is none; it is read all the same, since a number too large for a double has to be
refused as malformed. `skipNumber` only looks at the shape.
-/

namespace ItemSieve.Json

/-- Gathers leading digits into a significand below `2 ^ 64`, and returns the digits that no longer
fit. -/
def gather (significand : Nat) : List Char → Nat × List Char
  | [] => (significand, [])
  | d :: ds =>
    let next := significand * 10 + (d.toNat - '0'.toNat)
    if next < UInt64.size then gather next ds else (significand, d :: ds)

/-- The nearest number with 53 binary digits before its trailing zeros, of two the even one. -/
def nearestDouble (n : Nat) : Nat :=
  let unit := Nat.pow 2 (n.log2 - 52)
  let (q, r) := (n / unit, n % unit)
  if unit < 2 * r || unit == 2 * r && q % 2 == 1 then (q + 1) * unit else q * unit

/-- The product of the doubles next to `significand` and to `10 ^ exponent` is beyond the largest
double. -/
def tooLarge (significand : Nat) (exponent : Int) : Bool :=
  significand != 0 &&
    (308 < exponent ||
      0 ≤ exponent &&
        Nat.pow 2 1024 - Nat.pow 2 970 ≤
          nearestDouble significand * nearestDouble (Nat.pow 10 exponent.toNat))

/-- The end of a number that is no natural one. -/
def finish (significand : Nat) (exponent : Int) (s : List Char) :
    Except Fault (Option Nat × List Char) :=
  if tooLarge significand exponent then .error .malformed else .ok (none, s)

/-- An exponent, from behind its mark on. -/
def exponentPart (significand : Nat) (exponent : Int) (s : List Char) :
    Except Fault (Option Nat × List Char) :=
  let (sign, s) : Int × List Char :=
    match s with
    | '+' :: s => (1, s)
    | '-' :: s => (-1, s)
    | s => (1, s)
  match s with
  | [] => .error .truncated
  | d :: _ =>
    if d.isDigit then
      let power := Nat.ofDigitChars 10 (s.takeWhile Char.isDigit) 0
      finish significand (exponent + sign * power) (s.dropWhile Char.isDigit)
    else .error .malformed

/-- What follows the digits of a fraction. -/
def afterFraction (significand : Nat) (exponent : Int) (s : List Char) :
    Except Fault (Option Nat × List Char) :=
  match s with
  | 'e' :: s | 'E' :: s => exponentPart significand exponent s
  | s => finish significand exponent s

/-- A fraction, from behind its point on. -/
def fractionPart (significand : Nat) (exponent : Int) (s : List Char) :
    Except Fault (Option Nat × List Char) :=
  let ds := s.takeWhile Char.isDigit
  let rest := s.dropWhile Char.isDigit
  if ds.isEmpty then .error (if rest.isEmpty then .truncated else .malformed)
  else
    let (significand, dropped) := gather significand ds
    afterFraction significand (exponent - (ds.length - dropped.length : Nat)) rest

/-- What follows the leading digits of a number. Digits that the significand did not take count as
powers of ten. -/
def afterInteger (positive : Bool) (significand : Nat) (dropped s : List Char) :
    Except Fault (Option Nat × List Char) :=
  match s with
  | '.' :: s => fractionPart significand dropped.length s
  | 'e' :: s | 'E' :: s => exponentPart significand dropped.length s
  | s =>
    if dropped.isEmpty && positive then .ok (some significand, s)
    else finish significand dropped.length s

/-- The digits of a number, which start with a zero only if it is the only one. -/
def unsigned (positive : Bool) : List Char → Except Fault (Option Nat × List Char)
  | [] => .error .truncated
  | '0' :: s =>
    match s with
    | d :: _ => if d.isDigit then .error .malformed else afterInteger positive 0 [] s
    | [] => afterInteger positive 0 [] s
  | d :: s =>
    if d.isDigit then
      let ds := (d :: s).takeWhile Char.isDigit
      let (significand, dropped) := gather 0 ds
      afterInteger positive significand dropped ((d :: s).dropWhile Char.isDigit)
    else .error .malformed

/-- A number: `some n` for the natural number `n` below `2 ^ 64`, `none` for any other. -/
def readNumber : List Char → Except Fault (Option Nat × List Char)
  | '-' :: s => unsigned false s
  | s => unsigned true s

/-! ## Numbers that are only skipped -/

/-- The text behind a digit and all that follow it. -/
def skipDigits : List Char → Except Fault (List Char)
  | [] => .error .malformed
  | d :: s => if d.isDigit then .ok (s.dropWhile Char.isDigit) else .error .malformed

/-- The text behind an exponent, if one stands here. -/
def skipExponent : List Char → Except Fault (List Char)
  | 'e' :: s | 'E' :: s =>
    match s with
    | '+' :: s | '-' :: s => skipDigits s
    | s => skipDigits s
  | s => .ok s

/-- The text behind a fraction and an exponent, if they stand here. -/
def skipFraction : List Char → Except Fault (List Char)
  | '.' :: s => do skipExponent (← skipDigits s)
  | s => skipExponent s

/-- The text behind a number without its sign. -/
def skipUnsigned : List Char → Except Fault (List Char)
  | '0' :: s =>
    match s with
    | d :: _ => if d.isDigit then .error .malformed else skipFraction s
    | [] => .ok []
  | s => do skipFraction (← skipDigits s)

/-- The text behind a number. -/
def skipNumber : List Char → Except Fault (List Char)
  | '-' :: s => skipUnsigned s
  | s => skipUnsigned s

end ItemSieve.Json
