/-!
# The lexemes of JSON

Readers for white space, punctuation, literal words and quoted texts. A reader takes the text from
its first character on and returns what is left behind the lexeme, or the first `Fault` met. `fuel`
bounds the turns of a loop; the number of characters of the text is always enough.
-/

namespace ItemSieve.Json

/-- Why a text is no value of the wanted kind: the fault that stands first in it. -/
inductive Fault where
  /-- The text is no JSON. -/
  | malformed
  /-- The text ends inside a value. -/
  | truncated
  /-- The value is of another kind, is out of range, or has a member twice or not at all. -/
  | mismatched
  deriving DecidableEq, Repr

/-- White space between lexemes. -/
def isBlank (c : Char) : Bool :=
  c == ' ' || c == '\n' || c == '\t' || c == '\r'

/-- The text behind its leading white space. -/
def skipBlank (s : List Char) : List Char :=
  s.dropWhile isBlank

/-- The text behind the given characters. -/
def expect : List Char → List Char → Except Fault (List Char)
  | [], s => .ok s
  | _ :: _, [] => .error .truncated
  | w :: ws, c :: s => if c == w then expect ws s else .error .malformed

/-- The text behind white space and one given character. -/
def punctuation (mark : Char) (s : List Char) : Except Fault (List Char) :=
  expect [mark] (skipBlank s)

/-! ## Quoted texts -/

/-- The value of a hexadecimal digit. -/
def hexValue? (c : Char) : Option Nat :=
  if c.isDigit then some (c.toNat - '0'.toNat)
  else if 'a' ≤ c && c ≤ 'f' then some (c.toNat - 'a'.toNat + 10)
  else if 'A' ≤ c && c ≤ 'F' then some (c.toNat - 'A'.toNat + 10)
  else none

/-- The number of four hexadecimal digits. The text is truncated only when fewer than four bytes are
left, whatever they are. -/
def hexFour : List Char → Except Fault (Nat × List Char)
  | a :: b :: c :: d :: rest =>
    match hexValue? a, hexValue? b, hexValue? c, hexValue? d with
    | some a, some b, some c, some d => .ok (((a * 16 + b) * 16 + c) * 16 + d, rest)
    | _, _, _, _ => .error .malformed
  | s => .error (if (s.map Char.utf8Size).foldl (· + ·) 0 < 4 then .truncated else .malformed)

/-- A character that an escape writes as itself or by its short name. -/
def shortEscape? : Char → Option Char
  | '"' => some '"'
  | '\\' => some '\\'
  | '/' => some '/'
  | 'b' => some '\x08'
  | 'f' => some '\x0c'
  | 'n' => some '\n'
  | 'r' => some '\r'
  | 't' => some '\t'
  | _ => none

/-- The character whose first UTF-16 unit is `unit`. A leading surrogate has to be followed by the
escape of a trailing one, and a trailing surrogate has no business here. -/
def charOfUnit (unit : Nat) (s : List Char) : Except Fault (Char × List Char) :=
  if unit < 0xD800 || 0xDFFF < unit then .ok (.ofNat unit, s)
  else if 0xDC00 ≤ unit then .error .malformed
  else do
    let (low, rest) ← hexFour (← expect ['\\', 'u'] s)
    if 0xDC00 ≤ low && low ≤ 0xDFFF then
      .ok (.ofNat ((unit - 0xD800) * 0x400 + (low - 0xDC00) + 0x10000), rest)
    else .error .malformed

/-- The character of an escape, from behind its backslash on. -/
def escaped : List Char → Except Fault (Char × List Char)
  | [] => .error .truncated
  | 'u' :: s => do
    let (unit, rest) ← hexFour s
    charOfUnit unit rest
  | c :: s =>
    match shortEscape? c with
    | some c => .ok (c, s)
    | none => .error .malformed

/-- The characters up to the closing quote. -/
def readQuoted : (fuel : Nat) → List Char → Except Fault (List Char × List Char)
  | 0, _ => .error .truncated
  | _ + 1, [] => .error .truncated
  | fuel + 1, c :: s =>
    if c == '"' then .ok ([], s)
    else if c == '\\' then do
      let (c, s) ← escaped s
      let (cs, s) ← readQuoted fuel s
      .ok (c :: cs, s)
    else if c.toNat < 0x20 then .error .malformed
    else do
      let (cs, s) ← readQuoted fuel s
      .ok (c :: cs, s)

/-- The text behind the closing quote. Escapes of UTF-16 units stand alone here: no pair of
surrogates is asked for. -/
def skipQuoted : (fuel : Nat) → List Char → Except Fault (List Char)
  | 0, _ => .error .truncated
  | _ + 1, [] => .error .truncated
  | fuel + 1, c :: s =>
    if c == '"' then .ok s
    else if c == '\\' then
      match s with
      | [] => .error .truncated
      | 'u' :: s => do skipQuoted fuel (← hexFour s).2
      | e :: s => if (shortEscape? e).isSome then skipQuoted fuel s else .error .malformed
    else if c.toNat < 0x20 then .error .malformed
    else skipQuoted fuel s

end ItemSieve.Json
