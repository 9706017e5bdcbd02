import ItemSieve.Json.Number

/-!
# Values that nobody reads

`skipValue` passes over a value of any kind and any depth, checking only that it is JSON. The
brackets open around the place reached are kept in a list, so the depth costs no recursion.
-/

namespace ItemSieve.Json

/-- An open bracket. -/
inductive Bracket where
  | array
  | object

/-- The bracket that closes it. -/
def Bracket.closing : Bracket → Char
  | array => ']'
  | object => '\x7d'

/-- The text behind the name of a member and its colon. -/
def skipName (fuel : Nat) (s : List Char) : Except Fault (List Char) := do
  punctuation ':' (← skipQuoted fuel (← punctuation '"' s))

mutual

/-- The text behind a value and behind the brackets `opened` around it. -/
def skipValue : (fuel : Nat) → (opened : List Bracket) → List Char → Except Fault (List Char)
  | 0, _, _ => .error .truncated
  | fuel + 1, opened, s =>
    match skipBlank s with
    | [] => .error .truncated
    | 'n' :: s => do skipRest fuel opened (← expect ['u', 'l', 'l'] s)
    | 't' :: s => do skipRest fuel opened (← expect ['r', 'u', 'e'] s)
    | 'f' :: s => do skipRest fuel opened (← expect ['a', 'l', 's', 'e'] s)
    | '"' :: s => do skipRest fuel opened (← skipQuoted (fuel + 1) s)
    | '[' :: s =>
      match skipBlank s with
      | [] => .error .truncated
      | ']' :: s => skipRest fuel opened s
      | s => skipValue fuel (.array :: opened) s
    | '\x7b' :: s =>
      match skipBlank s with
      | [] => .error .truncated
      | '\x7d' :: s => skipRest fuel opened s
      | s => do skipValue fuel (.object :: opened) (← skipName (fuel + 1) s)
    | c :: s =>
      if c == '-' || c.isDigit then do skipRest fuel opened (← skipNumber (c :: s))
      else .error .malformed

/-- The text behind the brackets `opened`, a value in the innermost having just been passed. -/
def skipRest : (fuel : Nat) → (opened : List Bracket) → List Char → Except Fault (List Char)
  | _, [], s => .ok s
  | 0, _ :: _, _ => .error .truncated
  | fuel + 1, bracket :: opened, s =>
    match skipBlank s with
    | [] => .error .truncated
    | ',' :: s =>
      match bracket with
      | .array => skipValue fuel (.array :: opened) s
      | .object => do skipValue fuel (.object :: opened) (← skipName (fuel + 1) s)
    | c :: s => if c == bracket.closing then skipRest fuel opened s else .error .malformed

end

end ItemSieve.Json
