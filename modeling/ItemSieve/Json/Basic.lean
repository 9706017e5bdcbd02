/-!
# JSON values and their texts

`Json` is a JSON value whose numbers are natural. `Json.write` is its text in a `Layout`, which says
what stands before each member and element: nothing (`Layout.compact`) or a line break with two
spaces a level (`Layout.lines`).
-/

namespace ItemSieve

/-- A JSON value. An object keeps the order of its members. -/
inductive Json where
  | null
  | flag (b : Bool)
  | number (n : Nat)
  | text (s : String)
  | array (items : List Json)
  | object (members : List (String × Json))
  deriving Inhabited

namespace Json

/-- The white space of a written value. -/
structure Layout where
  /-- What stands before a member, an element or a closing bracket of the given depth. -/
  newline : Nat → List Char
  /-- What stands between the colon of a member and its value. -/
  gap : List Char

/-- No white space at all. -/
def Layout.compact : Layout where
  newline _ := []
  gap := []

/-- A line for each member and element, indented by two spaces a level. -/
def Layout.lines : Layout where
  newline depth := '\n' :: List.replicate (2 * depth) ' '
  gap := [' ']

/-- How a character is written inside a quoted text. The quote, the backslash and the control
characters below the space are escaped, the last by their short names where they have one. -/
def escape (c : Char) : List Char :=
  if c == '"' then ['\\', '"']
  else if c == '\\' then ['\\', '\\']
  else if c == '\x08' then ['\\', 'b']
  else if c == '\t' then ['\\', 't']
  else if c == '\n' then ['\\', 'n']
  else if c == '\x0c' then ['\\', 'f']
  else if c == '\r' then ['\\', 'r']
  else if c.toNat < 0x20 then
    ['\\', 'u', '0', '0', Nat.digitChar (c.toNat / 16), Nat.digitChar (c.toNat % 16)]
  else [c]

/-- A text between quotes. -/
def quote (s : String) : List Char :=
  '"' :: s.toList.flatMap escape ++ ['"']

mutual

/-- The text of a value that stands at the given depth. -/
def write (layout : Layout) (depth : Nat) : Json → List Char
  | null => ['n', 'u', 'l', 'l']
  | flag true => ['t', 'r', 'u', 'e']
  | flag false => ['f', 'a', 'l', 's', 'e']
  | number n => n.repr.toList
  | text s => quote s
  | array [] => ['[', ']']
  | array (v :: rest) =>
    '[' :: writeItems layout (depth + 1) (v :: rest) ++ layout.newline depth ++ [']']
  | object [] => ['\x7b', '\x7d']
  | object (m :: rest) =>
    '\x7b' :: writeMembers layout (depth + 1) (m :: rest) ++ layout.newline depth ++ ['\x7d']

/-- The elements of an array, with commas between them. -/
def writeItems (layout : Layout) (depth : Nat) : List Json → List Char
  | [] => []
  | [v] => layout.newline depth ++ write layout depth v
  | v :: w :: rest =>
    layout.newline depth ++ write layout depth v ++ ',' :: writeItems layout depth (w :: rest)

/-- The members of an object, with commas between them. -/
def writeMembers (layout : Layout) (depth : Nat) : List (String × Json) → List Char
  | [] => []
  | [(k, v)] =>
    layout.newline depth ++ quote k ++ ':' :: layout.gap ++ write layout depth v
  | (k, v) :: m :: rest =>
    layout.newline depth ++ quote k ++ ':' :: layout.gap ++ write layout depth v ++
      ',' :: writeMembers layout depth (m :: rest)

end

/-- The text of a whole value. -/
def render (layout : Layout) (v : Json) : String :=
  .ofList (write layout 0 v)

end Json

end ItemSieve
