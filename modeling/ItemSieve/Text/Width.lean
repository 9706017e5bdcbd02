import ItemSieve.Text.Joining

/-!
# Display width

How many columns a text takes on a terminal, and cutting a text to a number of columns. `columns` is
the width of a character that is shown by itself; `width` is the width of a text, in which
neighbouring characters may be shown as one.
-/

namespace ItemSieve.Text

/-- The columns of a character: none for a control character, which has no width of its own, and
otherwise at most three. Three are those of the Khmer sign beyyal. -/
def columns (c : Char) : Option Nat :=
  if c.toNat < 0x20 || 0x7F ≤ c.toNat && c.toNat < 0xA0 then none
  else if c == '\u17D8' then some 3
  else if inRanges blankRanges c then some 0
  else if inRanges wideRanges c then some 2
  else some 1

/-! ## The width of a text -/

/-- What has been read of a text from its end: its columns, what its start is to the character
before it, and the styles that the start asks for in that character, the latest first. -/
structure Reading where
  columns : Int
  start : Start
  styles : List Style
  deriving DecidableEq, Repr

namespace Reading

/-- The end of every text. -/
def empty : Reading :=
  ⟨0, .plain, []⟩

/-- The reading before a character that has none of the styles asked for. An emoji style is asked of
one character only; what other selectors ask for may still have its effect. -/
def unstyled (r : Reading) : Reading :=
  if r.styles.isEmpty then r
  else ⟨r.columns, r.start.behindSelector, r.styles.filter (· ≠ .emoji)⟩

/-- The reading with a variation selector in front. The end of a ligature keeps what other selectors
ask for. -/
def select (s : Style) (r : Reading) : Reading :=
  ⟨r.columns, r.start.select s, s :: if r.start.isLigature then r.styles else []⟩

/-- The reading with one character more in front, shown without a style. A control character counts
as one column. -/
def put (c : Char) (r : Reading) : Reading :=
  match r.start.join? c with
  | some (n, start) => ⟨r.columns + n, start, []⟩
  | none => ⟨r.columns + (Text.columns c).getD 1, .ofChar c, []⟩

/-- The reading with one character more in front, shown in a style in which it takes `n` columns. -/
def putStyled (s : Style) (n : Nat) (r : Reading) : Reading :=
  if s = .emoji then ⟨r.columns + if r.start.isTied then 0 else n, .emoji, []⟩
  else ⟨r.columns + n, .plain, []⟩

/-- The reading with one character more in front. -/
def extend (c : Char) (r : Reading) : Reading :=
  match r.styles.findSome? fun s => (s.columns? c).map fun n => (s, n) with
  | some (s, n) => r.putStyled s n
  | none =>
    match Style.ofChar? c with
    | some s => r.unstyled.select s
    | none => r.unstyled.put c

end Reading

/-- The columns of a text. -/
def width (s : List Char) : Nat :=
  (s.foldr Reading.extend .empty).columns.toNat

/-! ## Cutting and padding -/

/-- The longest start of the text whose characters, each shown by itself, fit into `room` columns. A
control character needs none. -/
def fitting (room : Nat) : List Char → List Char
  | [] => []
  | c :: rest =>
    let need := (columns c).getD 0
    if need ≤ room then c :: fitting (room - need) rest else []

/-- The text if it fits into `limit` columns, and otherwise its longest start that leaves a column
for an ellipsis, with the ellipsis. -/
def truncate (limit : Nat) (s : List Char) : List Char :=
  if width s ≤ limit then s else fitting (limit - 1) s ++ ['…']

/-- The text moved to the right end of a field of `size` characters. -/
def padLeft (size : Nat) (s : List Char) : List Char :=
  List.replicate (size - s.length) ' ' ++ s

/-- The text moved to the left end of a field of `size` characters. -/
def padRight (size : Nat) (s : List Char) : List Char :=
  s ++ List.replicate (size - s.length) ' '

end ItemSieve.Text
