import ItemSieve.Json.Basic
import ItemSieve.Json.Skip

/-!
# Codecs

A `Codec` writes the values of a type as JSON and reads them back from a text. Reading goes through
the text once, from the left, and stops at the first `Fault`; so a text with two faults is refused
for the one that stands first.

A record (`Codec.record`) is written as an object. It is read from an object, whose members may
stand in any order and of which unknown ones are skipped, or from an array of the values of its
fields. A field that is missing keeps the value of a blank record, unless it is required.
-/

namespace ItemSieve.Json

/-- Reads a value at the start of a text and returns what is left behind it. `fuel` bounds the turns
of every loop; the number of characters of the text is always enough. -/
abbrev Reader (α : Type) := (fuel : Nat) → List Char → Except Fault (α × List Char)

/-- A way to write the values of `α` and to read them. -/
structure Codec (α : Type) where
  encode : α → Json
  read : Reader α

/-- The fault of a text at a place where it starts with a value of the wrong kind. A bracket is
enough to know the kind of an array or object; any other value is read first. -/
def wrongKind (fuel : Nat) : List Char → Fault
  | [] => .truncated
  | 'n' :: s => faultOf (expect ['u', 'l', 'l'] s)
  | 't' :: s => faultOf (expect ['r', 'u', 'e'] s)
  | 'f' :: s => faultOf (expect ['a', 'l', 's', 'e'] s)
  | '"' :: s => faultOf (readQuoted fuel s)
  | '[' :: _ | '\x7b' :: _ => .mismatched
  | c :: s => if c == '-' || c.isDigit then faultOf (readNumber (c :: s)) else .malformed
where
  /-- The fault met, and a mismatch if there was none. -/
  faultOf {α : Type} : Except Fault α → Fault
    | .error f => f
    | .ok _ => .mismatched

namespace Codec

variable {α σ : Type}

/-! ## Scalars -/

/-- A natural number below `2 ^ 32`. -/
def word : Codec UInt32 where
  encode n := .number n.toNat
  read fuel s :=
    match skipBlank s with
    | [] => .error .truncated
    | c :: s =>
      if c == '-' || c.isDigit then do
        let (n?, rest) ← readNumber (c :: s)
        match n? with
        | some n => if n < UInt32.size then .ok (.ofNat n, rest) else .error .mismatched
        | none => .error .mismatched
      else .error (wrongKind fuel (c :: s))

/-- A text. -/
def text : Codec String where
  encode s := .text s
  read fuel s :=
    match skipBlank s with
    | '"' :: s => do
      let (cs, rest) ← readQuoted fuel s
      .ok (.ofList cs, rest)
    | s => .error (wrongKind fuel s)

/-- A truth value. -/
def flag : Codec Bool where
  encode b := .flag b
  read fuel s :=
    match skipBlank s with
    | 't' :: s => do .ok (true, ← expect ['r', 'u', 'e'] s)
    | 'f' :: s => do .ok (false, ← expect ['a', 'l', 's', 'e'] s)
    | s => .error (wrongKind fuel s)

/-- A text of one character. -/
def letter : Codec Char where
  encode c := .text (.singleton c)
  read fuel s := do
    let (t, rest) ← text.read fuel s
    match t.toList with
    | [c] => .ok (c, rest)
    | _ => .error .mismatched

/-- One of the values `all`, written as its name. An object whose only member has that name and no
value is read as well. -/
def choice (name : α → String) (all : List α) : Codec α where
  encode a := .text (name a)
  read fuel s :=
    match skipBlank s with
    | [] => .error .truncated
    | '"' :: s => named fuel s
    | '\x7b' :: s => do
      let (a, s) ← named fuel (← punctuation '"' s)
      let s ← punctuation ':' s
      match skipBlank s with
      | 'n' :: s => do
        let s ← expect ['u', 'l', 'l'] s
        .ok (a, ← punctuation '\x7d' s)
      | s => .error (wrongKind fuel s)
    | _ => .error .malformed
where
  /-- The value whose name the rest of a quoted text is. -/
  named : Reader α := fun fuel s => do
    let (cs, rest) ← readQuoted fuel s
    match all.find? fun a => name a == .ofList cs with
    | some a => .ok (a, rest)
    | none => .error .mismatched

/-- A value that may be left out by writing `null`. -/
def optional (c : Codec α) : Codec (Option α) where
  encode
    | none => .null
    | some a => c.encode a
  read fuel s :=
    match skipBlank s with
    | 'n' :: s => do .ok (none, ← expect ['u', 'l', 'l'] s)
    | s => do
      let (a, rest) ← c.read fuel s
      .ok (some a, rest)

/-! ## Lists -/

/-- The start of the next element of an array, or `none` behind whose last element the text stands.
`first` tells that no element has been read yet. -/
def nextItem (first : Bool) (s : List Char) : Except Fault (Option (List Char)) :=
  match skipBlank s with
  | [] => .error .truncated
  | c :: s =>
    if c == ']' then .ok none
    else if first then .ok (some (c :: s))
    else if c == ',' then
      match skipBlank s with
      | [] => .error .truncated
      | ']' :: _ => .error .malformed
      | s => .ok (some s)
    else .error .malformed

/-- The elements of an array up to its closing bracket. -/
def readItems (read : Reader α) : (fuel : Nat) → (first : Bool) → List Char →
    Except Fault (List α × List Char)
  | 0, _, _ => .error .truncated
  | fuel + 1, first, s => do
    match ← nextItem first s with
    | none => .ok ([], ← punctuation ']' s)
    | some s =>
      let (a, s) ← read (fuel + 1) s
      let (as, s) ← readItems read fuel false s
      .ok (a :: as, s)

/-- The elements in order. -/
def list (c : Codec α) : Codec (List α) where
  encode as := .array (as.map c.encode)
  read fuel s :=
    match skipBlank s with
    | '[' :: s => readItems c.read fuel true s
    | s => .error (wrongKind fuel s)

end Codec

/-! ## Records -/

/-- A field of the record type `σ`. -/
structure Field (σ : Type) where
  name : String
  /-- A text without the field is refused. -/
  required : Bool
  encode : σ → Json
  /-- Reads the value of the field and stores it in a record. -/
  read : σ → Reader σ

namespace Field

variable {α σ : Type}

/-- The field that `get` reads and `set` stores. -/
def of (name : String) (c : Codec α) (get : σ → α) (set : α → σ → σ) : Field σ where
  name
  required := false
  encode r := c.encode (get r)
  read r fuel s := do
    let (a, rest) ← c.read fuel s
    .ok (set a r, rest)

/-- The same field, no longer to be left out. -/
def demanded (f : Field σ) : Field σ :=
  { f with required := true }

end Field

namespace Codec

variable {σ : Type}

/-- The values of the fields, in order, up to the closing bracket of their array. Fields behind the
last value keep what `r` has for them, if none is required. -/
def readPositions : (fields : List (Field σ)) → (first : Bool) → σ → Reader σ
  | [], _, r, _, s =>
    match skipBlank s with
    | [] => .error .truncated
    | c :: s => if c == ']' then .ok (r, s) else .error .malformed
  | f :: fields, first, r, fuel, s => do
    match ← nextItem first s with
    | none =>
      if (f :: fields).any (·.required) then .error .mismatched
      else .ok (r, ← punctuation ']' s)
    | some s =>
      let (r, s) ← f.read r fuel s
      readPositions fields false r fuel s

/-- The text behind the opening quote of the next member's name, or `none` at the end of the
object. -/
def nextName (first : Bool) (s : List Char) : Except Fault (Option (List Char)) :=
  match skipBlank s with
  | [] => .error .truncated
  | c :: s =>
    if c == '\x7d' then .ok none
    else if first then if c == '"' then .ok (some s) else .error .malformed
    else if c == ',' then do .ok (some (← punctuation '"' s))
    else .error .malformed

/-- The members of an object up to its closing bracket. `seen` are the names of the fields read
already; none is read twice. -/
def readMembers (fields : List (Field σ)) : (fuel : Nat) → (first : Bool) → (seen : List String) →
    σ → List Char → Except Fault (σ × List Char)
  | 0, _, _, _, _ => .error .truncated
  | fuel + 1, first, seen, r, s => do
    match ← nextName first s with
    | none =>
      if fields.any fun f => f.required && !seen.contains f.name then .error .mismatched
      else .ok (r, ← punctuation '\x7d' s)
    | some s =>
      let (key, s) ← readQuoted (fuel + 1) s
      match fields.find? fun f => f.name == .ofList key with
      | none =>
        let s ← skipValue (fuel + 1) [] (← punctuation ':' s)
        readMembers fields fuel false seen r s
      | some f =>
        if seen.contains f.name then .error .mismatched
        else
          let (r, s) ← f.read r (fuel + 1) (← punctuation ':' s)
          readMembers fields fuel false (f.name :: seen) r s

/-- A record of the given fields. -/
def record (blank : σ) (fields : List (Field σ)) : Codec σ where
  encode r := .object (fields.map fun f => (f.name, f.encode r))
  read fuel s :=
    match skipBlank s with
    | '[' :: s => readPositions fields true blank fuel s
    | '\x7b' :: s => readMembers fields fuel true [] blank s
    | s => .error (wrongKind fuel s)

/-! ## Whole texts -/

variable {α : Type}

/-- The value of a text that holds nothing else. -/
def decode (c : Codec α) (t : String) : Except Fault α := do
  let s := t.toList
  let (a, rest) ← c.read (s.length + 1) s
  if (skipBlank rest).isEmpty then .ok a else .error .malformed

/-- The text of a value. -/
def print (c : Codec α) (layout : Layout) (a : α) : String :=
  (c.encode a).render layout

end Codec

end ItemSieve.Json
