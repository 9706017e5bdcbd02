import ItemSieve.Text.Case.Table

/-!
# Letter case

Two ways to lower a text. `lower` lowers letter by letter; texts are compared and searched by it
(`containsIgnoringCase`). `lowercase` is the lowering for display: it also writes a capital sigma at
the end of a word as `ς`. `sameAscii` ignores the case of the ASCII letters only.
-/

namespace ItemSieve.Text

/-- The code point of the small letter, or the code point itself when it is no capital letter with a
single small one. -/
def smallCode (n : Nat) : Nat :=
  match capitalRuns.find? fun r => n ≤ r.last with
  | some r => if r.first ≤ n && (n - r.first) % r.step == 0 then r.small + (n - r.first) else n
  | none => n

/-- The small letter of a character. Only `İ` has two: `i` and a combining dot. -/
def lowerChar (c : Char) : List Char :=
  if c == '\u0130' then ['i', '\u0307'] else [Char.ofNat (smallCode c.toNat)]

/-- The text in small letters, letter by letter. -/
def lower (s : List Char) : List Char :=
  s.flatMap lowerChar

/-- Some start position of `haystack` is followed by `needle`, compared in small letters. A start
position is never inside the small letters of one character. The empty text is everywhere. -/
def containsIgnoringCase (haystack needle : List Char) : Bool :=
  needle.isEmpty || occurs haystack
where
  occurs : List Char → Bool
    | [] => false
    | c :: rest => (lower needle).isPrefixOf (lower (c :: rest)) || occurs rest

/-- Equality of texts up to the case of the letters `A` to `Z`. -/
def sameAscii (s t : String) : Bool :=
  s.toList.map Char.toLower == t.toList.map Char.toLower

/-! ## The final sigma -/

/-- The first character that is not Case_Ignorable exists and is Cased. -/
def meetsCased (s : List Char) : Bool :=
  match s.dropWhile (inRanges caseIgnorableRanges) with
  | c :: _ => inRanges casedRanges c
  | [] => false

/-- The text in small letters. A sigma that ends a word, with a cased letter before it (`before` is
what precedes it, read backwards) and none after it, becomes `ς`. -/
def lowercaseAfter (before : List Char) : List Char → List Char
  | [] => []
  | c :: rest =>
    let small :=
      if c == 'Σ' then [if meetsCased before && !meetsCased rest then 'ς' else 'σ']
      else lowerChar c
    small ++ lowercaseAfter (c :: before) rest

/-- The text in small letters, for display. -/
def lowercase (s : String) : String :=
  .ofList (lowercaseAfter [] s.toList)

end ItemSieve.Text
