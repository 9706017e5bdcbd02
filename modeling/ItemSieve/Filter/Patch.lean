import ItemSieve.Patch.Table
import ItemSieve.Text.Case
import ItemSieve.Text.Numeral
import ItemSieve.Text.Space

/-!
# The patch filter

A `PatchFilter` lets the records of the selected patches through, and every record when no patch is
selected. Each edit makes a new list of rows, which is then brought into order (`Patch.arrange`);
the edit returns nothing when the selection comes out as it was. The filter has no tags.
-/

namespace ItemSieve

/-- A filter on the patch of the records in `ρ`. -/
structure PatchFilter (ρ : Type) where
  table : List Patch
  /-- The release version of a record. -/
  version : ρ → String
  selected : List Patch
  /-- The selection has changed since the last poll. -/
  altered : Bool

namespace PatchFilter

variable {ρ : Type}

/-- A filter without a selection. -/
def new (table : List Patch) (version : ρ → String) : PatchFilter ρ where
  table
  version
  selected := []
  altered := false

/-- The name of the filter. -/
def name : String := "Patch"

/-- The key of the filter's name in a table of translations. -/
def localizationKey : String := "PatchSearchFilter"

/-- The first row of the given number. -/
def entry? (f : PatchFilter ρ) (id : UInt32) : Option Patch :=
  f.table.find? (·.id == id)

/-- The row that a text means: by its short name, in any case, and otherwise by its number. The
sentinel is never meant. -/
def find? (f : PatchFilter ρ) (text : String) : Option Patch :=
  let t := Text.trimmed text
  (f.table.find? fun p => !p.isSentinel && Text.sameAscii p.shortName t).or <|
    ((Text.word? t).bind f.entry?).filter (!·.isSentinel)

/-- The row for a slot in which nothing is chosen. -/
def sentinel (f : PatchFilter ρ) : Patch :=
  (f.table.find? (·.isSentinel)).getD .unselected

/-- A patch is selected. -/
def isSet (f : PatchFilter ρ) : Bool :=
  f.selected.any (!·.isSentinel)

/-- A record passes the filter. -/
def check (f : PatchFilter ρ) (r : ρ) : Bool :=
  !f.isSet ||
    f.selected.any fun p => !p.isSentinel && p.shortName == Patch.shortVersion (f.version r)

/-- The short names of the selected patches. -/
def summary (f : PatchFilter ρ) : String :=
  let names := (f.selected.filter (!·.isSentinel)).map (·.shortName)
  if names.isEmpty then "Any" else ", ".intercalate names

/-! ## Edits by the user -/

/-- Makes the rows the selection, unless they are the selection already. -/
def commit (f : PatchFilter ρ) (rows : List Patch) : Option (PatchFilter ρ) :=
  let next := Patch.arrange rows
  if next == f.selected then none else some { f with selected := next, altered := true }

/-- A selected row has the given name. -/
def holds (f : PatchFilter ρ) (name : String) : Bool :=
  f.selected.any (·.name == name)

/-- The selected patches and the patches of the header's expansion. -/
def expand (f : PatchFilter ρ) (header : Patch) : List Patch :=
  Patch.appendMissing (f.selected.filter (!·.isSentinel)) (Patch.members f.table header)

/-- Adds the row by `place`, which builds the next selection, or the expansion if it is a header. A
row whose name is selected already is not added. -/
def add (f : PatchFilter ρ) (id : UInt32) (place : Patch → List Patch) : Option (PatchFilter ρ) :=
  (f.entry? id).bind fun p =>
    if p.expansion then f.commit (f.expand p)
    else if f.holds p.name then none
    else f.commit (place p)

/-- Adds the row of the given number. -/
def select (f : PatchFilter ρ) (id : UInt32) : Option (PatchFilter ρ) :=
  f.add id (f.selected ++ [·])

/-- Puts the row of the given number into a slot. -/
def pick (f : PatchFilter ρ) (slot : Nat) (id : UInt32) : Option (PatchFilter ρ) :=
  if slot < f.selected.length then f.add id (f.selected.set slot ·) else none

/-- Takes the row in a slot away. -/
def remove (f : PatchFilter ρ) (slot : Nat) : Option (PatchFilter ρ) :=
  if slot < f.selected.length then f.commit (f.selected.eraseIdx slot) else none

/-- Adds a slot in which nothing is chosen. -/
def addSlot (f : PatchFilter ρ) : Option (PatchFilter ρ) :=
  f.commit (f.selected ++ [f.sentinel])

/-- Takes every row away. -/
def clear (f : PatchFilter ρ) : Option (PatchFilter ρ) :=
  f.commit []

/-- Whether the selection has changed since the last poll. -/
def takeChanged (f : PatchFilter ρ) : Bool × PatchFilter ρ :=
  (f.altered, { f with altered := false })

end PatchFilter

end ItemSieve
