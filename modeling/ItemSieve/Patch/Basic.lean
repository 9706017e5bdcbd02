/-!
# Patches

A patch is a release of the game. The table of patches also has headers, each of which stands for a
whole expansion (the patches whose order key has the same leading digit), and a sentinel for the
slot of an editor in which nothing is chosen yet.
-/

namespace ItemSieve

/-- A row of a table of patches. -/
structure Patch where
  id : UInt32
  /-- The place in the table. It is 0 for the sentinel. -/
  order : UInt32
  name : String
  shortName : String
  /-- The row is a header. -/
  expansion : Bool
  deriving DecidableEq, Repr

namespace Patch

/-- Nothing is chosen. -/
def isSentinel (p : Patch) : Bool :=
  p.order == 0

/-- The expansion a patch belongs to and a header stands for: the leading digit of its place. -/
def group (p : Patch) : Option Char :=
  (Nat.toDigits 10 p.order.toNat).head?

/-- The patch as an editor shows it. -/
def label (p : Patch) : String :=
  if p.isSentinel then p.name else s!"{p.name} ({p.shortName})"

/-- A release version at the precision of the table: `3.05` becomes `3.0`. -/
def shortVersion (version : String) : String :=
  .ofList (version.toList.take 3)

/-! ## Selections -/

/-- The first row of each name, without the names in `seen`. -/
def firstOfName (seen : List String) : List Patch → List Patch
  | [] => []
  | p :: rest =>
    if seen.contains p.name then firstOfName seen rest
    else p :: firstOfName (p.name :: seen) rest

/-- The rows as a selection keeps them: no headers, the first row of each name, and the latest short
names first. -/
def arrange (rows : List Patch) : List Patch :=
  (firstOfName [] (rows.filter (!·.expansion))).mergeSort fun p q =>
    !decide (p.shortName < q.shortName)

/-- Appends the rows whose names do not occur yet. -/
def appendMissing (kept : List Patch) : List Patch → List Patch
  | [] => kept
  | p :: rest =>
    if kept.any (·.name == p.name) then appendMissing kept rest
    else appendMissing (kept ++ [p]) rest

/-- The patches of a table that a header stands for. -/
def members (table : List Patch) (header : Patch) : List Patch :=
  table.filter fun p => !p.expansion && !p.isSentinel && p.group == header.group

end Patch

end ItemSieve
