import ItemSieve.Search
import ItemSieve.Text.Width

/-!
# Listings

The lines that the command line prints for search results, filters, patches and settings. An item is
listed in a row of `lineWidth` columns: its number, its name, its patch and its category, the name
being cut and padded to the room that the others leave.
-/

namespace ItemSieve.Command

/-- The columns of a line. -/
def lineWidth : Nat := 100

/-- The characters of an item's number. -/
def idWidth : Nat := 7

/-- The characters of a patch. -/
def patchWidth : Nat := 5

/-- The columns that the other fields of an item's row leave for its name. -/
def nameRoom (i : Item) : Nat :=
  lineWidth - (idWidth + patchWidth + Text.width i.category.toList + 6)

/-- The name of an item, cut and padded to its room. -/
def nameField (i : Item) : List Char :=
  let name := Text.truncate (nameRoom i) i.name.toList
  name ++ List.replicate (nameRoom i - Text.width name) ' '

/-- The row of an item. -/
def itemRow (i : Item) : List Char :=
  Text.padLeft idWidth (toString i.id).toList ++ ' ' :: ' ' :: nameField i ++
    ' ' :: ' ' :: Text.padRight patchWidth i.patch.toList ++ ' ' :: ' ' :: i.category.toList

/-- The rows of at most `limit` items, and how many more there are. -/
def itemLines (items : List Item) (limit : Option Nat) : List String :=
  if items.isEmpty then ["No items found."]
  else
    let shown := limit.getD items.length
    let hidden := items.length - shown
    (items.take shown).map (fun i => .ofList (itemRow i)) ++
      if hidden == 0 then [] else [s!"… and {hidden} more"]

/-- Where the value of a filter comes from. -/
def sourceOf (info : FilterInfo) : String :=
  if info.fromTag then "tag" else "set"

/-- The lines below the items: their number, the filters that narrowed them down, and the plain
terms. -/
def footerLines (result : SearchResult) : List String :=
  let count := result.items.length
  let noun := if count == 1 then "item" else "items"
  let terms := ", ".intercalate result.query.terms
  ["", s!"{count} {noun}"] ++
    result.active.map (fun info => s!"  {info.name}: {info.summary} ({sourceOf info})") ++
    if result.query.hasTerms then [s!"  terms: {terms}"] else []

/-- The lines of a search result. -/
def resultLines (result : SearchResult) (limit : Option Nat) : List String :=
  itemLines result.items limit ++ footerLines result

/-- The lines of a filter: its state and its tags. -/
def filterLines (info : FilterInfo) : List String :=
  let tags := "tags: " ++ ", ".intercalate info.tags
  [s!"{info.name}  {info.summary}",
    if info.tags.isEmpty then "  no tags"
    else "  " ++ .ofList (Text.truncate (lineWidth - 2) tags.toList)]

/-- The line of a row of the patch table. -/
def patchLine (p : Patch) : String :=
  let id := String.ofList (Text.padLeft 3 (toString p.id).toList)
  if p.expansion then s!"{id}  {p.shortName} ({p.name}, whole expansion)"
  else s!"{id}    {p.shortName}  {p.name}"

/-- The lines of the patch table. -/
def patchLines : List String :=
  (Patch.table.filter (!·.isSentinel)).map patchLine

/-- The line of a setting. -/
def settingLine (key value : String) : String :=
  s!"{key} = {value}"

/-- The lines of all settings. -/
def settingLines (c : Settings) : List String :=
  Settings.Key.all.map fun k => settingLine k.name (c.get k)

end ItemSieve.Command
