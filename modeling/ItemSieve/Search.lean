import ItemSieve.Catalog
import ItemSieve.Settings
import ItemSieve.Sieve
import ItemSieve.Site

/-!
# Searching the catalog

An `ItemSearch` is a catalog with the standard filters over it: eight yes/no filters, the patch
filter and the race/sex filter. It runs queries, and it turns the requests of a user into edits of
the filters. A request that is refused leaves everything as it is.
-/

namespace ItemSieve

/-- A filter as it is shown to the user. -/
structure FilterInfo where
  name : String
  localizationKey : String
  summary : String
  isSet : Bool
  fromTag : Bool
  tags : List String
  deriving DecidableEq, Repr

/-- How a filter is shown. -/
def FilterInfo.of {ρ : Type} (f : Filter ρ) : FilterInfo :=
  ⟨f.name, f.localizationKey, f.summary, f.isSet, f.fromTag, f.tags⟩

/-- What a query found. -/
structure SearchResult where
  items : List Item
  query : ParsedQuery
  /-- The filters that narrowed the result. -/
  active : List FilterInfo
  /-- A filter has changed since the last poll. -/
  changed : Bool
  deriving DecidableEq, Repr

/-- A catalog and the filters over it. -/
structure ItemSearch where
  catalog : Catalog
  sieve : Sieve Item

namespace ItemSearch

/-- What a standard yes/no filter is made from. -/
structure YesNoRow where
  name : String
  yesLabel : String
  noLabel : String
  /-- The name that the attribute to read is registered under. -/
  wanted : String
  /-- The filter is about the absence of the attribute. -/
  inverted : Bool
  deriving DecidableEq, Repr

/-- The filter of a row, and what is logged when it is made. -/
def YesNoRow.made (row : YesNoRow) : YesNoFilter Item × List LogLine :=
  YesNoFilter.ofAttribute row.name row.yesLabel row.noLabel Item.registry row.wanted row.inverted

/-- The rows of the standard yes/no filters. An ambiguous tag goes to the one that comes first. -/
def yesNoRows : List YesNoRow := [
  ⟨"Dyeable", "Dyeable", "Not Dyeable", "IsDyeable", false⟩,
  ⟨"Unique", "Unique", "Not Unique", "IsUnique", false⟩,
  ⟨"Tradable", "Tradable", "Not Tradable", "IsUntradable", true⟩,
  ⟨"Collectable", "Collectable", "Not Collectable", "IsCollectable", false⟩,
  ⟨"Glamourous", "Glamourous", "Not Glamourous", "IsGlamourous", false⟩,
  ⟨"Can Be HQ", "Can Be HQ", "NQ Only", "CanBeHq", false⟩,
  ⟨"Crest Worthy", "Crest Worthy", "Not Crest Worthy", "IsCrestWorthy", false⟩,
  ⟨"Advanced Melding", "Advanced Melding", "No Advanced Melding", "IsAdvancedMeldingPermitted",
    false⟩]

/-- The standard yes/no filters. -/
def yesNoFilters : List (YesNoFilter Item) :=
  yesNoRows.map (·.made.1)

/-- The standard filters over a catalog, `who` being the character the user plays. -/
def standardFilters (catalog : Catalog) (who : Option Wearer) : List (Filter Item) :=
  yesNoFilters.map .yesNo ++
    [.patch (.new Patch.table Item.patch), .raceSex (.new catalog.races catalog.rules who)]

/-- A search in which nothing is set. -/
def new (catalog : Catalog) (c : Settings) : ItemSearch where
  catalog
  sieve := ⟨standardFilters catalog c.character, c.queryDelimiter⟩

/-- The filters as they are shown. -/
def infos (s : ItemSearch) : List FilterInfo :=
  s.sieve.filters.map .of

/-- The item of the given number. -/
def item (s : ItemSearch) (id : UInt32) : Except SieveError Item :=
  match s.catalog.item? id with
  | some i => .ok i
  | none => .error (.itemNotFound id)

/-- Opens the item of the given number. -/
def openItem (s : ItemSearch) (o : Opener) (w : Surroundings) (id : UInt32) :
    Except SieveError Opened :=
  (s.item id).map (o.openItem w)

/-! ## Queries -/

/-- Runs a parse pass. -/
def apply (s : ItemSearch) (query : String) : ParsedQuery × ItemSearch :=
  (s.sieve.apply query).map id fun sieve => { s with sieve }

/-- The items that pass the filters as they stand and match the terms of the query. -/
def matching (s : ItemSearch) (q : ParsedQuery) : Checked ItemSearch (List Item) :=
  let c := s.sieve.evaluate Item.matchesTerm q s.catalog.items
  ⟨c.answer, { s with sieve := c.after }, c.log⟩

/-- Runs a query: a parse pass, a poll, and the evaluation. -/
def search (s : ItemSearch) (query : String) : Checked ItemSearch SearchResult :=
  let (q, s) := s.apply query
  let (changed, sieve) := s.sieve.takeChanged
  let c := { s with sieve }.matching q
  ⟨⟨c.answer, q, c.after.sieve.active.map .of, changed⟩, c.after, c.log⟩

/-! ## Requests -/

/-- The filter of the given name. -/
def filter (s : ItemSearch) (name : String) : Except SieveError (Filter Item) :=
  match s.sieve.get? name with
  | some f => .ok f
  | none => .error (.request (.unknownFilter name))

/-- Puts a filter in place of the one of the given name. -/
def put (s : ItemSearch) (name : String) (f : Filter Item) : ItemSearch :=
  { s with sieve := s.sieve.put name f }

/-- Asks the filter of the given name to take a step, which it may refuse. -/
def request (s : ItemSearch) (name : String)
    (step : Filter Item → Except SieveError (Filter Item)) : Except SieveError ItemSearch := do
  return s.put name (← step (← s.filter name))

/-- The edit of a yes/no filter, which was asked for by the given name. -/
def yesNoStep (name : String) (edit : YesNoFilter Item → Option (YesNoFilter Item)) :
    Filter Item → Except SieveError (Filter Item)
  | .yesNo f =>
    match edit f with
    | some f => .ok (.yesNo f)
    | none => .error (.request (.overridden name))
  | _ => .error (.request (.notYesNo name))

/-- The choice of the patch that a text means. -/
def patchStep (text : String) : Filter Item → Except SieveError (Filter Item)
  | .patch f =>
    match f.find? text with
    | some p => .ok (.patch ((f.select p.id).getD f))
    | none => .error (.request (.unknownPatch text))
  | _ => .error (.request (.missingFilter PatchFilter.name))

/-- The choice of the option that a label means. -/
def raceSexStep (label : String) : Filter Item → Except SieveError (Filter Item)
  | .raceSex f =>
    if f.fromTag then .error (.request (.overridden RaceSexFilter.name))
    else if Text.sameAscii (Text.trimmed label) RaceSexFilter.selfTag then
      match f.selectCurrent with
      | some f => .ok (.raceSex f)
      | none => .error (.request .noCharacter)
    else
      match f.find? label with
      | none => .error (.request (.unknownRaceSex label))
      | some index =>
        match f.select index with
        | some f => .ok (.raceSex f)
        | none => .error (.request (.overridden RaceSexFilter.name))
  | _ => .error (.request (.missingFilter RaceSexFilter.name))

/-- Keeps only the items for which the yes/no filter of the given name holds. -/
def only (s : ItemSearch) (name : String) : Except SieveError ItemSearch :=
  s.request name (yesNoStep name (·.only))

/-- Keeps only the items for which the yes/no filter of the given name does not hold. -/
def exclude (s : ItemSearch) (name : String) : Except SieveError ItemSearch :=
  s.request name (yesNoStep name (·.exclude))

/-- Adds a patch, or the expansion of a header, to the patch filter. What is selected already is not
added again. -/
def selectPatch (s : ItemSearch) (text : String) : Except SieveError ItemSearch :=
  s.request PatchFilter.name (patchStep text)

/-- Selects a race and a sex by the label of their option, or by `self` those of the character the
user plays. -/
def selectRaceSex (s : ItemSearch) (label : String) : Except SieveError ItemSearch :=
  s.request RaceSexFilter.name (raceSexStep label)

end ItemSearch

end ItemSieve
