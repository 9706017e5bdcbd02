import ItemSieve.Json.Lexeme

/-!
# Errors and log lines

Each error names its cause; `message` is the wording. A `LogLine` is a failure that is reported and
then passed over.
-/

namespace ItemSieve

/-- Why there is no catalog. -/
inductive CatalogError where
  | duplicateItem (id : UInt32)
  | unreadable (path reason : String)
  | noneGiven
  deriving DecidableEq, Repr

/-- The wording of a catalog error. -/
def CatalogError.message : CatalogError → String
  | duplicateItem id => s!"Duplicate item id {id}"
  | unreadable path reason => s!"Failed to read {path}: {reason}"
  | noneGiven => "No catalog given; pass --catalog or run \x60itemsift config catalog <path>\x60"

/-- Why it is unknown who may equip a record. -/
inductive LookupError where
  | unknownCategory (id : UInt32)
  | optionOutOfRange (index : Nat)
  /-- A failure of the source of the rules, in its own words. -/
  | unavailable (reason : String)
  deriving DecidableEq, Repr

/-- The wording of a lookup error. -/
def LookupError.message : LookupError → String
  | unknownCategory id => s!"Unknown equip race category {id}"
  | optionOutOfRange index => s!"option {index} out of range"
  | unavailable reason => reason

/-- Why a setting is refused. -/
inductive SettingError where
  | unknownKey (key : String)
  | unknownSite (value : String)
  | notTruthValue (value : String)
  | notOneCharacter (value : String)
  | notNumericRace (value : String)
  /-- The text in small letters is no sex. -/
  | unknownSex (text : String)
  deriving DecidableEq, Repr

/-- The wording of a setting error. -/
def SettingError.message : SettingError → String
  | unknownKey key => s!"Unknown config key: {key}"
  | unknownSite value => s!"Unknown data site: {value}"
  | notTruthValue value => s!"Expected true or false: {value}"
  | notOneCharacter value => s!"Delimiter must be a single character: {value}"
  | notNumericRace value => s!"Race must be a numeric id: {value}"
  | unknownSex text => s!"Unknown sex: {text}"

/-- Why a request to the search is refused. -/
inductive RequestError where
  | unknownFilter (name : String)
  | notYesNo (name : String)
  | overridden (name : String)
  | unknownPatch (text : String)
  | unknownRaceSex (label : String)
  | noCharacter
  | missingFilter (name : String)
  deriving DecidableEq, Repr

/-- The wording of a request error. -/
def RequestError.message : RequestError → String
  | unknownFilter name => s!"Unknown filter: {name}"
  | notYesNo name => s!"Not a yes/no filter: {name}"
  | overridden name => s!"{name} is overridden by a tag"
  | unknownPatch text => s!"Unknown patch: {text}"
  | unknownRaceSex label => s!"Unknown race/sex: {label}"
  | noCharacter => "No character configured; set self-race and self-sex"
  | missingFilter name => s!"{name} filter missing"

/-- Why something could not be done. -/
inductive SieveError where
  | itemNotFound (id : UInt32)
  /-- A text could not be decoded. -/
  | undecodable (fault : Json.Fault)
  | catalog (cause : CatalogError)
  | lookup (cause : LookupError)
  | setting (cause : SettingError)
  /-- An item page could not be opened, in the words of whoever tried. -/
  | viewer (reason : String)
  | request (cause : RequestError)
  deriving DecidableEq, Repr

/-- The wording of an error. -/
def SieveError.message : SieveError → String
  | itemNotFound id => s!"Item not found: {id}"
  | undecodable _ => "Serialization error"
  | catalog cause => s!"Catalog error: {cause.message}"
  | lookup cause => s!"Lookup error: {cause.message}"
  | setting cause => s!"Config error: {cause.message}"
  | viewer reason => s!"Viewer error: {reason}"
  | request cause => s!"Api Error: {cause.message}"

/-- How grave a log line is. -/
inductive Severity where
  | error
  | warning
  deriving DecidableEq, Repr

/-- A failure that was passed over. -/
structure LogLine where
  severity : Severity
  text : String
  deriving DecidableEq, Repr

end ItemSieve
