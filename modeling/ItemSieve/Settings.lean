import ItemSieve.Query
import ItemSieve.Text.Numeral
import ItemSieve.Wearer

/-!
# Settings

The settings that outlive a run. The user reads and writes them as texts by their keys; a value is
trimmed, and an empty one clears a setting that may be absent. They are stored as a JSON document.
-/

namespace ItemSieve

/-- What the user has configured. -/
structure Settings where
  /-- The site on which items are opened. -/
  dataSite : String
  /-- The desktop application of the site is passed over. -/
  forceBrowser : Bool
  /-- The character that cuts queries. White space cuts them without it. -/
  delimiter : Option Char
  selfRace : Option RaceId
  selfSex : Option Sex
  /-- The file of the catalog. -/
  catalog : Option String
  deriving DecidableEq, Repr

namespace Settings

/-- Nothing is configured. -/
def default : Settings :=
  ⟨"teamcraft", false, none, none, none, none⟩

/-! ## The document -/

/-- Settings are written with all their fields; when they are read, each may be left out. -/
def codec : Json.Codec Settings :=
  .record default [
    .of "data_site" .text (·.dataSite) fun v c => { c with dataSite := v },
    .of "teamcraft_force_browser" .flag (·.forceBrowser) fun v c => { c with forceBrowser := v },
    .of "delimiter" (.optional .letter) (·.delimiter) fun v c => { c with delimiter := v },
    .of "self_race" (.optional .word) (·.selfRace) fun v c => { c with selfRace := v },
    .of "self_sex" (.optional Sex.codec) (·.selfSex) fun v c => { c with selfSex := v },
    .of "catalog" (.optional .text) (·.catalog) fun v c => { c with catalog := v }]

/-- The settings in a stored document, and the default ones when none is stored. -/
def load (stored : Option String) : Except SieveError Settings :=
  match stored with
  | none => .ok default
  | some t =>
    match codec.decode t with
    | .error fault => .error (.undecodable fault)
    | .ok c => .ok c

/-- The document that stores the settings. -/
def save (c : Settings) : String :=
  codec.print .lines c

/-! ## What follows from the settings -/

/-- The cut of queries. A white space character stands for white space in general. -/
def queryDelimiter (c : Settings) : Delimiter :=
  match c.delimiter with
  | some ch => if Text.isSpace ch then .whitespace else .char ch
  | none => .whitespace

/-- The character the user plays, if its race and its sex are both known. -/
def character (c : Settings) : Option Wearer :=
  match c.selfRace, c.selfSex with
  | some race, some sex => some ⟨race, sex⟩
  | _, _ => none

/-! ## Reading and writing by key -/

/-- The name of a setting. -/
inductive Key where
  | dataSite
  | forceBrowser
  | delimiter
  | selfRace
  | selfSex
  | catalog
  deriving DecidableEq, Repr

namespace Key

/-- The spelling of a key. -/
def name : Key → String
  | dataSite => "data-site"
  | forceBrowser => "teamcraft-force-browser"
  | delimiter => "delimiter"
  | selfRace => "self-race"
  | selfSex => "self-sex"
  | catalog => "catalog"

/-- The keys in the order in which they are listed. -/
def all : List Key :=
  [dataSite, forceBrowser, delimiter, selfRace, selfSex, catalog]

/-- The key spelled by a text. -/
def ofName (s : String) : Except SettingError Key :=
  match all.find? (·.name == s) with
  | some k => .ok k
  | none => .error (.unknownKey s)

end Key

/-- The value of a setting. -/
def get (c : Settings) : Key → String
  | .dataSite => c.dataSite
  | .forceBrowser => if c.forceBrowser then "true" else "false"
  | .delimiter => (c.delimiter.map String.singleton).getD "whitespace"
  | .selfRace => (c.selfRace.map toString).getD ""
  | .selfSex => (c.selfSex.map Sex.name).getD ""
  | .catalog => c.catalog.getD ""

/-- The sites on which items can be opened. -/
def sites : List String :=
  ["teamcraft", "garland"]

/-- The value of a setting that may be absent: nothing for the empty text. -/
def clearable {α : Type} (v : String) (read : String → Except SettingError α) :
    Except SettingError (Option α) :=
  if v.isEmpty then .ok none else (read v).map some

/-- Changes a setting. -/
def set (c : Settings) (k : Key) (value : String) : Except SettingError Settings := do
  let v := Text.trimmed value
  match k with
  | .dataSite =>
    let site := Text.lowercase v
    if sites.contains site then .ok { c with dataSite := site } else .error (.unknownSite v)
  | .forceBrowser =>
    if v == "true" then .ok { c with forceBrowser := true }
    else if v == "false" then .ok { c with forceBrowser := false }
    else .error (.notTruthValue v)
  | .delimiter =>
    if v == "whitespace" then .ok { c with delimiter := none }
    else
      match v.toList with
      | [] => .ok { c with delimiter := none }
      | [ch] => .ok { c with delimiter := some ch }
      | _ => .error (.notOneCharacter v)
  | .selfRace => do
    let race ← clearable v fun v =>
      match Text.word? v with
      | some n => .ok n
      | none => .error (.notNumericRace v)
    .ok { c with selfRace := race }
  | .selfSex => do
    let sex ← clearable v Sex.ofText
    .ok { c with selfSex := sex }
  | .catalog => do
    let path ← clearable v .ok
    .ok { c with catalog := path }

/-- The value of the setting whose key a text spells. -/
def getNamed (c : Settings) (key : String) : Except SettingError String :=
  (Key.ofName key).map c.get

/-- Changes the setting whose key a text spells. -/
def setNamed (c : Settings) (key value : String) : Except SettingError Settings := do
  c.set (← Key.ofName key) value

end Settings

end ItemSieve
