import ItemSieve.Item
import ItemSieve.Settings

/-!
# Data sites

An item is opened by launching the address of its page. One of the sites also has a desktop
application, which is asked first: to show the item if it is running, and through its protocol
handler if it is installed. When neither works, an `Opener` remembers that and goes straight to the
page from then on.

Everything done to the outside world is an `Attempt`, and what the outside world answers is a
`Surroundings`.
-/

namespace ItemSieve

/-- What the outside world answers while an item is opened. -/
structure Surroundings where
  /-- The desktop application runs and shows what it is asked to show. -/
  running : Bool
  /-- The desktop application is installed. -/
  installed : Bool
  /-- Why a target cannot be launched. -/
  refusal : String → Option String

/-- Something done to the outside world, and whether it worked. -/
inductive Attempt where
  /-- The desktop application was asked to show an item. -/
  | probe (id : UInt32) (answered : Bool)
  /-- A target was launched. -/
  | launch (target : String) (started : Bool)
  deriving DecidableEq, Repr

/-- Launches a target. -/
def Surroundings.launch (w : Surroundings) (target : String) : Except SieveError Unit × Attempt :=
  match w.refusal target with
  | some reason => (.error (.viewer reason), .launch target false)
  | none => (.ok (), .launch target true)

/-- A site that describes items. -/
inductive DataSite where
  /-- The site with the desktop application, which is passed over if `forceBrowser` is set. -/
  | teamcraft (forceBrowser : Bool)
  | garland
  deriving DecidableEq, Repr

namespace DataSite

/-- The name of a site. -/
def name : DataSite → String
  | teamcraft _ => "Teamcraft"
  | garland => "Garland Tools"

/-- The key of a site's name in a table of translations. -/
def translationKey : DataSite → String
  | teamcraft _ => "TeamcraftDataSite"
  | garland => "GarlandToolsDataSite"

/-- The address of the page of the item with the given number. -/
def pageOf (id : UInt32) : String :=
  s!"https://ffxivteamcraft.com/db/en/item/{id}"

/-- The address that the desktop application handles. -/
def handlerOf (id : UInt32) : String :=
  s!"teamcraft://db/en/item/{id}"

/-- A name as a part of an address. -/
def slug (name : String) : String :=
  .ofList (name.toList.map fun c => if c == ' ' then '-' else c)

/-- The address of an item. -/
def itemUrl (site : DataSite) (i : Item) : String :=
  match site with
  | teamcraft _ => pageOf i.id ++ "/" ++ slug i.name
  | garland => s!"https://www.garlandtools.org/db/#item/{i.id}"

/-- The site that the settings name. -/
def ofSettings (c : Settings) : Except SieveError DataSite :=
  if c.dataSite == "teamcraft" then .ok (teamcraft c.forceBrowser)
  else if c.dataSite == "garland" then .ok garland
  else .error (.setting (.unknownSite c.dataSite))

end DataSite

/-- How an item got to the screen. -/
inductive Route where
  | localApp
  | protocolHandler
  | browser
  deriving DecidableEq, Repr

/-- What came of opening an item, when there is nobody to report an error to. -/
structure Fallback where
  route : Route
  /-- The desktop application could not be reached. -/
  localFailed : Bool
  attempts : List Attempt
  log : List LogLine

/-- Opens the page of an item when the desktop application could not be reached, behind the attempts
made and the lines logged for that. -/
def Fallback.page (w : Surroundings) (id : UInt32) (attempts : List Attempt) (log : List LogLine) :
    Fallback :=
  let (result, attempt) := w.launch (DataSite.pageOf id)
  let log' :=
    match result with
    | .ok () => []
    | .error e => [⟨.error, e.message⟩]
  ⟨.browser, true, attempts ++ [attempt], log ++ log'⟩

/-- Opens an item by the first way that works: the running desktop application, its protocol
handler, the page. -/
def Fallback.run (w : Surroundings) (localFailed : Bool) (id : UInt32) : Fallback :=
  let probe := Attempt.probe id w.running
  if w.running then ⟨.localApp, localFailed, [probe], []⟩
  else if w.installed then
    match w.launch (DataSite.handlerOf id) with
    | (.ok (), attempt) => ⟨.protocolHandler, localFailed, [probe, attempt], []⟩
    | (.error e, attempt) => .page w id [probe, attempt] [⟨.warning, e.message⟩]
  else .page w id [probe] []

/-- What an opened item left running. -/
inductive Opening where
  | launched
  /-- The ways to open the item were tried in the background. -/
  | background
  deriving DecidableEq, Repr

/-- What came of opening an item. -/
structure Opened where
  result : Except SieveError Opening
  localFailed : Bool
  attempts : List Attempt
  log : List LogLine

/-- A site, and whether its desktop application has ever failed to be reached. -/
structure Opener where
  site : DataSite
  localFailed : Bool
  deriving DecidableEq, Repr

namespace Opener

/-- An opener that has not opened anything yet. -/
def new (site : DataSite) : Opener where
  site
  localFailed := false

/-- Launches the address of an item. -/
def launchUrl (o : Opener) (w : Surroundings) (i : Item) : Opened :=
  let (result, attempt) := w.launch (o.site.itemUrl i)
  ⟨result.map fun _ => .launched, o.localFailed, [attempt], []⟩

/-- Opens an item. -/
def openItem (o : Opener) (w : Surroundings) (i : Item) : Opened :=
  match o.site with
  | .garland => o.launchUrl w i
  | .teamcraft forceBrowser =>
    if forceBrowser || o.localFailed then o.launchUrl w i
    else
      let f := Fallback.run w o.localFailed i.id
      ⟨.ok .background, f.localFailed, f.attempts, f.log⟩

end Opener

end ItemSieve
