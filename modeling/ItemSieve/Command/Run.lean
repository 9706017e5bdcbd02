import ItemSieve.Command.Invocation
import ItemSieve.Command.Listing

/-!
# Running a command

`Invocation.run` answers an invocation with a `Report`: what is printed, the error that ended the
run, and the settings document to store. It reads the outside world through a `Context`.
-/

namespace ItemSieve.Command

/-- What a run finds outside. -/
structure Context where
  /-- The working directory. -/
  directory : String
  /-- The stored settings document. -/
  stored : Option String
  /-- The text of a file, or the reason why it cannot be read. -/
  files : String → Except String String
  surroundings : Surroundings

/-- What a run leaves behind. -/
structure Report where
  /-- The lines printed. -/
  lines : List String
  /-- The error that ended the run. -/
  error : Option SieveError
  /-- The settings document to store. -/
  stored : Option String

namespace Report

/-- A run that ended well. -/
def ofLines (lines : List String) : Report :=
  ⟨lines, none, none⟩

/-- A run that ended with an error. -/
def ofError (lines : List String) (e : SieveError) : Report :=
  ⟨lines, some e, none⟩

/-- The lines of a run that prints nothing before it fails. -/
def ofResult (r : Except SieveError (List String)) : Report :=
  match r with
  | .ok lines => ofLines lines
  | .error e => ofError [] e

/-- The exit code: 0 or, after an error, 1. -/
def exitCode (r : Report) : Nat :=
  if r.error.isSome then 1 else 0

/-- The text printed. -/
def output (r : Report) : String :=
  String.join (r.lines.map (· ++ "\n"))

/-- The line that tells the user about the error. -/
def errorLine (r : Report) : Option String :=
  r.error.map fun e => "Error: " ++ e.message

end Report

namespace Context

/-- The stored settings, and the default ones when the document cannot be read. -/
def settings (x : Context) : Settings :=
  match Settings.load x.stored with
  | .ok c => c
  | .error _ => .default

/-- The file of the catalog: the one named on the command line, and otherwise the configured one. -/
def catalogPath (x : Context) (named : Option String) : Except SieveError String :=
  match named.or x.settings.catalog with
  | some path => .ok path
  | none => .error (.catalog .noneGiven)

/-- The search over the catalog. -/
def openSearch (x : Context) (named : Option String) : Except SieveError ItemSearch := do
  let path ← x.catalogPath named
  .ok (.new (← Catalog.ofFile path (x.files path)) x.settings)

/-- A path as seen from the working directory. An empty path stays empty. -/
def absolute (x : Context) (value : String) : String :=
  let path := Text.trimmed value
  if path.isEmpty || path.toList.head? == some '/' then value
  else if x.directory.toList.getLast? == some '/' then x.directory ++ path
  else x.directory ++ "/" ++ path

end Context

/-! ## The subcommands -/

/-- Makes the requests in order, up to the first that is refused. -/
def requestAll (request : ItemSearch → String → Except SieveError ItemSearch) (s : ItemSearch)
    (values : List String) : Except SieveError ItemSearch :=
  values.foldlM request s

/-- The search with the requests of the options made. -/
def SearchRequest.prepare (r : SearchRequest) (s : ItemSearch) : Except SieveError ItemSearch := do
  let s ← requestAll ItemSearch.only s r.only
  let s ← requestAll ItemSearch.exclude s r.exclude
  let s ← requestAll ItemSearch.selectPatch s r.patches
  match r.raceSex with
  | none => .ok s
  | some label => s.selectRaceSex label

/-- The lines of a search. -/
def SearchRequest.run (r : SearchRequest) (x : Context) (catalog : Option String) :
    Except SieveError (List String) := do
  let s ← r.prepare (← x.openSearch catalog)
  let result := (s.search (x.settings.queryDelimiter.join r.words)).answer
  .ok (resultLines result r.limit)

/-- Opens an item, having said which one and where. -/
def runOpen (x : Context) (catalog : Option String) (id : UInt32) : Report :=
  let found : Except SieveError (ItemSearch × Item × DataSite) := do
    let s ← x.openSearch catalog
    let i ← s.item id
    .ok (s, i, ← DataSite.ofSettings x.settings)
  match found with
  | .error e => .ofError [] e
  | .ok (s, i, site) =>
    let lines := [s!"Opening {i.name} on {site.name}", site.itemUrl i]
    match s.openItem (.new site) x.surroundings id with
    | .error e => .ofError lines e
    | .ok opened =>
      match opened.result with
      | .error e => .ofError lines e
      | .ok _ => .ofLines lines

/-- Changes a setting and stores the settings. -/
def runSet (x : Context) (key value : String) : Report :=
  let value := if key == Settings.Key.catalog.name then x.absolute value else value
  let changed : Except SettingError (Settings × String) := do
    let c ← x.settings.setNamed key value
    .ok (c, ← c.getNamed key)
  match changed with
  | .error e => .ofError [] (.setting e)
  | .ok (c, value) => ⟨[settingLine key value], none, some c.save⟩

/-- Shows a setting. -/
def runGet (x : Context) (key : String) : Report :=
  match x.settings.getNamed key with
  | .error e => .ofError [] (.setting e)
  | .ok value => .ofLines [settingLine key value]

/-- Answers an invocation. -/
def Invocation.run (v : Invocation) (x : Context) : Report :=
  match v.subcommand with
  | .search r => .ofResult (r.run x v.catalog)
  | .filters => .ofResult ((x.openSearch v.catalog).map fun s => s.infos.flatMap filterLines)
  | .patches => .ofLines patchLines
  | .openItem id => runOpen x v.catalog id
  | .config none _ => .ofLines (settingLines x.settings)
  | .config (some key) none => runGet x key
  | .config (some key) (some value) => runSet x key value

end ItemSieve.Command
