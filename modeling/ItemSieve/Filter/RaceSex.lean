import ItemSieve.Tag
import ItemSieve.Wearer

/-!
# The race/sex filter

A `RaceSexFilter` offers one option for each body a race has, behind the option to select nothing,
and lets the records through that the selected wearer may equip. A tag, which is the label of an
option or `self` for the character the user plays, takes the place of the selection for as long as
it is in force. Records whose wearers cannot be looked up pass, and each distinct failure is logged
once.
-/

namespace ItemSieve

/-- A choice of a race and a sex. -/
structure RaceSexOption where
  label : String
  wearer : Wearer
  deriving DecidableEq, Repr

namespace RaceSexOption

/-- The choice of nothing. Its wearer means nothing. -/
def notSelected : RaceSexOption :=
  ⟨"Not Selected", ⟨0, .female⟩⟩

/-- The options of a race. The labels name the sex when the race has both bodies. -/
def ofRace (r : Race) : List RaceSexOption :=
  match r.hasMaleBody, r.hasFemaleBody with
  | true, true =>
    [⟨"Male " ++ r.masculine, ⟨r.id, .male⟩⟩, ⟨"Female " ++ r.feminine, ⟨r.id, .female⟩⟩]
  | true, false => [⟨r.masculine, ⟨r.id, .male⟩⟩]
  | false, true => [⟨r.feminine, ⟨r.id, .female⟩⟩]
  | false, false => []

/-- The tag that selects the option. -/
def tag (o : RaceSexOption) : String :=
  Tag.normal o.label

end RaceSexOption

/-- A filter on who may equip the records in `ρ`. Options are counted from 0, which stands for no
selection. -/
structure RaceSexFilter (ρ : Type) where
  options : List RaceSexOption
  rules : EquipRules ρ
  /-- The character the user plays at present, if that is known. -/
  character : Option Wearer
  selected : Nat
  /-- While a tag is in force, the selection to come back to. -/
  beforeTag : Option Nat
  /-- The selection at the last poll. -/
  lastSeen : Nat
  /-- The failures that are logged already, the first one first. -/
  reported : List String

/-- What a check answers, the state it leaves and the lines it logs. -/
structure Checked (σ α : Type) where
  answer : α
  after : σ
  log : List LogLine

namespace RaceSexFilter

variable {ρ : Type}

/-- A filter on the given races, with nothing selected. -/
def new (races : List Race) (rules : EquipRules ρ) (character : Option Wearer) :
    RaceSexFilter ρ where
  options := .notSelected :: races.flatMap RaceSexOption.ofRace
  rules
  character
  selected := 0
  beforeTag := none
  lastSeen := 0
  reported := []

/-- The name of the filter. -/
def name : String := "Race/Sex"

/-- The key of the filter's name in a table of translations. -/
def localizationKey : String := "RaceSexSearchFilter"

/-- The tag for the character the user plays. -/
def selfTag : String := "self"

/-- The selected option. -/
def option (f : RaceSexFilter ρ) : RaceSexOption :=
  f.options[f.selected]?.getD .notSelected

/-- Something is selected. -/
def isSet (f : RaceSexFilter ρ) : Bool :=
  f.selected != 0

/-- A tag is in force. -/
def fromTag (f : RaceSexFilter ρ) : Bool :=
  f.beforeTag.isSome

/-- The label of the selected option. -/
def summary (f : RaceSexFilter ρ) : String :=
  f.option.label

/-- The tags of the filter. -/
def tags (f : RaceSexFilter ρ) : List String :=
  selfTag :: (f.options.drop 1).map (·.tag)

/-- The first option behind the choice of nothing that has the given property. -/
def indexOf? (f : RaceSexFilter ρ) (p : RaceSexOption → Bool) : Option Nat :=
  ((f.options.drop 1).findIdx? p).map (· + 1)

/-- The option with the given tag. -/
def tagged? (f : RaceSexFilter ρ) (tag : String) : Option Nat :=
  f.indexOf? (·.tag == tag)

/-- The option with the given label, up to its normal form. -/
def find? (f : RaceSexFilter ρ) (label : String) : Option Nat :=
  f.tagged? (Tag.normal label)

/-- The option for the character the user plays. -/
def current? (f : RaceSexFilter ρ) : Option Nat :=
  f.character.bind fun w => f.indexOf? (·.wearer == w)

/-! ## Edits by the user -/

/-- Selects an option, unless a tag is in force. -/
def select (f : RaceSexFilter ρ) (index : Nat) : Option (RaceSexFilter ρ) :=
  if f.fromTag || f.options.length ≤ index then none else some { f with selected := index }

/-- Selects the option for the character the user plays. -/
def selectCurrent (f : RaceSexFilter ρ) : Option (RaceSexFilter ρ) :=
  f.current?.bind f.select

/-- Ends the tag in force. -/
def clearTag (f : RaceSexFilter ρ) : RaceSexFilter ρ :=
  match f.beforeTag with
  | some index => { f with selected := index, beforeTag := none }
  | none => f

/-- Ends the tag in force, and clears the selection when there is none. -/
def reset (f : RaceSexFilter ρ) : RaceSexFilter ρ :=
  if f.fromTag then f.clearTag else { f with selected := 0 }

/-- Whether the selection differs from the one at the last poll. -/
def takeChanged (f : RaceSexFilter ρ) : Bool × RaceSexFilter ρ :=
  (f.lastSeen != f.selected, { f with lastSeen := f.selected })

/-! ## Tags -/

/-- The option that a token selects. -/
def meant? (f : RaceSexFilter ρ) (token : String) : Option Nat :=
  let t := Tag.normal token
  if t == selfTag then f.current? else f.tagged? t

/-- Selects the option that the token means, until the tag is cleared. -/
def claim (f : RaceSexFilter ρ) (token : String) : Tag.Claim × RaceSexFilter ρ :=
  match f.meant? token with
  | none => (.rejected, f)
  | some index =>
    (if Tag.normal token == selfTag then .resolved else .claimed,
      { f with selected := index, beforeTag := some (f.beforeTag.getD f.selected) })

/-! ## Checks -/

/-- Whether the selected wearer may equip the record. -/
def admits (f : RaceSexFilter ρ) (r : ρ) : Except SieveError Bool :=
  match f.options[f.selected]? with
  | none => .error (.lookup (.optionOutOfRange f.selected))
  | some o => f.rules.admits r o.wearer

/-- A record passes the filter. A failure is logged unless the same one has been logged before. -/
def check (f : RaceSexFilter ρ) (r : ρ) : Checked (RaceSexFilter ρ) Bool :=
  if !f.isSet then ⟨true, f, []⟩
  else
    match f.admits r with
    | .ok allowed => ⟨allowed, f, []⟩
    | .error e =>
      if f.reported.contains e.message then ⟨true, f, []⟩
      else
        ⟨true, { f with reported := f.reported ++ [e.message] },
          [⟨.error, "Race/Sex filter lookup failed: " ++ e.message⟩]⟩

end RaceSexFilter

end ItemSieve
