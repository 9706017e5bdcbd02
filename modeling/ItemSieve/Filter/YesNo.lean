import ItemSieve.Attribute
import ItemSieve.Error
import ItemSieve.Tag

/-!
# Yes/no filters

A `YesNoFilter` reads one yes/no attribute. It has two legs, one that lets the records with the
attribute through and one that lets through those without it. The user opens and shuts the legs, but
never both are shut: shutting one opens the other. A tag leaves a single leg open for as long as it
is in force, and meanwhile the user's edits are refused.
-/

namespace ItemSieve

/-- The legs of a yes/no filter: whether records with and without the attribute pass. -/
structure Legs where
  yes : Bool
  no : Bool
  deriving DecidableEq, Repr

namespace Legs

/-- Everything passes. -/
def both : Legs := ⟨true, true⟩

/-- Only one leg is open. -/
def only (leg : Bool) : Legs := ⟨leg, !leg⟩

/-- A record with the given value of the attribute passes. -/
def passes (l : Legs) (value : Bool) : Bool :=
  if value then l.yes else l.no

/-- Opens or shuts the leg for records with the attribute. -/
def setYes (l : Legs) (value : Bool) : Legs :=
  ⟨value, if value then l.no else true⟩

/-- Opens or shuts the leg for records without the attribute. -/
def setNo (l : Legs) (value : Bool) : Legs :=
  ⟨if value then l.yes else true, value⟩

end Legs

/-- A filter on one yes/no attribute of the records in `ρ`. -/
structure YesNoFilter (ρ : Type) where
  name : String
  yesLabel : String
  noLabel : String
  /-- Reads the attribute. Without it every record passes. -/
  read : Option (ρ → Bool)
  /-- The filter is about the absence of the attribute. -/
  inverted : Bool
  /-- What the user has set. -/
  legs : Legs
  /-- The leg that a tag leaves open. -/
  tag : Option Bool
  /-- The user has set something since the last poll. -/
  modified : Bool

namespace YesNoFilter

variable {ρ : Type}

/-- A filter that lets everything through. -/
def new (name yesLabel noLabel : String) (read : Option (ρ → Bool)) (inverted : Bool) :
    YesNoFilter ρ where
  name
  yesLabel
  noLabel
  read
  inverted
  legs := .both
  tag := none
  modified := false

/-- A new filter that reads the attribute of the given name. An unknown attribute is logged, here
and never again. -/
def ofAttribute (name yesLabel noLabel : String) (registry : Registry ρ) (wanted : String)
    (inverted : Bool) : YesNoFilter ρ × List LogLine :=
  let read := registry.get? wanted
  let log :=
    match read with
    | some _ => []
    | none => [⟨.error, s!"Invalid check function for boolean filter '{name}': " ++
        s!"unknown attribute '{wanted}'"⟩]
  (new name yesLabel noLabel read inverted, log)

/-- The key of the filter's name in a table of translations. -/
def localizationKey (f : YesNoFilter ρ) : String :=
  .ofList (f.name.toList.filter (· != ' ')) ++ "SearchFilter"

/-- The tag for records with the attribute. -/
def yesTag (f : YesNoFilter ρ) : String :=
  Tag.normal f.name

/-- The tag for records without the attribute. -/
def noTag (f : YesNoFilter ρ) : String :=
  "not" ++ f.yesTag

/-- The tags of the filter. -/
def tags (f : YesNoFilter ρ) : List String :=
  [f.yesTag, f.noTag]

/-- The legs in force. -/
def active (f : YesNoFilter ρ) : Legs :=
  match f.tag with
  | some leg => .only leg
  | none => f.legs

/-- The filter is set, by a tag or by the user. -/
def isSet (f : YesNoFilter ρ) : Bool :=
  f.tag.isSome || f.legs != .both

/-- A record passes the filter. -/
def check (f : YesNoFilter ρ) (r : ρ) : Bool :=
  match f.read with
  | none => true
  | some read => f.active.passes (read r != f.inverted)

/-- What passes. -/
def summary (f : YesNoFilter ρ) : String :=
  match f.active with
  | ⟨true, false⟩ => f.yesLabel
  | ⟨false, true⟩ => f.noLabel
  | _ => "Any"

/-! ## Edits by the user -/

/-- Replaces the user's legs, unless a tag is in force. -/
def edit (f : YesNoFilter ρ) (change : Legs → Legs) : Option (YesNoFilter ρ) :=
  match f.tag with
  | some _ => none
  | none => some { f with legs := change f.legs, modified := true }

/-- Opens or shuts the leg for records with the attribute. -/
def setYes (f : YesNoFilter ρ) (value : Bool) : Option (YesNoFilter ρ) :=
  f.edit (·.setYes value)

/-- Opens or shuts the leg for records without the attribute. -/
def setNo (f : YesNoFilter ρ) (value : Bool) : Option (YesNoFilter ρ) :=
  f.edit (·.setNo value)

/-- Opens both legs. -/
def reset (f : YesNoFilter ρ) : Option (YesNoFilter ρ) :=
  f.edit fun _ => .both

/-- Leaves only the leg for records with the attribute open. -/
def only (f : YesNoFilter ρ) : Option (YesNoFilter ρ) := do
  (← f.setYes true).setNo false

/-- Leaves only the leg for records without the attribute open. -/
def exclude (f : YesNoFilter ρ) : Option (YesNoFilter ρ) := do
  (← f.setNo true).setYes false

/-- Whether the user has set something since the last poll. -/
def takeChanged (f : YesNoFilter ρ) : Bool × YesNoFilter ρ :=
  (f.modified, { f with modified := false })

/-! ## Tags -/

/-- Ends the tag in force. -/
def clearTag (f : YesNoFilter ρ) : YesNoFilter ρ :=
  { f with tag := none }

/-- Takes the token if it is a tag of the filter. -/
def claim (f : YesNoFilter ρ) (token : String) : Tag.Claim × YesNoFilter ρ :=
  let t := Tag.normal token
  if t == f.noTag then (.claimed, { f with tag := some false })
  else if t == f.yesTag then (.claimed, { f with tag := some true })
  else (.rejected, f)

end YesNoFilter

end ItemSieve
