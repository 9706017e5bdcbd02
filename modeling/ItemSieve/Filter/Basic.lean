import ItemSieve.Filter.Patch
import ItemSieve.Filter.RaceSex
import ItemSieve.Filter.YesNo

/-!
# Filters

A filter is of one of three kinds. What the user sets in it stays from query to query; a tag
overrides that until it is cleared.
-/

namespace ItemSieve

/-- A filter on the records in `ρ`. -/
inductive Filter (ρ : Type) where
  | yesNo (f : YesNoFilter ρ)
  | patch (f : PatchFilter ρ)
  | raceSex (f : RaceSexFilter ρ)

namespace Filter

variable {ρ : Type}

/-- The name of the filter. -/
def name : Filter ρ → String
  | yesNo f => f.name
  | patch _ => PatchFilter.name
  | raceSex _ => RaceSexFilter.name

/-- The key of the filter's name in a table of translations. -/
def localizationKey : Filter ρ → String
  | yesNo f => f.localizationKey
  | patch _ => PatchFilter.localizationKey
  | raceSex _ => RaceSexFilter.localizationKey

/-- The filter narrows the result. -/
def isSet : Filter ρ → Bool
  | yesNo f => f.isSet
  | patch f => f.isSet
  | raceSex f => f.isSet

/-- A tag is in force. -/
def fromTag : Filter ρ → Bool
  | yesNo f => f.tag.isSome
  | patch _ => false
  | raceSex f => f.fromTag

/-- What the filter lets through, in a few words. -/
def summary : Filter ρ → String
  | yesNo f => f.summary
  | patch f => f.summary
  | raceSex f => f.summary

/-- The tags the filter takes. -/
def tags : Filter ρ → List String
  | yesNo f => f.tags
  | patch _ => []
  | raceSex f => f.tags

/-- Whether the filter has changed since the last poll. -/
def takeChanged : Filter ρ → Bool × Filter ρ
  | yesNo f => f.takeChanged.map id yesNo
  | patch f => f.takeChanged.map id patch
  | raceSex f => f.takeChanged.map id raceSex

/-- Ends the tag in force. -/
def clearTag : Filter ρ → Filter ρ
  | yesNo f => yesNo f.clearTag
  | patch f => patch f
  | raceSex f => raceSex f.clearTag

/-- The user plays another character from now on. -/
def setCharacter (who : Option Wearer) : Filter ρ → Filter ρ
  | yesNo f => yesNo f
  | patch f => patch f
  | raceSex f => raceSex { f with character := who }

/-- Takes the token if it is a tag of the filter. -/
def claim (token : String) : Filter ρ → Tag.Claim × Filter ρ
  | yesNo f => (f.claim token).map id yesNo
  | patch f => (.rejected, patch f)
  | raceSex f => (f.claim token).map id raceSex

/-- A record passes the filter. -/
def check (r : ρ) : Filter ρ → Checked (Filter ρ) Bool
  | yesNo f => ⟨f.check r, yesNo f, []⟩
  | patch f => ⟨f.check r, patch f, []⟩
  | raceSex f =>
    let c := f.check r
    ⟨c.answer, raceSex c.after, c.log⟩

end Filter

end ItemSieve
