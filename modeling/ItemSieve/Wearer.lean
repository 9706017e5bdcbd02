import ItemSieve.Error
import ItemSieve.Json.Codec
import ItemSieve.Text.Case
import ItemSieve.Text.Space

/-!
# Who can wear an item

A `Wearer` is a race and a sex. An `EquipCategory` says which wearers may equip the items of a
category, and `EquipRules` is where a filter looks up the category of a record and its wearers.
-/

namespace ItemSieve

/-- The number of a race. -/
abbrev RaceId := UInt32

/-- The sex of a character. -/
inductive Sex where
  | male
  | female
  deriving DecidableEq, Repr

namespace Sex

/-- The name of a sex. -/
def name : Sex → String
  | male => "male"
  | female => "female"

/-- The sex written by its name or its first letter, in any case. -/
def ofText (s : String) : Except SettingError Sex :=
  let t := Text.lowercase (Text.trimmed s)
  if t == "male" || t == "m" then .ok male
  else if t == "female" || t == "f" then .ok female
  else .error (.unknownSex t)

/-- A sex is written as its name. -/
def codec : Json.Codec Sex :=
  .choice name [male, female]

end Sex

/-- A character, as far as equipping goes. -/
structure Wearer where
  race : RaceId
  sex : Sex
  deriving DecidableEq, Repr

/-- A race, with its name for each sex and the bodies it has. -/
structure Race where
  id : RaceId
  masculine : String
  feminine : String
  hasMaleBody : Bool
  hasFemaleBody : Bool
  deriving DecidableEq, Repr

/-- A race is written with all its fields; when it is read, its bodies may be left out and are then
there. -/
def Race.codec : Json.Codec Race :=
  .record ⟨0, "", "", true, true⟩ [
    (.of "id" .word (·.id) fun v r => { r with id := v } : Json.Field Race).demanded,
    (.of "masculine" .text (·.masculine) fun v r => { r with masculine := v } :
      Json.Field Race).demanded,
    (.of "feminine" .text (·.feminine) fun v r => { r with feminine := v } :
      Json.Field Race).demanded,
    .of "has_male_body" .flag (·.hasMaleBody) fun v r => { r with hasMaleBody := v },
    .of "has_female_body" .flag (·.hasFemaleBody) fun v r => { r with hasFemaleBody := v }]

/-- The wearers of a category of items. An empty list of races stands for every race. -/
structure EquipCategory where
  id : UInt32
  races : List RaceId
  male : Bool
  female : Bool
  deriving DecidableEq, Repr

namespace EquipCategory

/-- The wearer may equip the items of the category. -/
def allows (c : EquipCategory) (w : Wearer) : Bool :=
  (c.races.isEmpty || c.races.contains w.race) &&
    match w.sex with
    | .male => c.male
    | .female => c.female

/-- A category is written with all its fields; when it is read, all but its number may be left
out. -/
def codec : Json.Codec EquipCategory :=
  .record ⟨0, [], true, true⟩ [
    (.of "id" .word (·.id) fun v c => { c with id := v } : Json.Field EquipCategory).demanded,
    .of "races" (.list .word) (·.races) fun v c => { c with races := v },
    .of "male" .flag (·.male) fun v c => { c with male := v },
    .of "female" .flag (·.female) fun v c => { c with female := v }]

end EquipCategory

/-- A source of equip restrictions, either lookup of which may fail. -/
structure EquipRules (ρ : Type) where
  /-- The equip category of a record. -/
  category : ρ → Except SieveError UInt32
  /-- Whether the wearer may equip the records of the category. -/
  allows : UInt32 → Wearer → Except SieveError Bool

/-- Whether the wearer may equip the record. -/
def EquipRules.admits {ρ : Type} (rules : EquipRules ρ) (r : ρ) (w : Wearer) :
    Except SieveError Bool := do
  rules.allows (← rules.category r) w

end ItemSieve
