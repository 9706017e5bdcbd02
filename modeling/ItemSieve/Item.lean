import ItemSieve.Attribute
import ItemSieve.Json.Codec
import ItemSieve.Text.Case
import ItemSieve.Text.Numeral

/-!
# Items

The records of the catalog, their yes/no attributes (`Item.registry`) and the plain search terms
that find them (`Item.matchesTerm`).
-/

namespace ItemSieve

/-- A record of the catalog. -/
structure Item where
  id : UInt32
  name : String
  /-- The name of the search category, such as `Head`. -/
  category : String
  /-- The release the item came with, such as `3.05`. -/
  patch : String
  /-- The equip category. -/
  equipRestriction : UInt32
  isDyeable : Bool
  isUnique : Bool
  isUntradable : Bool
  isCollectable : Bool
  isGlamourous : Bool
  canBeHq : Bool
  isCrestWorthy : Bool
  isAdvancedMeldingPermitted : Bool
  deriving DecidableEq, Repr

namespace Item

/-- The item of which nothing is said. -/
def blank : Item :=
  ⟨0, "", "", "", 0, false, false, false, false, false, false, false, false⟩

/-- An item is written with all its fields; when it is read, each may be left out. -/
def codec : Json.Codec Item :=
  .record blank [
    .of "id" .word (·.id) fun v i => { i with id := v },
    .of "name" .text (·.name) fun v i => { i with name := v },
    .of "category" .text (·.category) fun v i => { i with category := v },
    .of "patch" .text (·.patch) fun v i => { i with patch := v },
    .of "equip_restriction" .word (·.equipRestriction) fun v i => { i with equipRestriction := v },
    .of "is_dyeable" .flag (·.isDyeable) fun v i => { i with isDyeable := v },
    .of "is_unique" .flag (·.isUnique) fun v i => { i with isUnique := v },
    .of "is_untradable" .flag (·.isUntradable) fun v i => { i with isUntradable := v },
    .of "is_collectable" .flag (·.isCollectable) fun v i => { i with isCollectable := v },
    .of "is_glamourous" .flag (·.isGlamourous) fun v i => { i with isGlamourous := v },
    .of "can_be_hq" .flag (·.canBeHq) fun v i => { i with canBeHq := v },
    .of "is_crest_worthy" .flag (·.isCrestWorthy) fun v i => { i with isCrestWorthy := v },
    .of "is_advanced_melding_permitted" .flag (·.isAdvancedMeldingPermitted)
      fun v i => { i with isAdvancedMeldingPermitted := v }]

/-- The yes/no attributes of an item. -/
def registry : Registry Item where
  attributes := [
    ⟨"IsDyeable", isDyeable⟩, ⟨"IsUnique", isUnique⟩, ⟨"IsUntradable", isUntradable⟩,
    ⟨"IsCollectable", isCollectable⟩, ⟨"IsGlamourous", isGlamourous⟩, ⟨"CanBeHq", canBeHq⟩,
    ⟨"IsCrestWorthy", isCrestWorthy⟩,
    ⟨"IsAdvancedMeldingPermitted", isAdvancedMeldingPermitted⟩]

/-- A plain search term finds an item by a part of its name, by its whole category or by its
number. -/
def matchesTerm (i : Item) (term : String) : Bool :=
  Text.containsIgnoringCase i.name.toList term.toList || Text.sameAscii i.category term ||
    Text.word? term == some i.id

end Item

end ItemSieve
