import ItemSieve.Item
import ItemSieve.Wearer

/-!
# The catalog

A catalog is one JSON document with the items, the races and the equip categories. No two of its
items have the same number.
-/

namespace ItemSieve

/-- The items, and what is needed to tell who can wear them. -/
structure Catalog where
  items : List Item
  races : List Race
  equipCategories : List EquipCategory
  deriving DecidableEq, Repr

namespace Catalog

/-- A catalog is written with all its lists; when it is read, each may be left out. -/
def codec : Json.Codec Catalog :=
  .record ⟨[], [], []⟩ [
    .of "items" (.list Item.codec) (·.items) fun v c => { c with items := v },
    .of "races" (.list Race.codec) (·.races) fun v c => { c with races := v },
    .of "equip_race_categories" (.list EquipCategory.codec) (·.equipCategories)
      fun v c => { c with equipCategories := v }]

/-- The first of the items that has the number of an item before it, `seen` being the numbers met so
far. -/
def duplicateIn (seen : List UInt32) : List Item → Option UInt32
  | [] => none
  | i :: rest => if seen.contains i.id then some i.id else duplicateIn (i.id :: seen) rest

/-- The catalog itself, if its items have different numbers. -/
def checked (c : Catalog) : Except SieveError Catalog :=
  match duplicateIn [] c.items with
  | some id => .error (.catalog (.duplicateItem id))
  | none => .ok c

/-- The catalog that a document holds. -/
def ofText (t : String) : Except SieveError Catalog :=
  match codec.decode t with
  | .error fault => .error (.undecodable fault)
  | .ok c => c.checked

/-- The document of a catalog. -/
def toText (c : Catalog) : String :=
  codec.print .compact c

/-- The catalog in the file at `path`, of which `content` is the text or the reason why it could not
be read. -/
def ofFile (path : String) (content : Except String String) : Except SieveError Catalog :=
  match content with
  | .error reason => .error (.catalog (.unreadable path reason))
  | .ok t => ofText t

/-- The item of the given number. -/
def item? (c : Catalog) (id : UInt32) : Option Item :=
  c.items.find? (·.id == id)

/-- The equip category of the given number. -/
def equipCategory? (c : Catalog) (id : UInt32) : Option EquipCategory :=
  c.equipCategories.find? (·.id == id)

/-- The wearer may equip the items of the category of the given number. -/
def allows (c : Catalog) (id : UInt32) (w : Wearer) : Except SieveError Bool :=
  match c.equipCategory? id with
  | some category => .ok (category.allows w)
  | none => .error (.lookup (.unknownCategory id))

/-- Who can wear an item is found in its catalog. -/
def rules (c : Catalog) : EquipRules Item where
  category i := .ok i.equipRestriction
  allows := c.allows

end Catalog

end ItemSieve
