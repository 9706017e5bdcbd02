/-!
# Attributes

A yes/no attribute of a record is read by a named accessor. A `Registry` keeps the accessors in the
order of their registration; the last registration of a name is the one that counts.
-/

namespace ItemSieve

/-- A named yes/no attribute of the records in `ρ`. -/
structure Attribute (ρ : Type) where
  name : String
  read : ρ → Bool

/-- The attributes that can be read from a record. -/
structure Registry (ρ : Type) where
  attributes : List (Attribute ρ)

namespace Registry

variable {ρ : Type}

/-- The registry without attributes. -/
def empty : Registry ρ where
  attributes := []

/-- Puts an accessor last, in place of the one of the same name. -/
def register (g : Registry ρ) (name : String) (read : ρ → Bool) : Registry ρ where
  attributes := g.attributes.filter (·.name != name) ++ [⟨name, read⟩]

/-- The accessor of the given name. -/
def get? (g : Registry ρ) (name : String) : Option (ρ → Bool) :=
  (g.attributes.find? (·.name == name)).map (·.read)

/-- The names in order. -/
def names (g : Registry ρ) : List String :=
  g.attributes.map (·.name)

end Registry

end ItemSieve
