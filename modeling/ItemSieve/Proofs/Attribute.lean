import ItemSieve.Item
import ItemSieve.Proofs.Keys
import Mathlib.Data.List.Dedup

/-!
# Attributes that are registered again

A registry is a list that is searched from the front, and a registration puts an accessor at its
end. That the last registration of a name counts rests on the one before having been taken out:
after a registration the name is found once, and all other names are found as before
(`Registry.get?_register`). From it follow, by induction on the registrations, what is found after a
run of them, and in which order the names stand (`Registry.names_run`). The registry of an item
begins without a repeated name, so all of this holds of it after any registrations
(`Registry.lastWins_run`).
-/

namespace ItemSieve.Registry

variable {ρ : Type}

/-! ## One registration -/

section Register

variable (g : Registry ρ) (name : String) (read : ρ → Bool)

/-- A registration takes the name out, and puts it behind the others. -/
theorem names_register : (g.register name read).names = g.names.filter (· != name) ++ [name] := by
  simp only [names, register, List.map_append, List.map_singleton, List.filter_map]
  rfl

/-- The accessor that was registered is the one of its name, and the accessors of all other names
are what they were. -/
theorem get?_register (n : String) :
    (g.register name read).get? n = if n = name then some read else g.get? n := by
  rw [get?, register, List.find?_append]
  by_cases h : n = name
  · subst h
    have hout : n ∉ (g.attributes.filter (·.name != n)).map (·.name) := by simp
    rw [find?_key_eq_none Attribute.name hout, Option.none_or, List.find?_cons, beq_self_eq_true,
      if_pos rfl]
    rfl
  · have hkept : (g.attributes.filter (·.name != name)).find? (·.name == n) =
        g.attributes.find? (·.name == n) := by
      rw [List.find?_filter]
      refine congrArg (List.find? · g.attributes) (funext fun a => ?_)
      by_cases ha : a.name = n <;> simp [ha, h]
    rw [hkept, List.find?_cons, beq_false_of_ne (Ne.symm h), List.find?_nil, Option.or_none,
      if_neg h]
    rfl

variable {g} in
/-- No registration makes a name occur twice. -/
theorem nodup_register (h : g.names.Nodup) : (g.register name read).names.Nodup := by
  rw [names_register, List.nodup_append]
  refine ⟨h.filter _, List.nodup_singleton name, ?_⟩
  rintro n hn _ hname rfl
  rw [List.mem_singleton.1 hname] at hn
  simp at hn

end Register

/-! ## A run of registrations -/

/-- The registry after some registrations. -/
def run (g : Registry ρ) (calls : List (Attribute ρ)) : Registry ρ :=
  calls.foldl (fun g a => g.register a.name a.read) g

/-- No run of registrations makes a name occur twice. -/
theorem nodup_run {g : Registry ρ} (h : g.names.Nodup) (calls : List (Attribute ρ)) :
    (g.run calls).names.Nodup := by
  induction calls generalizing g with
  | nil => exact h
  | cons a rest ih => exact ih (nodup_register a.name a.read h)

/-- Registrations of other names leave the accessor of a name alone. -/
theorem get?_run_of_notMem (g : Registry ρ) {calls : List (Attribute ρ)} {n : String}
    (h : n ∉ calls.map (·.name)) : (g.run calls).get? n = g.get? n := by
  induction calls generalizing g with
  | nil => rfl
  | cons a rest ih =>
    rw [List.map_cons, List.mem_cons, not_or] at h
    obtain ⟨hne, hrest⟩ := h
    calc (g.run (a :: rest)).get? n
        = (g.register a.name a.read).get? n := ih _ hrest
      _ = g.get? n := by rw [get?_register, if_neg hne]

/-- The accessor of a name is the one of its last registration. -/
theorem get?_run_last (g : Registry ρ) (before : List (Attribute ρ)) {a : Attribute ρ}
    {after : List (Attribute ρ)} (h : a.name ∉ after.map (·.name)) :
    (g.run (before ++ a :: after)).get? a.name = some a.read := by
  have hsplit : g.run (before ++ a :: after) =
      ((g.run before).register a.name a.read).run after := List.foldl_append
  rw [hsplit, get?_run_of_notMem _ h, get?_register, if_pos rfl]

/-- The names that were not registered keep their order, and behind them stand the registered ones
in the order of their last registrations. -/
theorem names_run (g : Registry ρ) (calls : List (Attribute ρ)) :
    (g.run calls).names =
      g.names.filter (· ∉ calls.map (·.name)) ++ (calls.map (·.name)).dedup := by
  induction calls generalizing g with
  | nil => simp [run]
  | cons a rest ih =>
    have hold : (g.names.filter (· != a.name)).filter (· ∉ rest.map (·.name)) =
        g.names.filter (· ∉ (a :: rest).map (·.name)) := by
      rw [List.filter_filter]
      refine List.filter_congr fun n _ => ?_
      rw [List.map_cons]
      generalize rest.map (·.name) = later
      by_cases hn : n = a.name <;> simp [hn]
    -- The name of the first registration stands where it is registered last.
    have hnew : [a.name].filter (· ∉ rest.map (·.name)) ++ (rest.map (·.name)).dedup =
        ((a :: rest).map (·.name)).dedup := by
      rw [List.map_cons, List.dedup_cons]
      generalize rest.map (·.name) = later
      by_cases hlater : a.name ∈ later <;> simp [hlater]
    calc (g.run (a :: rest)).names
        = (g.register a.name a.read).names.filter (· ∉ rest.map (·.name)) ++
            (rest.map (·.name)).dedup := ih _
      _ = _ := by rw [names_register, List.filter_append, hold, List.append_assoc, hnew]

/-! ## The last registration counts -/

/-- The registry `now` is what the registrations `calls` make of `g` if the last one of each name
counts. -/
structure LastWins (g : Registry ρ) (calls : List (Attribute ρ)) (now : Registry ρ) : Prop where
  nodup : now.names.Nodup
  registered : ∀ before (a : Attribute ρ) after, calls = before ++ a :: after →
    a.name ∉ after.map (·.name) → now.get? a.name = some a.read
  initial : ∀ a ∈ g.attributes, a.name ∉ calls.map (·.name) → now.get? a.name = some a.read
  absent : ∀ n, n ∉ g.names → n ∉ calls.map (·.name) → now.get? n = none
  -- Of a name that occurs several times `dedup` keeps the last place.
  names : now.names = g.names.filter (· ∉ calls.map (·.name)) ++ (calls.map (·.name)).dedup
  others : ∀ (a : Attribute ρ) n, n ≠ a.name → (now.register a.name a.read).get? n = now.get? n

/-- In a registry without a repeated name the last registrations count, however many there are. -/
theorem LastWins.of_nodup {g : Registry ρ} (h : g.names.Nodup) (calls : List (Attribute ρ)) :
    LastWins g calls (g.run calls) where
  nodup := nodup_run h calls
  registered := by
    rintro before a after rfl hlast
    exact get?_run_last g before hlast
  initial a ha hnew := by
    rw [get?_run_of_notMem g hnew, get?, find?_key Attribute.name h ha, Option.map_some]
  absent n hold hnew := by
    rw [get?_run_of_notMem g hnew, get?, find?_key_eq_none Attribute.name hold, Option.map_none]
  names := names_run g calls
  others a n hne := by rw [get?_register, if_neg hne]

/-- No attribute of an item is registered twice at the start. -/
theorem nodup_item : Item.registry.names.Nodup := by
  decide

/-- The last registration of a name counts, from no attributes on and from those of an item on: no
name is twice in the registry; a name gives the accessor it was last registered with, one that was
never registered gives the accessor it had at the beginning, and one that was never there gives
none; the names that were not registered come first, in the order they had, and then the registered
ones in the order of their last registrations; and one more registration changes what no other name
gives. -/
theorem lastWins_run :
    (∀ (ρ : Type) (calls : List (Attribute ρ)), LastWins empty calls (empty.run calls)) ∧
      ∀ calls : List (Attribute Item), LastWins Item.registry calls (Item.registry.run calls) :=
  ⟨fun _ calls => .of_nodup (g := empty) .nil calls, fun calls => .of_nodup nodup_item calls⟩

example : (Item.registry.run [⟨"IsUnique", (·.id == 7)⟩, ⟨"CanBeWorn", (·.equipRestriction != 0)⟩,
      ⟨"IsUnique", Item.isDyeable⟩]).names =
    ["IsDyeable", "IsUntradable", "IsCollectable", "IsGlamourous", "CanBeHq", "IsCrestWorthy",
      "IsAdvancedMeldingPermitted", "CanBeWorn", "IsUnique"] := by
  decide

end ItemSieve.Registry
