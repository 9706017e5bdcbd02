import ItemSieve.Catalog
import ItemSieve.Proofs.Json.Codec

/-!
# Catalogs and their documents

Every catalog is read back from its document, unless two of its items have the same number; then the
first item whose number stands before it is reported. The items of a catalog that was read have
different numbers and are found by them (`Catalog.ofText_print`).
-/

namespace ItemSieve

open Json.Codec in
/-- An item is read back from what is written of it. -/
theorem Item.lawful_codec : Item.codec.Lawful :=
  lawful_record
    (.cons lawful_word.field <| .cons lawful_text.field <| .cons lawful_text.field <|
      .cons lawful_text.field <| .cons lawful_word.field <| .cons lawful_flag.field <|
      .cons lawful_flag.field <| .cons lawful_flag.field <| .cons lawful_flag.field <|
      .cons lawful_flag.field <| .cons lawful_flag.field <| .cons lawful_flag.field <|
      .cons lawful_flag.field .nil)
    (by decide) fun _ => rfl

open Json.Codec in
/-- A race is read back from what is written of it. -/
theorem Race.lawful_codec : Race.codec.Lawful :=
  lawful_record
    (.cons lawful_word.field.demanded <| .cons lawful_text.field.demanded <|
      .cons lawful_text.field.demanded <| .cons lawful_flag.field <| .cons lawful_flag.field .nil)
    (by decide) fun _ => rfl

open Json.Codec in
/-- An equip category is read back from what is written of it. -/
theorem EquipCategory.lawful_codec : EquipCategory.codec.Lawful :=
  lawful_record
    (.cons lawful_word.field.demanded <| .cons lawful_word.list.field <|
      .cons lawful_flag.field <| .cons lawful_flag.field .nil)
    (by decide) fun _ => rfl

namespace Catalog

open Json.Codec in
/-- A catalog is read back from what is written of it. -/
theorem lawful_codec : codec.Lawful :=
  lawful_record
    (.cons Item.lawful_codec.list.field <| .cons Race.lawful_codec.list.field <|
      .cons EquipCategory.lawful_codec.list.field .nil)
    (by decide) fun _ => rfl

/-! ## Numbers of items -/

/-- The numbers of the items, in order. -/
def ids (c : Catalog) : List UInt32 :=
  c.items.map (·.id)

/-- If no item is reported, all numbers differ from each other and from those met before. -/
theorem nodup_of_duplicateIn {seen : List UInt32} {items : List Item}
    (h : duplicateIn seen items = none) :
    (items.map (·.id)).Nodup ∧ ∀ i ∈ items, i.id ∉ seen := by
  induction items generalizing seen with
  | nil => exact ⟨.nil, nofun⟩
  | cons i rest ih =>
    simp only [duplicateIn, List.contains_eq_mem, decide_eq_true_eq] at h
    split at h
    · cases h
    · next hnew =>
      obtain ⟨hnodup, hfresh⟩ := ih h
      refine ⟨List.nodup_cons.2 ⟨fun hmem => ?_, hnodup⟩, List.forall_mem_cons.2 ⟨hnew, ?_⟩⟩
      · obtain ⟨j, hj, hid⟩ := List.mem_map.1 hmem
        exact hfresh j hj (hid ▸ List.mem_cons_self)
      · exact fun j hj hmem => hfresh j hj (List.mem_cons_of_mem _ hmem)

/-- The item that is reported is the first one whose number was met before. -/
theorem exists_of_duplicateIn {seen : List UInt32} {items : List Item} {id : UInt32}
    (h : duplicateIn seen items = some id) :
    ∃ before i after, items = before ++ i :: after ∧ i.id = id ∧
      (i.id ∈ seen ∨ i.id ∈ before.map (·.id)) ∧ duplicateIn seen before = none := by
  induction items generalizing seen with
  | nil => cases h
  | cons i rest ih =>
    simp only [duplicateIn, List.contains_eq_mem, decide_eq_true_eq] at h
    split at h
    · next hseen =>
      cases h
      exact ⟨[], i, rest, rfl, rfl, .inl hseen, rfl⟩
    · next hnew =>
      obtain ⟨before, j, after, rfl, hid, hmem, hnone⟩ := ih h
      refine ⟨i :: before, j, after, rfl, hid, ?_, by simpa [duplicateIn, hnew] using hnone⟩
      rcases hmem with hmem | hmem
      · rcases List.mem_cons.1 hmem with heq | hmem
        · exact .inr (heq ▸ List.mem_cons_self)
        · exact .inl hmem
      · exact .inr (List.mem_cons_of_mem _ hmem)

/-- A catalog whose items have different numbers passes the check. -/
theorem checked_of_nodup {c : Catalog} (h : c.ids.Nodup) : c.checked = .ok c := by
  unfold checked
  cases hd : duplicateIn [] c.items with
  | none => rfl
  | some id =>
    obtain ⟨before, i, after, hitems, -, hmem, -⟩ := exists_of_duplicateIn hd
    have hbefore : i.id ∈ before.map (·.id) := hmem.resolve_left List.not_mem_nil
    rw [ids, hitems, List.map_append, List.map_cons, List.nodup_append] at h
    exact absurd rfl (h.2.2 i.id hbefore i.id List.mem_cons_self)

/-- Any other catalog is refused for the first item whose number stands before it. -/
theorem checked_of_not_nodup {c : Catalog} (h : ¬ c.ids.Nodup) :
    ∃ before i after, c.items = before ++ i :: after ∧ (before.map (·.id)).Nodup ∧
      i.id ∈ before.map (·.id) ∧ c.checked = .error (.catalog (.duplicateItem i.id)) := by
  cases hd : duplicateIn [] c.items with
  | none => exact absurd (nodup_of_duplicateIn hd).1 h
  | some id =>
    obtain ⟨before, i, after, hitems, rfl, hmem, hnone⟩ := exists_of_duplicateIn hd
    refine ⟨before, i, after, hitems, (nodup_of_duplicateIn hnone).1,
      hmem.resolve_left List.not_mem_nil, ?_⟩
    rw [checked, hd]

/-- In such a catalog each item is found by its number. -/
theorem item?_id {c : Catalog} (h : c.ids.Nodup) {i : Item} (hi : i ∈ c.items) :
    c.item? i.id = some i :=
  find?_key Item.id h hi

/-- An id that no item has finds nothing. -/
theorem item?_eq_none {c : Catalog} {id : UInt32} (h : id ∉ c.ids) : c.item? id = none :=
  find?_key_eq_none Item.id h

/-- The error for an id that occurs twice names the id. -/
theorem message_duplicateItem (id : UInt32) :
    (SieveError.catalog (.duplicateItem id)).message =
      "Catalog error: Duplicate item id " ++ toString id :=
  calc (SieveError.catalog (.duplicateItem id)).message
      = "Catalog error: " ++ ("Duplicate item id " ++ toString id) := rfl
    _ = "Catalog error: " ++ "Duplicate item id " ++ toString id := String.append_assoc.symm
    _ = "Catalog error: Duplicate item id " ++ toString id := congrArg (· ++ toString id) rfl

/-! ## Reading -/

/-- A catalog that was read has passed the check. -/
theorem nodup_of_ofText {t : String} {c : Catalog} (h : ofText t = .ok c) : c.ids.Nodup := by
  unfold ofText at h
  split at h
  · cases h
  · next d _ =>
    by_cases hd : d.ids.Nodup
    · rw [checked_of_nodup hd] at h
      cases h
      exact hd
    · obtain ⟨before, i, after, -, -, -, hrefused⟩ := checked_of_not_nodup hd
      rw [hrefused] at h
      cases h

/-- A document is checked as the catalog that it was written from. -/
theorem ofText_print_eq {layout : Json.Layout} (h : layout.IsBlank) (c : Catalog) :
    ofText (codec.print layout c) = c.checked := by
  simp only [ofText, lawful_codec.decode_print h]

/-- A catalog is read back from its document, in any layout, if its items have different numbers;
otherwise the first item whose number stands before it is named. And in a catalog that was read from
any text the items have different numbers, each is found by its number, nothing is found by any
other number, and the catalog is read back from its document. -/
theorem ofText_print {layout : Json.Layout} (hlayout : layout.IsBlank) (c : Catalog) :
    (c.ids.Nodup → ofText (codec.print layout c) = .ok c) ∧
      (¬ c.ids.Nodup → ∃ before i after, c.items = before ++ i :: after ∧
        (before.map (·.id)).Nodup ∧ i.id ∈ before.map (·.id) ∧
        ∃ e : SieveError, ofText (codec.print layout c) = .error e ∧
          e = .catalog (.duplicateItem i.id) ∧
          e.message = "Catalog error: Duplicate item id " ++ toString i.id) ∧
      ∀ t, ofText t = .ok c →
        c.ids.Nodup ∧ (∀ i ∈ c.items, c.item? i.id = some i) ∧ (∀ id ∉ c.ids, c.item? id = none) ∧
          ofText (codec.print layout c) = .ok c := by
  have hread : c.ids.Nodup → ofText (codec.print layout c) = .ok c := by
    intro h
    rw [ofText_print_eq hlayout, checked_of_nodup h]
  refine ⟨hread, ?_, ?_⟩
  · intro h
    obtain ⟨before, i, after, hitems, hnodup, hmem, hrefused⟩ := checked_of_not_nodup h
    refine ⟨before, i, after, hitems, hnodup, hmem, _, ?_, rfl, message_duplicateItem i.id⟩
    rw [ofText_print_eq hlayout, hrefused]
  · intro t ht
    have hnodup : c.ids.Nodup := nodup_of_ofText ht
    refine ⟨hnodup, fun i hi => item?_id hnodup hi, fun id hid => ?_, hread hnodup⟩
    exact item?_eq_none hid

/-- Of three items the third is named, which has the number of the first. -/
theorem ofText_print_third :
    let c : Catalog := ⟨[{ Item.blank with id := 7, name := "Iron Ore" },
      { Item.blank with id := 8, name := "Tin Ore" },
      { Item.blank with id := 7, name := "\"Iron\"\\Sand" }], [], []⟩
    Json.Layout.compact.IsBlank ∧ ¬ c.ids.Nodup ∧
      ofText (codec.print .compact c) = .error (.catalog (.duplicateItem 7)) := by
  intro c
  have hdup : ¬ c.ids.Nodup := by decide
  obtain ⟨before, i, after, hitems, -, hmem, e, he, rfl, -⟩ :=
    (ofText_print Json.Layout.isBlank_compact c).2.1 hdup
  refine ⟨Json.Layout.isBlank_compact, hdup, ?_⟩
  have hids : c.ids = before.map (·.id) ++ i.id :: after.map (·.id) := by
    rw [ids, hitems, List.map_append, List.map_cons]
  have htwice : 2 ≤ c.ids.count i.id := by
    have hbefore := List.count_pos_iff.2 hmem
    rw [hids, List.count_append, List.count_cons_self]
    omega
  have hid : i.id ∈ [7, 8, 7] := by
    rw [show [7, 8, 7] = c.ids from rfl, hids]
    simp
  obtain hid | hid : i.id = 7 ∨ i.id = 8 := by grind
  · rw [he, hid]
  · rw [hid] at htwice
    exact absurd htwice (by decide)

end Catalog

end ItemSieve
