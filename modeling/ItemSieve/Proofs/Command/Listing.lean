import ItemSieve.Command.Listing
import ItemSieve.Proofs.Text
import ItemSieve.Proofs.Text.Width

/-!
# Rows as wide as a line

A row of the listing is its fields one after another. Number and patch are padded by their
characters and the name by its columns, so over an additive set of characters, with a number and a
patch that do not exceed their fields and a category that leaves room for a name, a row is as wide
as a line (`Command.width_itemRow`). The lines printed first for the items of a result are the rows
of those within the limit (`Command.getElem?_itemLines`).
-/

namespace ItemSieve.Command

open Text

/-! ## Characters and texts of a row -/

/-- An additive set of characters that has what a row is made of apart from the texts of the item:
blanks, digits and the ellipsis. -/
structure Typeface (A : Char → Prop) : Prop where
  additive : Additive A
  blank : A ' '
  digit : ∀ c, c.isDigit = true → A c
  ellipsis : A '…'

/-- The number of the item has at most `7` digits, its patch at most `5` characters of one column
each, and its category at most `81` columns. All its texts are of the given characters. -/
structure Fits (A : Char → Prop) (i : Item) : Prop where
  digits : (toString i.id).length ≤ 7
  name : ∀ c ∈ i.name.toList, A c
  patch : ∀ c ∈ i.patch.toList, A c ∧ columns c = some 1
  patch_length : i.patch.length ≤ 5
  category : ∀ c ∈ i.category.toList, A c
  category_width : width i.category.toList ≤ 81

/-- The characters that stand alone make a typeface. -/
theorem typeface_isLone : Typeface IsLone where
  additive := additive_isLone
  blank := isLone_ascii (by decide) (by decide)
  digit := by
    intro c hc
    obtain ⟨hlow, hhigh⟩ := ascii_of_isDigit hc
    exact isLone_ascii hlow hhigh
  ellipsis := isLone_ellipsis

/-! ## Rows -/

section
variable {A : Char → Prop} {i : Item}

/-- Any padding is made of characters of the typeface. -/
theorem mem_blanks (hA : Typeface A) (n : Nat) : ∀ c ∈ List.replicate n ' ', A c := by
  intro c hc
  rw [List.eq_of_mem_replicate hc]
  exact hA.blank

/-- A row is of the characters that the texts of its item are of. -/
theorem mem_itemRow (hA : Typeface A) (hi : Fits A i) : ∀ c ∈ itemRow i, A c := by
  have hid : ∀ c ∈ padLeft idWidth (toString i.id).toList, A c :=
    List.forall_mem_append.2 ⟨mem_blanks hA _, fun c hc => hA.digit c (isDigit_of_mem_repr hc)⟩
  have hname : ∀ c ∈ nameField i, A c :=
    List.forall_mem_append.2 ⟨mem_truncate hA.ellipsis hi.name _, mem_blanks hA _⟩
  have hpatch : ∀ c ∈ padRight patchWidth i.patch.toList, A c :=
    List.forall_mem_append.2 ⟨fun c hc => (hi.patch c hc).1, mem_blanks hA _⟩
  simp only [itemRow, List.forall_mem_append, List.forall_mem_cons]
  exact ⟨⟨⟨hid, hA.blank, hA.blank, hname⟩, hA.blank, hA.blank, hpatch⟩, hA.blank, hA.blank,
    hi.category⟩

/-- The name of an item that fits has the room that the category leaves, and one cell at least. -/
theorem Fits.nameRoom_eq (hi : Fits A i) :
    nameRoom i = 82 - width i.category.toList ∧ 1 ≤ nameRoom i := by
  have hcategory := hi.category_width
  simp only [nameRoom, lineWidth, idWidth, patchWidth]
  omega

/-- With room for one column at least, the name is cut and padded to just the columns there are. -/
theorem total_nameField (hA : Typeface A) (hi : Fits A i) : total (nameField i) = nameRoom i := by
  have hroom := hi.nameRoom_eq.2
  have hle := hA.additive.width_truncate_le hA.ellipsis hi.name (nameRoom i)
  have hshown := hA.additive _ (mem_truncate hA.ellipsis hi.name (nameRoom i))
  rw [nameField, total_append, total_blanks, ← hshown]
  omega

/-- The name takes what the other fields leave of a line. -/
theorem width_itemRow (hA : Typeface A) (hi : Fits A i) : width (itemRow i) = lineWidth := by
  have hid : total (padLeft idWidth (toString i.id).toList) = idWidth := by
    refine total_padLeft ?_ (String.length_toList ▸ hi.digits)
    intro c hc
    obtain ⟨hlow, hhigh⟩ := ascii_of_isDigit (isDigit_of_mem_repr hc)
    exact columns_ascii hlow hhigh
  have hpatch : total (padRight patchWidth i.patch.toList) = patchWidth :=
    total_padRight (fun c hc => (hi.patch c hc).2) (String.length_toList ▸ hi.patch_length)
  have hcategory : total i.category.toList = width i.category.toList :=
    (hA.additive _ hi.category).symm
  -- Each of the three gaps between the fields is two blanks.
  have htotal : total (itemRow i) =
      idWidth + 2 + nameRoom i + 2 + patchWidth + 2 + width i.category.toList := by
    simp only [itemRow, total_append, total_cons, columns_blank, Option.getD_some, hid,
      total_nameField hA hi, hpatch, hcategory]
    omega
  have hwidth := hi.category_width
  rw [hA.additive _ (mem_itemRow hA hi), htotal, hi.nameRoom_eq.1, idWidth, patchWidth, lineWidth]
  omega

end

/-! ## Lines -/

/-- The lines for the items within the limit are their rows. -/
theorem getElem?_itemLines {items : List Item} {limit : Option Nat} {k : Nat} {i : Item}
    (hk : items[k]? = some i) (hlimit : ∀ n ∈ limit, k < n) :
    (itemLines items limit)[k]? = some (.ofList (itemRow i)) := by
  obtain ⟨hlength, hi⟩ := List.getElem?_eq_some_iff.1 hk
  have hshown : k < limit.getD items.length := by
    cases limit with
    | none => exact hlength
    | some n => exact hlimit n rfl
  have hne : items.isEmpty = false := by
    rw [List.isEmpty_eq_false_iff]
    rintro rfl
    cases hk
  have htake : (items.take (limit.getD items.length))[k]? = some i := by
    rw [List.getElem?_take, if_pos hshown, hk]
  rw [itemLines, hne, if_neg Bool.false_ne_true, List.getElem?_append_left, List.getElem?_map,
    htake, Option.map_some]
  rw [List.length_map]
  exact (List.getElem?_eq_some_iff.1 htake).1

/-- In the listing of a search result each item within the limit whose texts fit stands in a row of
just `100` columns, whatever its name: the number to the right of its field, the name, blanks, the
patch to the left of its field and the category. The name has the columns that the others leave. It
is shown as a whole if it fits into them, and otherwise its longest start that leaves a column is
shown, with the ellipsis in it. -/
theorem itemLines_row {A : Char → Prop} (hA : Typeface A) (result : SearchResult)
    (limit : Option Nat) {k : Nat} {i : Item} (hk : result.items[k]? = some i)
    (hlimit : ∀ n ∈ limit, k < n) (hi : Fits A i) :
    let room := 82 - width i.category.toList
    ∃ row shown, (itemLines result.items limit)[k]? = some (.ofList row) ∧ width row = 100 ∧
      row = padLeft 7 (toString i.id).toList ++ [' ', ' '] ++
        (shown ++ List.replicate (room - width shown) ' ') ++ [' ', ' '] ++
        padRight 5 i.patch.toList ++ [' ', ' '] ++ i.category.toList ∧
      (width i.name.toList ≤ room → shown = i.name.toList) ∧
      (room < width i.name.toList →
        ∃ start, shown = start ++ ['…'] ∧ IsLongestStart (room - 1) i.name.toList start) := by
  intro room
  have hroom : nameRoom i = room := hi.nameRoom_eq.1
  have hshows := hA.additive.shows_truncate hi.name room
  refine ⟨itemRow i, truncate room i.name.toList, getElem?_itemLines hk hlimit,
    width_itemRow hA hi, ?_, hshows.whole, hshows.cut⟩
  simp [itemRow, nameField, hroom, idWidth, patchWidth]

/-- The category leaves `3` columns, two of them for the start of the name. After the first letter
one is left for an ideograph that takes two, so the row is padded behind the ellipsis. -/
theorem itemLines_row_ideographs :
    let i : Item :=
      { Item.blank with
        id := 1609, name := "e\u0301剣盾", patch := "6.05"
        category := .ofList (List.replicate 79 'm') }
    let result : SearchResult := ⟨[.blank, i, .blank], ⟨[], [], []⟩, [], false⟩
    Fits IsLone i ∧ width i.name.toList = 5 ∧
      ∃ row, (itemLines result.items (some 2))[1]? = some (.ofList row) ∧ width row = 100 ∧
        IsLongestStart 2 i.name.toList "e\u0301".toList := by
  intro i result
  have hpatch : ∀ c ∈ i.patch.toList, 0x20 ≤ c.toNat ∧ c.toNat ≤ 0x7E := by
    have hall : i.patch.toList.all (fun c => 0x20 ≤ c.toNat && c.toNat ≤ 0x7E) = true := by
      decide +kernel
    simpa using hall
  have hfits : Fits IsLone i :=
    { digits := by decide +kernel
      name := isLone_of_all (by decide +kernel)
      patch := fun c hc =>
        ⟨isLone_ascii (hpatch c hc).1 (hpatch c hc).2,
          columns_ascii (hpatch c hc).1 (hpatch c hc).2⟩
      patch_length := by decide +kernel
      category := isLone_of_all (by decide +kernel)
      category_width := by decide +kernel }
  have hwidth : width i.name.toList = 5 := by decide +kernel
  have hroom : 82 - width i.category.toList = 3 := by decide +kernel
  have hfitting : fitting 2 i.name.toList = "e\u0301".toList := by decide +kernel
  have hitem : result.items[1]? = some i := rfl
  obtain ⟨row, shown, hrow, h100, -, -, hcut⟩ :=
    itemLines_row typeface_isLone result (some 2) hitem (by simp) hfits
  rw [hroom, hwidth] at hcut
  obtain ⟨start, -, hstart⟩ := hcut (by omega)
  have heq : start = "e\u0301".toList :=
    (hstart.eq (additive_isLone.isLongestStart_fitting hfits.name 2)).trans hfitting
  exact ⟨hfits, hwidth, row, hrow, h100, heq ▸ hstart⟩

end ItemSieve.Command
