import ItemSieve.Item

/-!
# Plain terms and the names they find

A name is searched at the start positions of its characters only, so what is found there is a part
of the name in small letters (`Text.infix_of_containsIgnoringCase`). Where every character of the
name has a single small letter, the small letters have no other start positions, and each part of
them is found (`Text.containsIgnoringCase_of_infix`). Only `İ` has two small letters
(`Text.length_lowerChar_eq_one_iff`); the second one, a combining dot, is not found in it.
-/

namespace ItemSieve

namespace Text

/-- All characters but one have a single small letter. -/
theorem length_lowerChar_eq_one_iff {c : Char} : (lowerChar c).length = 1 ↔ c ≠ '\u0130' := by
  by_cases h : c = '\u0130'
  · simp [lowerChar, h]
  · simp [lowerChar, h]

/-- No character becomes nothing in small letters. -/
theorem lowerChar_ne_nil (c : Char) : lowerChar c ≠ [] := by
  unfold lowerChar
  split
  · exact List.cons_ne_nil _ _
  · exact List.cons_ne_nil _ _

/-- Only the empty text is empty in small letters. -/
theorem lower_eq_nil_iff {s : List Char} : lower s = [] ↔ s = [] := by
  rw [lower, List.flatMap_eq_nil_iff]
  cases s with
  | nil => simp
  | cons c rest =>
    simp only [reduceCtorEq, iff_false]
    intro h
    exact lowerChar_ne_nil c (h c List.mem_cons_self)

/-! ## Start positions -/

/-- A text occurs where its small letters are the first ones from a start position on. -/
theorem occurs_iff {needle haystack : List Char} :
    containsIgnoringCase.occurs needle haystack = true ↔
      ∃ rest, rest ≠ [] ∧ rest <:+ haystack ∧ lower needle <+: lower rest := by
  induction haystack with
  | nil =>
    constructor
    · exact nofun
    · rintro ⟨rest, hne, hsuffix, -⟩
      exact absurd (List.suffix_nil.1 hsuffix) hne
  | cons c haystack ih =>
    rw [containsIgnoringCase.occurs, Bool.or_eq_true, List.isPrefixOf_iff_prefix, ih]
    constructor
    · rintro (hfirst | ⟨rest, hne, hsuffix, hfirst⟩)
      · exact ⟨c :: haystack, List.cons_ne_nil _ _, List.suffix_rfl, hfirst⟩
      · exact ⟨rest, hne, hsuffix.trans (List.suffix_cons c haystack), hfirst⟩
    · rintro ⟨rest, hne, hsuffix, hfirst⟩
      rcases List.suffix_cons_iff.1 hsuffix with rfl | hbehind
      · exact .inl hfirst
      · exact .inr ⟨rest, hne, hbehind, hfirst⟩

/-- The empty text is found in every text. -/
theorem containsIgnoringCase_nil (haystack : List Char) :
    containsIgnoringCase haystack [] = true :=
  rfl

/-- What is found is a part of the text in small letters. -/
theorem infix_of_containsIgnoringCase {haystack needle : List Char}
    (h : containsIgnoringCase haystack needle = true) : lower needle <:+: lower haystack := by
  rw [containsIgnoringCase, Bool.or_eq_true, List.isEmpty_iff] at h
  rcases h with rfl | hoccurs
  · exact List.nil_infix
  · obtain ⟨rest, -, ⟨before, rfl⟩, hfirst⟩ := occurs_iff.1 hoccurs
    have hsuffix : lower rest <:+ lower (before ++ rest) := by
      rw [lower, lower, List.flatMap_append]
      exact List.suffix_append _ _
    exact hfirst.isInfix.trans hsuffix.isInfix

/-- With a single small letter for each character of the text, the small letters start nowhere else
than the characters do, so each part of them is found. -/
theorem containsIgnoringCase_of_infix {haystack needle : List Char}
    (hone : ∀ c ∈ haystack, (lowerChar c).length = 1) (h : lower needle <:+: lower haystack) :
    containsIgnoringCase haystack needle = true := by
  rw [containsIgnoringCase, Bool.or_eq_true, List.isEmpty_iff]
  by_cases hne : needle = []
  · exact .inl hne
  right
  induction haystack with
  | nil =>
    have hnil : lower needle = [] := List.infix_nil.1 h
    exact absurd (lower_eq_nil_iff.1 hnil) hne
  | cons c rest ih =>
    obtain ⟨d, hd⟩ := List.length_eq_one_iff.1 (hone c List.mem_cons_self)
    have hlower : lower (c :: rest) = d :: lower rest := by
      rw [lower, List.flatMap_cons, hd]
      rfl
    rw [containsIgnoringCase.occurs, Bool.or_eq_true, List.isPrefixOf_iff_prefix, hlower]
    rw [hlower] at h
    -- A part starts with the one small letter of `c`, or it is a part of those of `rest`.
    rcases List.infix_cons_iff.1 h with hfirst | hbehind
    · exact .inl hfirst
    · exact .inr (ih (fun c hc => hone c (List.mem_cons_of_mem _ hc)) hbehind)

example : lower ['\u0307'] <:+: lower ['\u0130'] ∧
    containsIgnoringCase ['\u0130'] ['\u0307'] = false := by decide +kernel

end Text

open Text

/-- A text that is found in another one, whatever the case of its letters, is in small letters a
part of the other one in small letters; each such part is found if every character of the other text
has a single small letter; and the empty text is found in every text. So in an item with such a name
a plain term finds a part of the name in small letters, the whole category up to the case of the
letters `A` to `Z`, or the number, and nothing else. -/
theorem Item.matchesTerm_iff_infix :
    (∀ haystack needle, containsIgnoringCase haystack needle = true →
        lower needle <:+: lower haystack) ∧
      (∀ haystack needle, (∀ c ∈ haystack, (lowerChar c).length = 1) →
        lower needle <:+: lower haystack → containsIgnoringCase haystack needle = true) ∧
      (∀ haystack, containsIgnoringCase haystack [] = true) ∧
      ∀ (i : Item) (term : String), (∀ c ∈ i.name.toList, (lowerChar c).length = 1) →
        (i.matchesTerm term = true ↔
          lower term.toList <:+: lower i.name.toList ∨
            i.category.toList.map Char.toLower = term.toList.map Char.toLower ∨
            word? term = some i.id) := by
  refine ⟨fun _ _ h => infix_of_containsIgnoringCase h,
    fun _ _ hone h => containsIgnoringCase_of_infix hone h, containsIgnoringCase_nil, ?_⟩
  intro i term hone
  have hname : containsIgnoringCase i.name.toList term.toList = true ↔
      lower term.toList <:+: lower i.name.toList :=
    ⟨infix_of_containsIgnoringCase, containsIgnoringCase_of_infix hone⟩
  rw [matchesTerm, Bool.or_eq_true, Bool.or_eq_true, hname, sameAscii, beq_iff_eq, beq_iff_eq,
    or_assoc]

/-- A name in which the last letter is the sign of the unit kelvin, whose small letter is that of
`K`. -/
theorem Item.matchesTerm_iff_infix_kelvin :
    let i : Item := { blank with id := 1609, name := "Hora at 3 \u212A", category := "Head" }
    (∀ c ∈ i.name.toList, (lowerChar c).length = 1) ∧
      lower "AT 3 k".toList <:+: lower i.name.toList ∧
      containsIgnoringCase i.name.toList "AT 3 k".toList = true ∧
      i.matchesTerm "AT 3 k" = true ∧ i.matchesTerm "+01609" = true ∧
      ¬ i.matchesTerm "hea" = true := by
  intro i
  have hone : ∀ c ∈ i.name.toList, (lowerChar c).length = 1 := by
    intro c hc
    rw [length_lowerChar_eq_one_iff]
    rintro rfl
    exact absurd hc (by decide)
  have hinfix : lower "AT 3 k".toList <:+: lower i.name.toList := by decide +kernel
  obtain ⟨-, hfound, -, hterm⟩ := Item.matchesTerm_iff_infix
  refine ⟨hone, hinfix, hfound _ _ hone hinfix, (hterm i _ hone).2 (.inl hinfix),
    (hterm i _ hone).2 (.inr (.inr (by decide +kernel))), ?_⟩
  rw [hterm i _ hone]
  decide +kernel

end ItemSieve
