import Mathlib.Data.List.DropRight
import ItemSieve.Text.Numeral
import ItemSieve.Text.Space

/-!
# Trimmed texts and numerals

A trimmed text has no white space at either end (`Text.IsTrim`), and exactly such a text is left
alone by trimming. The numeral of a number is such a text, and is read as that number.
-/

namespace ItemSieve.Text

/-! ## Trimming -/

/-- No white space at either end. -/
structure IsTrim (s : List Char) : Prop where
  head : ∀ c ∈ s.head?, isSpace c = false
  last : ∀ c ∈ s.getLast?, isSpace c = false

/-- To trim a text is to drop the white space at both of its ends. -/
theorem trim_eq_rdropWhile (s : List Char) :
    trim s = (s.dropWhile isSpace).rdropWhile isSpace :=
  rfl

/-- There is no white space at the ends of what was trimmed. -/
theorem isTrim_trim (s : List Char) : IsTrim (trim s) where
  head := by
    intro c hc
    obtain ⟨rest, hrest⟩ := List.rdropWhile_prefix isSpace (s.dropWhile isSpace)
    have hhead := List.head?_dropWhile_not isSpace s
    rw [← hrest, List.head?_append, ← trim_eq_rdropWhile, hc] at hhead
    exact hhead
  last := by
    intro c hc
    obtain ⟨hne, rfl⟩ := List.mem_getLast?_eq_getLast hc
    exact Bool.eq_false_iff.2 (List.rdropWhile_last_not isSpace _ hne)

/-- A text with no white space at either end is left alone. -/
theorem IsTrim.trim_eq {s : List Char} (h : IsTrim s) : trim s = s := by
  have hhead : s.dropWhile isSpace = s := by
    cases s with
    | nil => rfl
    | cons c s => rw [List.dropWhile_cons_of_neg (by simp [h.head c rfl])]
  rw [trim_eq_rdropWhile, hhead, List.rdropWhile_eq_self_iff]
  intro hne hspace
  rw [h.last _ (List.getLast?_eq_getLast_of_ne_nil hne)] at hspace
  cases hspace

/-- There is no white space at the ends of a text that was trimmed. -/
theorem isTrim_trimmed (s : String) : IsTrim (trimmed s).toList := by
  rw [trimmed, String.toList_ofList]
  exact isTrim_trim s.toList

/-- There is nothing to trim of a text without white space at its ends. -/
theorem IsTrim.trimmed_eq {s : String} (h : IsTrim s.toList) : trimmed s = s := by
  rw [trimmed, h.trim_eq, String.ofList_toList]

/-- A trimmed text is trimmed already. -/
theorem trimmed_trimmed (s : String) : trimmed (trimmed s) = trimmed s :=
  (isTrim_trimmed s).trimmed_eq

/-- A single character is a trimmed text unless it is white space. -/
theorem trimmed_singleton_iff {c : Char} :
    trimmed (.singleton c) = .singleton c ↔ isSpace c = false := by
  constructor
  · intro h
    have htrim := isTrim_trimmed (.singleton c)
    rw [h, String.toList_singleton] at htrim
    exact htrim.head c rfl
  · intro h
    have hend : ∀ d, c = d → isSpace d = false := fun d hd => hd ▸ h
    refine IsTrim.trimmed_eq ?_
    rw [String.toList_singleton]
    exact ⟨fun d hd => hend d (Option.some.inj hd), fun d hd => hend d (Option.some.inj hd)⟩

/-- What starts with another character than white space and ends in a trimmed text is trimmed. -/
theorem IsTrim.append {s t : List Char} {c : Char} (hs : s.head? = some c)
    (hc : isSpace c = false) (ht : IsTrim t) (hne : t ≠ []) : IsTrim (s ++ t) where
  head := by
    rw [List.head?_append, hs, Option.some_or]
    intro d hd
    cases hd
    exact hc
  last := by
    rw [List.getLast?_append_of_ne_nil s hne]
    exact ht.last

/-- What trimming takes away is white space at the two ends. -/
theorem exists_trim (s : List Char) :
    ∃ before after, s = before ++ (trim s ++ after) ∧ (∀ c ∈ before, isSpace c = true) ∧
      ∀ c ∈ after, isSpace c = true := by
  refine ⟨s.takeWhile isSpace, (s.dropWhile isSpace).rtakeWhile isSpace, ?_, ?_, ?_⟩
  · rw [trim_eq_rdropWhile, List.rdropWhile_append_rtakeWhile, List.takeWhile_append_dropWhile]
  · exact fun c hc => List.mem_takeWhile_imp hc
  · exact fun c hc => List.mem_rtakeWhile_imp hc

/-- To drop characters from the front that a filter drops anyway makes no difference. -/
theorem filter_dropWhile {p q : Char → Bool} (h : ∀ c, q c = true → p c = false)
    (s : List Char) : (s.dropWhile q).filter p = s.filter p := by
  induction s with
  | nil => rfl
  | cons c s ih =>
    cases hc : q c with
    | true => rw [List.dropWhile_cons_of_pos hc, ih, List.filter_cons_of_neg (by simp [h c hc])]
    | false => rw [List.dropWhile_cons_of_neg (by simp [hc])]

/-- Trimming changes nothing for those who leave white space out anyway. -/
theorem filter_trim {p : Char → Bool} (h : ∀ c, isSpace c = true → p c = false)
    (s : List Char) : (trim s).filter p = s.filter p := by
  rw [trim, List.filter_reverse, filter_dropWhile h, ← List.filter_reverse, List.reverse_reverse,
    filter_dropWhile h]

/-! ## Words -/

/-- White space parts the words before it from those behind it. -/
theorem words_append {c : Char} (hc : isSpace c = true) (s t : List Char) :
    words (s ++ c :: t) = words s ++ words t := by
  rw [words, List.splitOnP_append_cons s t hc, List.filter_append, words, words]

/-! ## Numerals -/

/-- A number is written in digits. -/
theorem isDigit_of_mem_repr {n : Nat} {c : Char} (h : c ∈ n.repr.toList) : c.isDigit := by
  rw [Nat.toList_repr] at h
  exact Nat.isDigit_of_mem_toDigits (by decide) (by decide) h

/-- A digit is neither white space nor a sign. -/
theorem isSpace_of_isDigit {c : Char} (h : c.isDigit) : isSpace c = false ∧ c ≠ '+' := by
  obtain ⟨hlow, hhigh⟩ := Char.isDigit_iff_toNat.1 h
  have hlow : 48 ≤ c.toNat := hlow
  have hhigh : c.toNat ≤ 57 := hhigh
  constructor
  · simp only [isSpace, Bool.or_eq_false_iff, Bool.and_eq_false_iff, decide_eq_false_iff_not,
      beq_eq_false_iff_ne]
    omega
  · rintro rfl
    cases h

/-- There is no white space at the ends of a number. -/
theorem isTrim_repr (n : Nat) : IsTrim n.repr.toList where
  head _ hc := (isSpace_of_isDigit (isDigit_of_mem_repr (List.mem_of_mem_head? hc))).1
  last _ hc := (isSpace_of_isDigit (isDigit_of_mem_repr (List.mem_of_mem_getLast? hc))).1

/-- A number is read back from its digits. -/
theorem natural?_repr (n : Nat) : natural? n.repr.toList = some n := by
  have hdigits : digits? n.repr.toList = some n := by
    have hall : n.repr.toList.all Char.isDigit = true :=
      List.all_eq_true.2 fun c hc => isDigit_of_mem_repr hc
    rw [digits?, hall, Nat.toList_repr]
    simp [Nat.toDigits_ne_nil, Nat.ofDigitChars_ten_toDigits]
  unfold natural?
  split
  · next heq =>
    have hplus : '+' ∈ n.repr.toList := heq ▸ List.mem_cons_self
    exact absurd rfl (isSpace_of_isDigit (isDigit_of_mem_repr hplus)).2
  · exact hdigits

/-- The numeral of a number is read as that number. -/
theorem word?_toString (n : UInt32) : word? (toString n) = some n := by
  have hread : natural? (toString n).toList = some n.toNat := natural?_repr n.toNat
  have hsize : n.toNat < UInt32.size := n.toNat_lt_size
  rw [word?, hread, Option.bind_some, if_pos hsize, UInt32.ofNat_toNat]

end ItemSieve.Text
