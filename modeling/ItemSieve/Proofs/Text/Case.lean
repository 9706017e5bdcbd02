import Mathlib.Data.List.Chain
import Mathlib.Data.List.TakeWhile
import ItemSieve.Text.Case
import ItemSieve.Text.Space

/-!
# Small letters stay small

No small letter of the table is a capital letter itself (`Text.not_has_small`), and none is white
space or an apostrophe (`Text.small_zone`). So the small letters of a character are their own small
letters (`Text.lowerChar_eq`), and to lower a text twice is to lower it once (`Text.lower_lower`).
The table is not searched for each small letter: it is in ascending order, so only the few runs that
begin and end among the small letters of a run need to be compared with it (`CapitalRun.among`).
-/

namespace ItemSieve.Text

/-! ## Runs in ascending order -/

/-- An element of a list in order lies in the stretch that begins where `p` ends and ends where `q`
does, if it has `q` and not `p` and all elements before one with `q` have `q` as well. -/
theorem mem_takeWhile_dropWhile {α : Type} {R : α → α → Prop} {p q : α → Bool} {l : List α}
    (hl : l.Pairwise R) (hq : ∀ x y, R x y → q y = true → q x = true) {x : α} (hx : x ∈ l)
    (hpx : p x = false) (hqx : q x = true) : x ∈ (l.dropWhile p).takeWhile q := by
  have hdrop : x ∈ l.dropWhile p := by
    rw [← List.takeWhile_append_dropWhile (p := p) (l := l), List.mem_append] at hx
    refine hx.resolve_left ?_
    intro h
    rw [List.mem_takeWhile_imp h] at hpx
    cases hpx
  have hsorted := hl.sublist (List.dropWhile_sublist p)
  generalize l.dropWhile p = l at hdrop hsorted
  induction l with
  | nil => cases hdrop
  | cons y l ih =>
    obtain ⟨hy, hrest⟩ := List.pairwise_cons.1 hsorted
    rcases List.mem_cons.1 hdrop with rfl | hmem
    · rw [List.takeWhile_cons_of_pos hqx]
      exact List.mem_cons_self
    · rw [List.takeWhile_cons_of_pos (hq y x (hy x hmem) hqx)]
      exact List.mem_cons_of_mem y (ih hmem hrest)

/-- The runs stand in the order of their first capital letters. -/
theorem pairwise_capitalRuns : capitalRuns.Pairwise fun r r' => r.first ≤ r'.first := by
  have hchain : (capitalRuns.map (·.first)).IsChain (· ≤ ·) := by decide +kernel
  exact List.pairwise_map.1 hchain.pairwise

namespace CapitalRun

/-- The code point is that of a capital letter of the run. -/
def Has (r : CapitalRun) (n : Nat) : Prop :=
  r.first ≤ n ∧ n ≤ r.last ∧ (n - r.first) % r.step = 0

/-- The code point of the last small letter of the run. -/
def lastSmall (r : CapitalRun) : Nat :=
  r.small + (r.last - r.first)

/-- The runs that meet the small letters of the run. -/
def among (r : CapitalRun) : List CapitalRun :=
  (capitalRuns.dropWhile (·.last < r.small)).takeWhile (·.first ≤ r.lastSmall)

/-- A run that has a code point among the small letters of another one is among those that meet
it. -/
theorem mem_among {r r' : CapitalRun} (hr' : r' ∈ capitalRuns) {m : Nat} (hlow : r.small ≤ m)
    (hhigh : m ≤ r.lastSmall) (hfirst : r'.first ≤ m) (hlast : m ≤ r'.last) : r' ∈ r.among := by
  refine mem_takeWhile_dropWhile pairwise_capitalRuns ?_ hr' ?_ ?_
  · intro x y hxy hy
    exact decide_eq_true (Nat.le_trans hxy (of_decide_eq_true hy))
  · exact decide_eq_false (by omega)
  · exact decide_eq_true (by omega)

/-- A run that meets the small letters of another one has every other code point, and those between
are the small letters. -/
theorem odd_among : ∀ r ∈ capitalRuns, ∀ r' ∈ r.among,
    (r.step = 2 ∨ r.first = r.last) ∧ r'.step = 2 ∧ (r.small + r'.first) % 2 = 1 := by
  decide +kernel

end CapitalRun

/-- No small letter is a capital letter. -/
theorem not_has_small {r r' : CapitalRun} (hr : r ∈ capitalRuns) (hr' : r' ∈ capitalRuns) {n : Nat}
    (h : r.Has n) : ¬ r'.Has (r.small + (n - r.first)) := by
  rintro ⟨hfirst, hlast, hstep⟩
  obtain ⟨hlow, hhigh, hn⟩ := h
  have hmeets : r' ∈ r.among := by
    refine CapitalRun.mem_among hr' (Nat.le_add_right _ _) ?_ hfirst hlast
    rw [CapitalRun.lastSmall]
    omega
  obtain ⟨hr2, hr'2, hodd⟩ := CapitalRun.odd_among r hr r' hmeets
  rw [hr'2] at hstep
  have heven : (n - r.first) % 2 = 0 := by
    rcases hr2 with hr2 | hone
    · rwa [hr2] at hn
    · rw [Nat.le_antisymm (hone ▸ hhigh) hlow, Nat.sub_self]
  omega

/-! ## Code points -/

/-- A code point is its own small letter, or it is in a run and has the small letter there. -/
theorem smallCode_eq (n : Nat) :
    smallCode n = n ∨ ∃ r ∈ capitalRuns, r.Has n ∧ smallCode n = r.small + (n - r.first) := by
  unfold smallCode
  split
  · next r hfind =>
    split
    · next hn =>
      rw [Bool.and_eq_true, decide_eq_true_iff, beq_iff_eq] at hn
      have hlast := List.find?_some hfind
      rw [decide_eq_true_iff] at hlast
      exact .inr ⟨r, List.mem_of_find?_eq_some hfind, ⟨hn.1, hlast, hn.2⟩, rfl⟩
    · exact .inl rfl
  · exact .inl rfl

/-- The code point of a small letter is its own small one. -/
theorem smallCode_smallCode (n : Nat) : smallCode (smallCode n) = smallCode n := by
  rcases smallCode_eq n with h | ⟨r, hr, hn, h⟩
  · rw [h, h]
  · rcases smallCode_eq (smallCode n) with h' | ⟨r', hr', hm, -⟩
    · exact h'
    · rw [h] at hm
      exact absurd hm (not_has_small hr hr' hn)

/-- The small letters are between the characters that are white space, apostrophes, `İ` or none at
all. -/
theorem small_zone : ∀ r ∈ capitalRuns,
    0x60 < r.small ∧ r.lastSmall < 0x85 ∨ 0xA0 < r.small ∧ r.lastSmall < 0x130 ∨
      0x130 < r.small ∧ r.lastSmall < 0x1680 ∨ 0x1680 < r.small ∧ r.lastSmall < 0x2000 ∨
      0x205F < r.small ∧ r.lastSmall < 0x3000 ∨ 0x3000 < r.small ∧ r.lastSmall < 0xD800 ∨
      0xDFFF < r.small ∧ r.lastSmall < 0x110000 := by
  decide +kernel

/-! ## Characters and texts -/

/-- The character is in small letters already, and is neither white space nor an apostrophe. -/
structure IsSmall (c : Char) : Prop where
  lower : lowerChar c = [c]
  notSpace : isSpace c = false
  notApostrophe : c ≠ '\x27' ∧ c ≠ '’'

/-- The small letters of a run are small. -/
theorem isSmall_ofNat {r : CapitalRun} (hr : r ∈ capitalRuns) {m : Nat} (hlow : r.small ≤ m)
    (hhigh : m ≤ r.lastSmall) (hm : smallCode m = m) : IsSmall (Char.ofNat m) := by
  have hzone := small_zone r hr
  have hvalid : m.isValidChar := by
    rw [Nat.isValidChar]
    omega
  have hcode : (Char.ofNat m).toNat = m := by
    rw [Char.ofNat, dif_pos hvalid]
    rfl
  have hne (d : Char) (hd : m ≠ d.toNat) : Char.ofNat m ≠ d := by
    rintro rfl
    exact hd hcode.symm
  have hcapital : Char.ofNat m ≠ '\u0130' := hne _ (by simp only [Char.reduceToNat]; omega)
  refine ⟨?_, ?_, hne _ ?_, hne _ ?_⟩
  · simp [lowerChar, hcapital, hcode, hm]
  · simp only [isSpace, hcode, Bool.or_eq_false_iff, Bool.and_eq_false_iff,
      decide_eq_false_iff_not, beq_eq_false_iff_ne]
    omega
  · simp only [Char.reduceToNat]
    omega
  · simp only [Char.reduceToNat]
    omega

/-- A character is its own small letter, or its small letters are small. -/
theorem lowerChar_eq (c : Char) : lowerChar c = [c] ∨ ∀ d ∈ lowerChar c, IsSmall d := by
  by_cases hc : c = '\u0130'
  · have hi : IsSmall 'i' := ⟨by decide +kernel, by decide, by decide⟩
    have hdot : IsSmall '\u0307' := ⟨by decide +kernel, by decide, by decide⟩
    right
    rw [hc]
    exact List.forall_mem_cons.2 ⟨hi, List.forall_mem_singleton.2 hdot⟩
  · have hlower : lowerChar c = [Char.ofNat (smallCode c.toNat)] := by simp [lowerChar, hc]
    rw [hlower]
    rcases smallCode_eq c.toNat with h | ⟨r, hr, ⟨hfirst, hlast, -⟩, h⟩
    · left
      rw [h, Char.ofNat_toNat]
    · right
      rw [List.forall_mem_singleton]
      refine isSmall_ofNat hr (by omega) ?_ (smallCode_smallCode c.toNat)
      rw [h, CapitalRun.lastSmall]
      omega

/-- To lower a text twice is to lower it once. -/
theorem lower_lower (s : List Char) : lower (lower s) = lower s := by
  have hchar (c : Char) : (lowerChar c).flatMap lowerChar = lowerChar c := by
    rcases lowerChar_eq c with h | h
    · rw [h, List.flatMap_singleton, h]
    · rw [List.flatMap_congr fun d hd => (h d hd).lower, List.flatMap_singleton']
  rw [lower, lower, List.flatMap_assoc, List.flatMap_congr fun c _ => hchar c]

end ItemSieve.Text
