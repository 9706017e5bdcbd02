import ItemSieve.Json.Number

/-!
# Numerals are read as they are written

The decimal digits of a natural number below `2 ^ 64` are read as that number
(`Json.readNumber_repr`), if what follows could not belong to a number (`Json.Ends`).
-/

namespace ItemSieve.Json

/-- A number cannot go on here. -/
def Ends (rest : List Char) : Prop :=
  ∀ c ∈ rest.head?, c.isDigit = false ∧ c ≠ '.' ∧ c ≠ 'e' ∧ c ≠ 'E'

theorem ends_nil : Ends [] := by
  simp [Ends]

/-- The digits of a number end where the number does. -/
theorem takeWhile_append_of_ends {ds rest : List Char} (hds : ∀ d ∈ ds, d.isDigit)
    (h : Ends rest) :
    (ds ++ rest).takeWhile Char.isDigit = ds ∧ (ds ++ rest).dropWhile Char.isDigit = rest := by
  rw [List.takeWhile_append_of_pos hds, List.dropWhile_append_of_pos hds]
  cases rest with
  | nil => exact ⟨List.append_nil ds, rfl⟩
  | cons c rest =>
    have hc : c.isDigit = false := (h c rfl).1
    simp [hc]

/-! ## The significand -/

/-- Further digits never make a number smaller. -/
theorem le_ofDigitChars (ds : List Char) (n : Nat) : n ≤ Nat.ofDigitChars 10 ds n := by
  induction ds generalizing n with
  | nil => exact Nat.le_refl n
  | cons d ds ih =>
    have := ih (10 * n + (d.toNat - '0'.toNat))
    rw [Nat.ofDigitChars_cons]
    omega

/-- The significand takes all the digits of a number below `2 ^ 64`. -/
theorem gather_eq {ds : List Char} {n : Nat} (h : Nat.ofDigitChars 10 ds n < UInt64.size) :
    gather n ds = (Nat.ofDigitChars 10 ds n, []) := by
  induction ds generalizing n with
  | nil => rfl
  | cons d ds ih =>
    rw [Nat.ofDigitChars_cons, Nat.mul_comm] at h ⊢
    have hnext : n * 10 + (d.toNat - '0'.toNat) < UInt64.size :=
      Nat.lt_of_le_of_lt (le_ofDigitChars ds _) h
    rw [gather, if_pos hnext, ih h]

/-! ## The digits of a number -/

/-- The digits of a number other than zero do not start with a zero. -/
theorem head?_toDigits {n : Nat} (h : 0 < n) : (Nat.toDigits 10 n).head? ≠ some '0' := by
  induction n using Nat.strongRecOn with
  | _ n ih =>
    rw [Nat.toDigits_eq_if (by decide)]
    split
    · next hn =>
      have hdigit : ∀ d < 10, 0 < d → d.digitChar ≠ '0' := by decide
      simpa using hdigit n hn h
    · rw [List.head?_append, Option.or_of_isSome (by simp [Nat.toDigits_ne_nil])]
      exact ih _ (by omega) (by omega)

/-- A number that ends behind its digits is the one that they spell. -/
theorem afterInteger_of_ends {rest : List Char} (h : Ends rest) (n : Nat) :
    afterInteger true n [] rest = .ok (some n, rest) := by
  unfold afterInteger
  split
  · exact absurd rfl (h _ rfl).2.1
  · exact absurd rfl (h _ rfl).2.2.1
  · exact absurd rfl (h _ rfl).2.2.2
  · rfl

/-- A zero stands alone. -/
theorem unsigned_zero {rest : List Char} (h : Ends rest) :
    unsigned true ('0' :: rest) = .ok (some 0, rest) := by
  have hafter := afterInteger_of_ends h 0
  cases rest with
  | nil => exact hafter
  | cons c rest =>
    have hc : c.isDigit = false := (h c rfl).1
    simpa [unsigned, hc] using hafter

/-- Digits that do not start with a zero are gathered. -/
theorem unsigned_append {ds rest : List Char} (hne : ds ≠ []) (hds : ∀ d ∈ ds, d.isDigit)
    (hzero : ds.head? ≠ some '0') (hsize : Nat.ofDigitChars 10 ds 0 < UInt64.size) (h : Ends rest) :
    unsigned true (ds ++ rest) = .ok (some (Nat.ofDigitChars 10 ds 0), rest) := by
  obtain ⟨htake, hdrop⟩ := takeWhile_append_of_ends hds h
  cases ds with
  | nil => exact absurd rfl hne
  | cons d ds =>
    have hd : d.isDigit := hds d List.mem_cons_self
    rw [List.cons_append] at htake hdrop ⊢
    unfold unsigned
    split
    · next heq => cases heq
    · next heq => cases heq; exact absurd rfl hzero
    · next heq =>
      cases heq
      simp only [hd, ↓reduceIte, htake, hdrop, gather_eq hsize]
      exact afterInteger_of_ends h _

/-- The numeral of a number below `2 ^ 64` is read as that number. -/
theorem readNumber_repr {n : Nat} (hn : n < UInt64.size) {rest : List Char} (h : Ends rest) :
    readNumber (n.repr.toList ++ rest) = .ok (some n, rest) := by
  have hds : ∀ d ∈ Nat.toDigits 10 n, d.isDigit := fun d hd =>
    Nat.isDigit_of_mem_toDigits (by decide) (by decide) hd
  have hvalue : Nat.ofDigitChars 10 (Nat.toDigits 10 n) 0 = n := Nat.ofDigitChars_ten_toDigits
  have hunsigned : unsigned true (Nat.toDigits 10 n ++ rest) = .ok (some n, rest) := by
    obtain rfl | hpos := Nat.eq_zero_or_pos n
    · exact unsigned_zero h
    · have hread := unsigned_append Nat.toDigits_ne_nil hds (head?_toDigits hpos)
        (hvalue.symm ▸ hn) h
      rwa [hvalue] at hread
  rw [Nat.toList_repr]
  unfold readNumber
  split
  · next heq =>
    -- A sign is no digit.
    cases hs : Nat.toDigits 10 n with
    | nil => exact absurd hs Nat.toDigits_ne_nil
    | cons d ds =>
      rw [hs, List.cons_append] at heq
      cases heq
      cases hds '-' (hs ▸ List.mem_cons_self)
  · exact hunsigned

end ItemSieve.Json
