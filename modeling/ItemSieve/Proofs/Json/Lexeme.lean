import ItemSieve.Json.Basic
import ItemSieve.Json.Lexeme

/-!
# Lexemes are read as they are written

White space in front of a lexeme is passed over, and what stands behind it is left. A quoted text is
read character by character: each is written by `escape` in a form that reads as that character
again (`Json.readQuoted_escape`), so the whole text comes back (`Json.exists_quote_append`).
-/

namespace ItemSieve.Json

/-- All the characters are white space between lexemes. -/
def Blank (ws : List Char) : Prop :=
  ∀ c ∈ ws, isBlank c

theorem blank_nil : Blank [] := by
  simp [Blank]

/-- White space in front of a text is skipped. -/
theorem skipBlank_append {ws : List Char} (h : Blank ws) (s : List Char) :
    skipBlank (ws ++ s) = skipBlank s :=
  List.dropWhile_append_of_pos h

/-- Nothing is skipped of a text that does not begin with white space. -/
theorem skipBlank_cons {c : Char} (h : isBlank c = false) (s : List Char) :
    skipBlank (c :: s) = c :: s :=
  List.dropWhile_cons_of_neg (by simp [h])

/-- A text begins with the word that was put in front of it. -/
theorem expect_append (ws s : List Char) : expect ws (ws ++ s) = .ok s := by
  induction ws with
  | nil => rfl
  | cons w ws ih => simpa [expect] using ih

/-- A mark is found behind white space. -/
theorem punctuation_append {ws : List Char} (h : Blank ws) {mark : Char}
    (hmark : isBlank mark = false) (s : List Char) :
    punctuation mark (ws ++ mark :: s) = .ok s := by
  rw [punctuation, skipBlank_append h, skipBlank_cons hmark]
  exact expect_append [mark] s

/-! ## Escapes -/

/-- The digit of a number below sixteen has the number as its value. -/
theorem hexValue?_digitChar : ∀ n < 16, hexValue? (Nat.digitChar n) = some n := by
  decide

/-- Two hexadecimal digits behind two zeros are read as the number below 32 that they write. -/
theorem hexFour_digitChar {n : Nat} (h : n < 0x20) (s : List Char) :
    hexFour ('0' :: '0' :: Nat.digitChar (n / 16) :: Nat.digitChar (n % 16) :: s) = .ok (n, s) := by
  have hhigh := hexValue?_digitChar (n / 16) (by omega)
  have hlow := hexValue?_digitChar (n % 16) (by omega)
  have hzero : hexValue? '0' = some 0 := rfl
  have hn : ((0 * 16 + 0) * 16 + n / 16) * 16 + n % 16 = n := by omega
  simp only [hexFour, hzero, hhigh, hlow, hn]

/-- A control character is read from its number. -/
theorem escaped_unit {c : Char} (h : c.toNat < 0x20) (s : List Char) :
    escaped ('u' :: '0' :: '0' :: Nat.digitChar (c.toNat / 16) ::
      Nat.digitChar (c.toNat % 16) :: s) = .ok (c, s) := by
  have hunit : charOfUnit c.toNat s = .ok (c, s) := by
    rw [charOfUnit, if_pos (by simp; omega), Char.ofNat_toNat]
  simp only [escaped, hexFour_digitChar h, bind, Except.bind, hunit]

/-- A character is written as an escape that stands for it, or as itself if it has no meaning of its
own in a quoted text. -/
theorem escape_cases (c : Char) :
    (∃ e, escape c = '\\' :: e ∧ ∀ s, escaped (e ++ s) = .ok (c, s)) ∨
      (escape c = [c] ∧ c ≠ '"' ∧ c ≠ '\\' ∧ ¬ c.toNat < 0x20) := by
  simp only [escape, beq_iff_eq]
  -- The seven characters with an escape of their own.
  iterate 7
    split
    · next h => exact .inl ⟨_, rfl, fun s => by rw [h]; rfl⟩
  split
  · next h => exact .inl ⟨_, rfl, fun s => escaped_unit h s⟩
  · next hquote hbackslash _ _ _ _ _ hcontrol =>
    exact .inr ⟨rfl, hquote, hbackslash, hcontrol⟩

/-- A character comes back from the way it is written, whatever follows. -/
theorem readQuoted_escape (fuel : Nat) (c : Char) (s : List Char) :
    readQuoted (fuel + 1) (escape c ++ s) =
      (readQuoted fuel s).map fun p => (c :: p.1, p.2) := by
  rcases escape_cases c with ⟨e, he, hread⟩ | ⟨he, hquote, hbackslash, hcontrol⟩
  · have hne : ('\\' == '"') = false := rfl
    rw [he]
    simp only [List.cons_append, readQuoted, hne, beq_self_eq_true, hread, bind, Except.bind]
    cases readQuoted fuel s <;> rfl
  · rw [he]
    simp only [List.cons_append, List.nil_append, readQuoted, beq_iff_eq, hquote, hbackslash,
      hcontrol, ↓reduceIte, bind, Except.bind]
    cases readQuoted fuel s <;> rfl

/-! ## Quoted texts -/

/-- Of what stands behind an opening quote, escapes up to a closing quote are read as the characters
that they were written for. -/
theorem readQuoted_flatMap (cs rest : List Char) {fuel : Nat} (h : cs.length < fuel) :
    readQuoted fuel (cs.flatMap escape ++ '"' :: rest) = .ok (cs, rest) := by
  induction cs generalizing fuel with
  | nil =>
    obtain ⟨n, rfl⟩ := Nat.exists_eq_add_one_of_ne_zero (Nat.ne_zero_of_lt h)
    rfl
  | cons c cs ih =>
    obtain ⟨n, rfl⟩ := Nat.exists_eq_add_one_of_ne_zero (Nat.ne_zero_of_lt h)
    have hn : cs.length < n := Nat.lt_of_succ_lt_succ h
    rw [List.flatMap_cons, List.append_assoc, readQuoted_escape, ih hn]
    rfl

/-- Escapes never make a text shorter. -/
theorem length_le_flatMap_escape (cs : List Char) : cs.length ≤ (cs.flatMap escape).length := by
  induction cs with
  | nil => exact Nat.le_refl 0
  | cons c cs ih =>
    have hpos : 0 < (escape c).length := by
      rcases escape_cases c with ⟨e, he, -⟩ | ⟨he, -⟩ <;> simp [he]
    rw [List.flatMap_cons, List.length_append, List.length_cons]
    omega

/-- A quoted text is its opening quote and what `readQuoted` reads. -/
theorem exists_quote_append (s : String) (rest : List Char) :
    ∃ t, quote s ++ rest = '"' :: t ∧
      ∀ fuel, t.length < fuel → readQuoted fuel t = .ok (s.toList, rest) := by
  refine ⟨s.toList.flatMap escape ++ '"' :: rest, by simp [quote], fun fuel h => ?_⟩
  have hle := length_le_flatMap_escape s.toList
  rw [List.length_append] at h
  exact readQuoted_flatMap s.toList rest (by omega)

end ItemSieve.Json
