import Mathlib.Data.List.Basic

/-!
# The order of texts

Texts are compared by their characters, the first difference deciding. The bytes of their encoding
are in the same order (`Text.bytes_le_iff`): of two characters the one with the larger number has
the larger byte where their encodings first differ, and no encoding is the beginning of another one.
-/

namespace ItemSieve.Text

/-- The bytes that encode a text. -/
def bytes (s : String) : List UInt8 :=
  s.toUTF8.data.toList

/-- The bytes of a text are those of its characters, one behind the other. -/
theorem bytes_eq (s : String) : bytes s = s.toList.flatMap String.utf8EncodeChar := by
  rw [bytes, String.toUTF8_eq_toByteArray, ← String.utf8Encode_toList, List.utf8Encode]
  simp

/-- The encodings of two characters differ before either ends, and the larger character has the
larger byte there. -/
theorem utf8EncodeChar_append_lt {c d : Char} (h : c < d) (s t : List UInt8) :
    String.utf8EncodeChar c ++ s < String.utf8EncodeChar d ++ t := by
  have hlt : c.val.toNat < d.val.toNat := h
  have hd : d.val.toNat < 0x110000 := by
    rcases d.valid with hd | ⟨-, hd⟩
    · exact Nat.lt_trans hd (by decide)
    · exact hd
  simp only [String.utf8EncodeChar]
  generalize c.val.toNat = m at hlt
  generalize d.val.toNat = n at hlt hd
  have hdigits (k : Nat) (hk : k < 0x110000) :
      k / 262144 % 8 * 262144 + k / 4096 % 64 * 4096 + k / 64 % 64 * 64 + k % 64 = k := by omega
  have hm := hdigits m (by omega)
  have hn := hdigits n hd
  -- One case for each length of the two encodings.
  repeat' split
  all_goals
    simp (disch := omega) only [List.cons_append, List.nil_append, List.cons_lt_cons_iff,
      UInt8.lt_iff_toNat_lt, ← UInt8.toNat_inj, UInt8.toNat_ofNat', Nat.reducePow,
      Nat.mod_eq_of_lt (a := _ + _)]
    omega

/-- The bytes of texts are in the order of the texts. -/
theorem bytes_lt_of_lt {s t : String} (h : s < t) : bytes s < bytes t := by
  have h : s.toList < t.toList := h
  rw [bytes_eq, bytes_eq]
  generalize s.toList = s, t.toList = t at h
  induction s generalizing t with
  | nil =>
    cases t with
    | nil => cases h
    | cons d t =>
      obtain ⟨b, bs, hb⟩ := List.exists_cons_of_ne_nil (String.utf8EncodeChar_ne_nil (c := d))
      rw [List.flatMap_cons, hb]
      exact List.nil_lt_cons b _
  | cons c s ih =>
    cases t with
    | nil => cases h
    | cons d t =>
      rw [List.flatMap_cons, List.flatMap_cons]
      rcases List.cons_lt_cons_iff.1 h with hcd | ⟨rfl, hst⟩
      · exact utf8EncodeChar_append_lt hcd _ _
      · exact List.append_left_lt (ih t hst)

/-- Texts are in the order of their bytes. -/
theorem bytes_le_iff {s t : String} : bytes s ≤ bytes t ↔ s ≤ t := by
  constructor
  · intro h hlt
    exact h (bytes_lt_of_lt hlt)
  · intro h hlt
    by_cases hst : s < t
    · exact List.lt_asymm hlt (bytes_lt_of_lt hst)
    · obtain rfl := String.le_antisymm h (String.not_lt.1 hst)
      exact List.lt_irrefl _ hlt

end ItemSieve.Text
