/-!
# Lists searched by a key

Elements that are told apart by a key are found by it.
-/

namespace ItemSieve

variable {α κ : Type} [BEq κ] [LawfulBEq κ] (key : α → κ)

/-- If no key occurs twice, each element is the one found by its key. -/
theorem find?_key {as : List α} (h : (as.map key).Nodup) {a : α} (ha : a ∈ as) :
    as.find? (fun b => key b == key a) = some a := by
  induction as with
  | nil => cases ha
  | cons b rest ih =>
    rw [List.map_cons, List.nodup_cons] at h
    obtain ⟨hnew, hrest⟩ := h
    rw [List.find?_cons]
    rcases List.mem_cons.1 ha with rfl | hmem
    · rw [beq_self_eq_true]
    · have hne : key b ≠ key a := fun heq => hnew (heq ▸ List.mem_map_of_mem hmem)
      rw [beq_false_of_ne hne]
      exact ih hrest hmem

/-- If no key occurs twice, elements with the same key are the same. -/
theorem eq_of_key {as : List α} (h : (as.map key).Nodup) {a b : α} (ha : a ∈ as) (hb : b ∈ as)
    (hkey : key a = key b) : a = b := by
  have hfind := find?_key key h ha
  rw [hkey, find?_key key h hb] at hfind
  exact (Option.some.inj hfind).symm

/-- Nothing is found by a key that no element has. -/
theorem find?_key_eq_none {as : List α} {k : κ} (h : k ∉ as.map key) :
    as.find? (fun b => key b == k) = none := by
  rw [List.find?_eq_none]
  intro b hb hk
  exact h (List.mem_map.2 ⟨b, hb, eq_of_beq hk⟩)

end ItemSieve
