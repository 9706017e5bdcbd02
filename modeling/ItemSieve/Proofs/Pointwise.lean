import Mathlib.Data.List.Forall2

/-!
# Lists compared place by place

The filters of a sieve keep their places, so two states of a sieve are compared place by place, with
`List.Forall₂`.
-/

namespace ItemSieve

variable {α : Type} {R : α → α → Prop}

/-- A comparison place by place is transitive when the comparison of elements is. -/
theorem forall₂_trans (hR : ∀ a b c, R a b → R b c → R a c) {as bs cs : List α}
    (h : List.Forall₂ R as bs) (h' : List.Forall₂ R bs cs) : List.Forall₂ R as cs := by
  induction h generalizing cs with
  | nil => exact h'
  | cons hab _ ih =>
    cases h' with
    | cons hbc h' => exact .cons (hR _ _ _ hab hbc) (ih h')

/-- A comparison place by place may be weakened for the elements of the lists alone. -/
theorem forall₂_imp_mem {S : α → α → Prop} {as bs : List α} (h : List.Forall₂ R as bs)
    (hS : ∀ a ∈ as, ∀ b ∈ bs, R a b → S a b) : List.Forall₂ S as bs := by
  induction h with
  | nil => exact .nil
  | @cons a b as bs hab _ ih =>
    refine .cons (hS a List.mem_cons_self b List.mem_cons_self hab) (ih fun a' ha b' hb => ?_)
    exact hS a' (List.mem_cons_of_mem a ha) b' (List.mem_cons_of_mem b hb)

/-- Lists that compare place by place compare at each place, and end together. -/
theorem forall₂_getElem? {as bs : List α} (h : List.Forall₂ R as bs) (i : Nat) :
    Option.Rel R as[i]? bs[i]? := by
  induction h generalizing i with
  | nil => exact .none
  | cons hab _ ih =>
    cases i with
    | zero => exact .some hab
    | succ i => exact ih i

/-- Lists whose elements have the same image place by place have the same image. -/
theorem map_eq_of_forall₂ {β : Type} {φ : α → β} {as bs : List α}
    (h : List.Forall₂ (fun a b => φ b = φ a) as bs) : bs.map φ = as.map φ := by
  induction h with
  | nil => rfl
  | cons hab _ ih => rw [List.map_cons, List.map_cons, hab, ih]

/-- Lists that compare place by place still do after a change at each place that keeps the
comparison. -/
theorem forall₂_mapIdx {S : α → α → Prop} {as bs : List α} (h : List.Forall₂ R as bs)
    {f g : Nat → α → α} (hS : ∀ i a b, R a b → S (f i a) (g i b)) :
    List.Forall₂ S (as.mapIdx f) (bs.mapIdx g) := by
  induction h generalizing f g with
  | nil => exact .nil
  | cons hab _ ih =>
    rw [List.mapIdx_cons, List.mapIdx_cons]
    exact .cons (hS 0 _ _ hab) (ih fun i => hS (i + 1))

/-- A list compares with itself changed at one place, if the comparison of elements is reflexive and
holds of that change. -/
theorem forall₂_modify (hR : ∀ a, R a a) {change : α → α} (hc : ∀ a, R a (change a)) (as : List α)
    (i : Nat) : List.Forall₂ R as (as.modify i change) := by
  induction as generalizing i with
  | nil => cases i <;> exact .nil
  | cons a as ih =>
    cases i with
    | zero => exact .cons (hc a) (List.forall₂_same.2 fun b _ => hR b)
    | succ i => exact .cons (hR a) (ih i)

/-- A list that has an element at a place, and is another list elsewhere, is that list with the
element put in the place. -/
theorem eq_set {as bs : List α} {a : α} {i : Nat} (hi : i < as.length) (ha : bs[i]? = some a)
    (h : ∀ j, i ≠ j → bs[j]? = as[j]?) : bs = as.set i a := by
  refine List.ext_getElem? ?_
  intro j
  rw [List.getElem?_set]
  by_cases hij : i = j
  · subst hij
    rw [if_pos rfl, if_pos hi, ha]
  · rw [if_neg hij, h j hij]

end ItemSieve
