import ItemSieve.Proofs.Filter.Call

/-!
# Which tokens a filter takes

Whether a filter takes a token (`Filter.takes`) hangs on the token and on what edits, polls and tags
never change: the name of a yes/no filter, the options of a race/sex filter and the character the
user plays. A filter that takes a token follows it (`Filter.Follows`, `Filter.follows_claim`), and
of the tokens it takes one after another only the last one counts (`Filter.claim_claim`).
-/

namespace ItemSieve

variable {ρ : Type}

namespace YesNoFilter

/-- The token is the name of the filter, alone or behind `not`. -/
def takes (f : YesNoFilter ρ) (token : String) : Bool :=
  Tag.normal token == Tag.normal f.name || Tag.normal token == "not" ++ Tag.normal f.name

/-- The two tags of a filter differ. -/
theorem noTag_ne_yesTag (f : YesNoFilter ρ) : f.noTag ≠ f.yesTag := by
  intro h
  have hl := congrArg String.length h
  rw [noTag, String.length_append] at hl
  have h3 : "not".length = 3 := rfl
  omega

/-- A tag leaves the leg open that it names. -/
theorem claim_eq (f : YesNoFilter ρ) (token : String) :
    f.claim token =
      if f.takes token then
        (.claimed, { f with tag := some (Tag.normal token == Tag.normal f.name) })
      else (.rejected, f) := by
  have hne : "not" ++ Tag.normal f.name ≠ Tag.normal f.name := f.noTag_ne_yesTag
  simp only [claim, takes, noTag, yesTag]
  by_cases hn : Tag.normal token = "not" ++ Tag.normal f.name
  · simp [hn, hne]
  · by_cases hy : Tag.normal token = Tag.normal f.name
    · simp [hy, hne.symm]
    · simp [hn, hy]

end YesNoFilter

namespace RaceSexFilter

/-- The token stands for the option: `self` for that of the character the user plays, any other
token for those that have it as label. -/
def means (f : RaceSexFilter ρ) (token : String) (o : RaceSexOption) : Bool :=
  if Tag.normal token == "self" then f.character == some o.wearer
  else Tag.normal o.label == Tag.normal token

/-- Nothing is found if no option behind the choice of nothing has the property. -/
theorem indexOf?_eq_none {f : RaceSexFilter ρ} {p : RaceSexOption → Bool} :
    f.indexOf? p = none ↔ ∀ o ∈ f.options.drop 1, p o = false := by
  rw [indexOf?, Option.map_eq_none_iff, List.findIdx?_eq_none_iff]

/-- The option for the character the user plays is the first one with its race and its sex. -/
theorem current?_eq (f : RaceSexFilter ρ) :
    f.current? = f.indexOf? fun o => f.character == some o.wearer := by
  cases hc : f.character with
  | none =>
    have hnone : f.indexOf? (fun o => none == some o.wearer) = none :=
      indexOf?_eq_none.2 fun o _ => rfl
    rw [current?, hc, hnone, Option.bind_none]
  | some w => simp [current?, hc, BEq.comm]

/-- A token selects the first option that it stands for. -/
theorem meant?_eq (f : RaceSexFilter ρ) (token : String) :
    f.meant? token = f.indexOf? (f.means token) := by
  unfold means
  by_cases h : Tag.normal token = "self"
  · simp [meant?, selfTag, h, current?_eq]
  · simp [meant?, selfTag, h, tagged?, RaceSexOption.tag]

/-- The option found stands behind the choice of nothing and is the first with the property. -/
theorem indexOf?_eq_some {f : RaceSexFilter ρ} {p : RaceSexOption → Bool} {index : Nat}
    (h : f.indexOf? p = some index) :
    0 < index ∧ (∃ o, f.options[index]? = some o ∧ p o) ∧
      ∀ j, 0 < j → j < index → ∀ o, f.options[j]? = some o → p o = false := by
  obtain ⟨k, hk, rfl⟩ := Option.map_eq_some_iff.1 h
  obtain ⟨hlt, hp, hmin⟩ := List.findIdx?_eq_some_iff_getElem.1 hk
  simp only [List.getElem_drop] at hp hmin
  rw [List.length_drop] at hlt
  refine ⟨Nat.succ_pos k, ⟨_, List.getElem?_eq_getElem (by omega), ?_⟩, fun j hj hjk o ho => ?_⟩
  · simpa [Nat.add_comm] using hp
  · obtain ⟨i, rfl⟩ : ∃ i, j = i + 1 := ⟨j - 1, by omega⟩
    have := hmin i (by omega)
    obtain ⟨hi, rfl⟩ := List.getElem?_eq_some_iff.1 ho
    simpa [Nat.add_comm] using this

/-- The option at the place is the first one behind the choice of nothing that has the property. -/
structure IsFirst (f : RaceSexFilter ρ) (p : RaceSexOption → Bool) (index : Nat) : Prop where
  pos : 0 < index
  holds : ∃ o, f.options[index]? = some o ∧ p o
  first : ∀ j, 0 < j → j < index → ∀ o, f.options[j]? = some o → p o = false

/-- The option that is found is the first one with the property. -/
theorem isFirst_of_indexOf? {f : RaceSexFilter ρ} {p : RaceSexOption → Bool} {index : Nat}
    (h : f.indexOf? p = some index) : f.IsFirst p index := by
  obtain ⟨hpos, hholds, hfirst⟩ := indexOf?_eq_some h
  exact ⟨hpos, hholds, hfirst⟩

/-- Without a tag an option that is found can be selected. -/
theorem select_of_indexOf? {f : RaceSexFilter ρ} {p : RaceSexOption → Bool} {index : Nat}
    (hf : f.fromTag = false) (h : f.indexOf? p = some index) :
    f.select index = some { f with selected := index } := by
  obtain ⟨-, ⟨o, ho, -⟩, -⟩ := indexOf?_eq_some h
  obtain ⟨hlt, -⟩ := List.getElem?_eq_some_iff.1 ho
  exact select_eq_some.2 ⟨Option.isNone_iff_eq_none.1 (Option.isSome_eq_false_iff.1 hf), hlt, rfl⟩

/-- The token stands for an option, the choice of nothing apart. -/
def takes (f : RaceSexFilter ρ) (token : String) : Bool :=
  (f.options.drop 1).any (f.means token)

/-- The tokens that a race/sex filter takes are those that mean an option. -/
theorem isSome_meant? (f : RaceSexFilter ρ) (token : String) :
    (f.meant? token).isSome = f.takes token := by
  rw [meant?_eq, indexOf?, Option.isSome_map, List.findIdx?_isSome, takes]

end RaceSexFilter

namespace Filter

/-- The filter takes the token as a tag. A patch filter has no tags. -/
def takes (token : String) : Filter ρ → Bool
  | yesNo f => f.takes token
  | patch _ => false
  | raceSex f => f.takes token

/-- The filter takes the token as one that stands for another tag, which only `self` does. -/
def resolves (token : String) : Filter ρ → Bool
  | raceSex _ => Tag.normal token == "self"
  | _ => false

/-- How a filter answers a token. -/
theorem claim_fst (f : Filter ρ) (token : String) :
    (f.claim token).1 =
      if f.takes token then if f.resolves token then .resolved else .claimed else .rejected := by
  cases f with
  | yesNo f =>
    by_cases h : f.takes token <;> simp [claim, f.claim_eq, takes, resolves, h]
  | patch f => rfl
  | raceSex f =>
    simp only [claim, RaceSexFilter.claim, takes, ← f.isSome_meant? token, resolves]
    cases f.meant? token with
    | none => rfl
    | some index => simp [RaceSexFilter.selfTag]

/-- A filter consumes the tokens that it takes. -/
theorem isConsumed_claim (f : Filter ρ) (token : String) :
    (f.claim token).1.isConsumed = f.takes token := by
  rw [claim_fst]
  cases f.takes token <;> cases f.resolves token <;> rfl

/-- A token that is refused changes nothing. -/
theorem claim_snd_of_not_takes {f : Filter ρ} {token : String} (h : f.takes token = false) :
    (f.claim token).2 = f := by
  cases f with
  | yesNo f =>
    have h : f.takes token = false := h
    simp [claim, f.claim_eq, h]
  | patch f => rfl
  | raceSex f =>
    have h : f.takes token = false := h
    rw [← f.isSome_meant?, Option.isSome_eq_false_iff, Option.isNone_iff_eq_none] at h
    simp [claim, RaceSexFilter.claim, h]

/-- Tokens with the same normal form are taken by the same filters. -/
theorem takes_congr {t u : String} (h : Tag.normal t = Tag.normal u) (f : Filter ρ) :
    f.takes t = f.takes u := by
  cases f with
  | yesNo f => simp only [takes, YesNoFilter.takes, h]
  | patch f => rfl
  | raceSex f =>
    have hmeans : f.means t = f.means u := by
      funext o
      rw [RaceSexFilter.means, RaceSexFilter.means, h]
    rw [takes, takes, RaceSexFilter.takes, RaceSexFilter.takes, hmeans]

/-! ## Tags taken before have no influence -/

@[simp] theorem name_claim (f : Filter ρ) (token : String) : (f.claim token).2.name = f.name := by
  cases f with
  | yesNo f =>
    simp only [claim, f.claim_eq]
    cases f.takes token <;> rfl
  | patch f => rfl
  | raceSex f => rfl

@[simp] theorem takes_claim (f : Filter ρ) (token t : String) :
    (f.claim token).2.takes t = f.takes t := by
  cases f with
  | yesNo f =>
    simp only [claim, f.claim_eq]
    cases f.takes token <;> rfl
  | patch f => rfl
  | raceSex f =>
    simp only [claim, RaceSexFilter.claim]
    cases f.meant? token <;> rfl

@[simp] theorem resolves_claim (f : Filter ρ) (token t : String) :
    (f.claim token).2.resolves t = f.resolves t := by
  cases f <;> rfl

@[simp] theorem name_clearTag (f : Filter ρ) : f.clearTag.name = f.name := by
  cases f <;> rfl

@[simp] theorem takes_clearTag (f : Filter ρ) (t : String) : f.clearTag.takes t = f.takes t := by
  cases f with
  | yesNo f | patch f => rfl
  | raceSex f =>
    rw [clearTag, RaceSexFilter.clearTag_eq]
    rfl

@[simp] theorem resolves_clearTag (f : Filter ρ) (t : String) :
    f.clearTag.resolves t = f.resolves t := by
  cases f <;> rfl

/-- The filters answer to the same tokens under the same name. -/
def SameTags (f g : Filter ρ) : Prop :=
  g.name = f.name ∧ ∀ token, g.takes token = f.takes token ∧ g.resolves token = f.resolves token

theorem SameTags.refl (f : Filter ρ) : f.SameTags f :=
  ⟨rfl, fun _ => ⟨rfl, rfl⟩⟩

/-- A tag leaves the tokens that the filter answers to. -/
theorem sameTags_claim (f : Filter ρ) (token : String) : f.SameTags (f.claim token).2 :=
  ⟨f.name_claim token, fun t => ⟨f.takes_claim token t, f.resolves_claim token t⟩⟩

/-- The end of a tag leaves the tokens that the filter answers to. -/
theorem sameTags_clearTag (f : Filter ρ) : f.SameTags f.clearTag :=
  ⟨f.name_clearTag, fun t => ⟨f.takes_clearTag t, f.resolves_clearTag t⟩⟩

/-! ## The tag in force -/

/-- The filter follows the token: the leg that it names is open, or the first option that it stands
for is selected, for as long as the tag is in force. -/
def Follows (token : String) : Filter ρ → Prop
  | yesNo f => f.tag = some (Tag.normal token == Tag.normal f.name)
  | patch _ => False
  | raceSex f =>
    f.beforeTag.isSome ∧ 0 < f.selected ∧
      (∃ o, f.options[f.selected]? = some o ∧ f.means token o) ∧
      ∀ j, 0 < j → j < f.selected → ∀ o, f.options[j]? = some o → f.means token o = false

/-- A filter follows the token it has taken. -/
theorem follows_claim {f : Filter ρ} {token : String} (h : f.takes token) :
    (f.claim token).2.Follows token := by
  cases f with
  | yesNo f =>
    have h : f.takes token := h
    simp [claim, f.claim_eq, h, Follows]
  | patch f => cases h
  | raceSex f =>
    have h : f.takes token := h
    rw [← f.isSome_meant?] at h
    obtain ⟨index, hi⟩ := Option.isSome_iff_exists.1 h
    simp only [claim, RaceSexFilter.claim, hi, Prod.map_snd, Follows]
    exact ⟨rfl, RaceSexFilter.indexOf?_eq_some (f.meant?_eq token ▸ hi)⟩

/-- A filter follows some token exactly while a tag is in force. -/
theorem Follows.fromTag {f : Filter ρ} {token : String} (h : f.Follows token) :
    f.fromTag = true := by
  cases f with
  | yesNo f => simp [Filter.fromTag, show f.tag = _ from h]
  | patch f => cases h
  | raceSex f => exact h.1

@[simp] theorem fromTag_clearTag (f : Filter ρ) : f.clearTag.fromTag = false := by
  cases f with
  | yesNo f | patch f => rfl
  | raceSex f =>
    rw [clearTag, RaceSexFilter.clearTag_eq]
    rfl

/-- A yes/no filter is under a tag as long as it keeps one. -/
theorem fromTag_yesNo {f : YesNoFilter ρ} : (yesNo f).fromTag = false ↔ f.tag = none := by
  rw [fromTag, Option.isSome_eq_false_iff, Option.isNone_iff_eq_none]

/-- A race/sex filter is under a tag as long as it keeps the selection before it. -/
theorem fromTag_raceSex {f : RaceSexFilter ρ} :
    (raceSex f).fromTag = false ↔ f.beforeTag = none := by
  rw [fromTag, RaceSexFilter.fromTag, Option.isSome_eq_false_iff, Option.isNone_iff_eq_none]

/-- A filter without a tag has no tag to end. -/
theorem clearTag_of_fromTag {f : Filter ρ} (h : f.fromTag = false) : f.clearTag = f := by
  cases f with
  | yesNo f => rw [clearTag, YesNoFilter.clearTag, ← fromTag_yesNo.1 h]
  | patch f => rfl
  | raceSex f => rw [clearTag, RaceSexFilter.clearTag, fromTag_raceSex.1 h]

/-- To end a tag twice is to end it once. -/
theorem clearTag_clearTag (f : Filter ρ) : f.clearTag.clearTag = f.clearTag :=
  clearTag_of_fromTag f.fromTag_clearTag

/-- When the tag ends, the filter is as if it had never taken it. Under a second tag the selection
to come back to stays that of the first. -/
theorem clearTag_claim (f : Filter ρ) (token : String) :
    (f.claim token).2.clearTag = f.clearTag := by
  cases f with
  | yesNo f =>
    simp only [claim, f.claim_eq]
    cases f.takes token <;> rfl
  | patch f => rfl
  | raceSex f =>
    simp only [claim, RaceSexFilter.claim]
    cases f.meant? token with
    | none => rfl
    | some index => simp [clearTag, RaceSexFilter.clearTag_eq]

/-- Of two tokens that a filter is offered one after another, only the second one counts if the
filter takes it. The selection to come back to is the one before the first. -/
theorem claim_claim {f : Filter ρ} {t u : String} (h : f.takes u) :
    ((f.claim t).2.claim u).2 = (f.claim u).2 := by
  cases ht : f.takes t with
  | false => rw [claim_snd_of_not_takes ht]
  | true =>
    cases f with
    | yesNo f =>
      have h (x : Option Bool) : ({ f with tag := x } : YesNoFilter ρ).takes u := h
      have ht : f.takes t := ht
      simp only [claim, YesNoFilter.claim_eq, ht, ↓reduceIte, Prod.map_snd, h _]
    | patch f => rfl
    | raceSex f =>
      obtain ⟨i, hi⟩ := Option.isSome_iff_exists.1 ((f.isSome_meant? t).trans ht)
      obtain ⟨j, hj⟩ := Option.isSome_iff_exists.1 ((f.isSome_meant? u).trans h)
      have hj' (x : Nat) (b : Option Nat) :
          ({ f with selected := x, beforeTag := b } : RaceSexFilter ρ).meant? u = some j := hj
      simp only [claim, RaceSexFilter.claim, hi, hj, hj', Prod.map_snd, Option.getD_some]

end Filter

end ItemSieve
