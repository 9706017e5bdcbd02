import Mathlib.Data.List.Basic
import ItemSieve.Proofs.RaceSex.Run

/-!
# Options, bodies and the character the user plays

The options behind the choice of nothing are the bodies of the races, in order
(`RaceSexFilter.wearers_new`). So there is an option for a wearer exactly if some race of that
number has the body, and `self` and the request for the current character find it, whatever was done
with the filter before: never the choice of nothing, though that comes with a wearer as well. What
they find is looked up once. That the user comes to play another character is seen by the next
lookup, and by nothing else (`RaceSexFilter.self_run`).
-/

namespace ItemSieve

variable {ρ : Type}

/-- The race has a body of the sex. -/
def Race.hasBody (r : Race) : Sex → Bool
  | .male => r.hasMaleBody
  | .female => r.hasFemaleBody

/-- The bodies of a race. -/
def Race.bodies (r : Race) : List Sex :=
  [Sex.male, Sex.female].filter r.hasBody

/-- The bodies of a race are those that it is said to have. -/
theorem Race.mem_bodies {r : Race} {s : Sex} : s ∈ r.bodies ↔ r.hasBody s = true := by
  rw [bodies, List.mem_filter]
  cases s <;> simp

/-- A race has one option for each of its bodies. -/
theorem RaceSexOption.wearers_ofRace (r : Race) :
    (ofRace r).map (·.wearer) = r.bodies.map (⟨r.id, ·⟩) := by
  obtain ⟨id, masculine, feminine, hasMaleBody, hasFemaleBody⟩ := r
  cases hasMaleBody <;> cases hasFemaleBody <;> rfl

namespace RaceSexFilter

/-! ## The options -/

/-- Behind the choice of nothing there is one option for each body of the races. -/
theorem wearers_new (races : List Race) (rules : EquipRules ρ) (who : Option Wearer) :
    ((new races rules who).options.drop 1).map (·.wearer) =
      races.flatMap fun r => r.bodies.map (⟨r.id, ·⟩) := by
  rw [new, List.drop_one, List.tail_cons, List.map_flatMap]
  exact List.flatMap_congr fun r _ => RaceSexOption.wearers_ofRace r

/-- There is an option for a wearer exactly if a race of the number has the body. -/
theorem exists_option_iff (races : List Race) (rules : EquipRules ρ) (who : Option Wearer)
    (w : Wearer) :
    (∃ o ∈ (new races rules who).options.drop 1, o.wearer = w) ↔
      ∃ r ∈ races, r.id = w.race ∧ r.hasBody w.sex = true := by
  rw [← List.mem_map, wearers_new, List.mem_flatMap]
  simp only [List.mem_map, Race.mem_bodies]
  obtain ⟨race, sex⟩ := w
  constructor
  · rintro ⟨r, hr, s, hs, ⟨⟩⟩
    exact ⟨r, hr, rfl, hs⟩
  · rintro ⟨r, hr, rfl, hs⟩
    exact ⟨r, hr, sex, hs, rfl⟩

/-- A new filter has an option for each body of each race, and the choice of nothing. -/
theorem length_options_new (races : List Race) (rules : EquipRules ρ) (who : Option Wearer) :
    (new races rules who).options.length = 1 + (races.flatMap Race.bodies).length := by
  have hlength := congrArg List.length (wearers_new races rules who)
  simp only [List.length_map, List.length_drop, List.length_flatMap] at hlength
  rw [List.length_flatMap, ← hlength]
  have hpos : 0 < (new races rules who).options.length := Nat.succ_pos _
  omega

/-! ## The character the user plays -/

/-- It is known which character the user plays, and there is an option for it. -/
def HasCurrent (f : RaceSexFilter ρ) : Prop :=
  ∃ w, f.character = some w ∧ ∃ o ∈ f.options.drop 1, o.wearer = w

/-- The option of the character the user plays is selected, and not the choice of nothing. -/
structure ShowsCurrent (f : RaceSexFilter ρ) : Prop where
  selected_ne : f.selected ≠ 0
  selected_lt : f.selected < f.options.length
  character : f.character = some f.option.wearer

/-- An option is found for the character exactly if there is one. -/
theorem isSome_current? {f : RaceSexFilter ρ} : f.current?.isSome ↔ f.HasCurrent := by
  rw [current?_eq, indexOf?, Option.isSome_map, List.findIdx?_isSome, List.any_eq_true, HasCurrent]
  constructor
  · rintro ⟨o, ho, hw⟩
    exact ⟨o.wearer, beq_iff_eq.1 hw, o, ho, rfl⟩
  · rintro ⟨w, hw, o, ho, rfl⟩
    exact ⟨o, ho, beq_iff_eq.2 hw⟩

/-- With the option selected that is found for the character the user plays, that option is shown,
whatever tag is in force. -/
theorem showsCurrent_of_current? {f : RaceSexFilter ρ} {index : Nat} (h : f.current? = some index)
    (beforeTag : Option Nat) : ShowsCurrent { f with selected := index, beforeTag } := by
  rw [current?_eq] at h
  obtain ⟨hpos, ⟨o, ho, hw⟩, -⟩ := isFirst_of_indexOf? h
  refine ⟨Nat.ne_of_gt hpos, lt_of_indexOf? h, ?_⟩
  rw [option, ho]
  exact beq_iff_eq.1 hw

/-- A token that says `self` is resolved into the option of the character the user plays, and
rejected without one. -/
theorem claim_self (f : RaceSexFilter ρ) {token : String} (htoken : Tag.normal token = selfTag) :
    f.claim token =
      match f.current? with
      | none => (.rejected, f)
      | some index =>
        (.resolved,
          { f with selected := index, beforeTag := some (f.beforeTag.getD f.selected) }) := by
  have hmeant : f.meant? token = f.current? := by
    rw [meant?, htoken, beq_self_eq_true, if_pos rfl]
  rw [claim, hmeant, htoken, beq_self_eq_true]
  cases f.current? with
  | none => rfl
  | some index => rfl

/-- The request for the option of the character the user plays is refused under a tag, and when
there is no such option. -/
theorem selectCurrent_eq_some {f g : RaceSexFilter ρ} :
    f.selectCurrent = some g ↔
      ∃ index, f.current? = some index ∧ f.fromTag = false ∧ g = { f with selected := index } := by
  rw [selectCurrent, Option.bind_eq_some_iff]
  refine exists_congr fun index => and_congr_right fun hindex => ?_
  rw [current?_eq] at hindex
  have hnone : f.beforeTag = none ↔ f.fromTag = false := by
    rw [fromTag, Option.isSome_eq_false_iff, Option.isNone_iff_eq_none]
  rw [select_eq_some, hnone]
  exact and_congr_right fun _ => and_iff_right (lt_of_indexOf? hindex)

/-! ## Another character -/

/-- The call looks up the option of the character the user plays, or may do so. -/
def Call.looksUp : Call ρ → Bool
  | claim _ | edit .selectCurrent => true
  | _ => false

/-- The call says that the user plays another character. -/
def Call.isSetCharacter : Call ρ → Bool
  | setCharacter _ => true
  | _ => false

/-- A selection does not look at the character the user plays. -/
theorem select_withCharacter (f : RaceSexFilter ρ) (index : Nat) (who : Option Wearer) :
    (f.withCharacter who).select index = (f.select index).map (·.withCharacter who) := by
  unfold select
  by_cases h : (f.fromTag || decide (f.options.length ≤ index)) = true
  · rw [if_pos h]
    exact if_pos h
  · rw [if_neg h]
    exact if_neg h

/-- A check does not look at the character the user plays. -/
theorem check_withCharacter (f : RaceSexFilter ρ) (r : ρ) (who : Option Wearer) :
    (f.withCharacter who).check r =
      ⟨(f.check r).answer, (f.check r).after.withCharacter who, (f.check r).log⟩ := by
  rw [check_eq, check_eq]
  rfl

/-- Only the calls that look up the character the user plays see it change. -/
theorem Call.run_withCharacter {c : Call ρ} (hlooks : c.looksUp = false)
    (hset : c.isSetCharacter = false) (f : RaceSexFilter ρ) (who : Option Wearer) :
    c.run (f.withCharacter who) = (c.run f).withCharacter who := by
  cases c with
  | edit e =>
    cases e with
    | select index =>
      simp only [run, Edit.run, select_withCharacter]
      cases f.select index <;> rfl
    | selectCurrent => cases hlooks
    | reset => simp only [run, Edit.run, reset_eq, Option.getD_some, withCharacter]
  | claim token => cases hlooks
  | clearTag => simp only [run, clearTag_eq, withCharacter]
  | takeChanged => rfl
  | check r => rw [run, run, check_withCharacter]
  | setCharacter who' => cases hset

/-- As long as the character the user plays is not looked up, it may change without a trace in the
selection and in the checks. -/
theorem run_without_characters {later : List (Call ρ)} (h : ∀ c ∈ later, c.looksUp = false)
    (f : RaceSexFilter ρ) :
    let g := f.run later
    let g' := f.run (later.filter (!·.isSetCharacter))
    g.selected = g'.selected ∧
      ∀ r, (g.check r).answer = (g'.check r).answer ∧ (g.check r).log = (g'.check r).log := by
  intro g g'
  have hsame : g.withCharacter none = g'.withCharacter none := by
    refine run_filter (·.withCharacter none) ?_ ?_ rfl
    · intro c _ hkept f
      cases c with
      | setCharacter who => rfl
      | edit | claim | clearTag | takeChanged | check => cases hkept
    · intro c hc hkept f
      rw [Call.run_withCharacter (h c hc) (by simpa using hkept)]
      rfl
  have hselected : (g.withCharacter none).selected = (g'.withCharacter none).selected := by
    rw [hsame]
  refine ⟨hselected, ?_⟩
  intro r
  have hcheck : (g.withCharacter none).check r = (g'.withCharacter none).check r := by rw [hsame]
  rw [check_withCharacter, check_withCharacter, Checked.mk.injEq] at hcheck
  exact ⟨hcheck.1, hcheck.2.2⟩

/-- Behind the choice of nothing the options are the bodies of the races: there is one for a race
and a sex exactly if some race of that number has that body, and there are as many as there are
bodies. In every state of the filter a token that says `self` is resolved if it is known which
character the user plays and there is an option for it, and rejected otherwise; the request for the
current character goes through if, besides, no tag is in force; and either of them leaves the option
of the character selected, which is not the choice of nothing. When the user comes to play another
character later on, this changes neither the selection nor any check before the next token or the
next request. -/
theorem self_run (races : List Race) (rules : EquipRules ρ) (who : Option Wearer)
    (calls : List (Call ρ)) {token : String} (htoken : Tag.normal token = selfTag) :
    let f := (new races rules who).run calls
    (∀ w, (∃ o ∈ f.options.drop 1, o.wearer = w) ↔
        ∃ r ∈ races, r.id = w.race ∧ r.hasBody w.sex = true) ∧
      f.options.length = 1 + (races.flatMap Race.bodies).length ∧
      ((f.claim token).1 = .resolved ↔ f.HasCurrent) ∧
      ((f.claim token).1 = .rejected ↔ ¬ f.HasCurrent) ∧
      (f.selectCurrent.isSome ↔ f.HasCurrent ∧ f.fromTag = false) ∧
      ((f.claim token).1 = .resolved → (f.claim token).2.ShowsCurrent) ∧
      (∀ g, f.selectCurrent = some g → g.ShowsCurrent) ∧
      ∀ later : List (Call ρ), (∀ c ∈ later, c.looksUp = false) →
        let g := f.run later
        let g' := f.run (later.filter (!·.isSetCharacter))
        g.selected = g'.selected ∧
          ∀ r, (g.check r).answer = (g'.check r).answer ∧ (g.check r).log = (g'.check r).log := by
  intro f
  have hoptions : f.options = (new races rules who).options :=
    ((inRange_new races rules who).run calls).2.1
  have hclaim := f.claim_self htoken
  have hcurrent := isSome_current? (f := f)
  refine ⟨?_, ?_, ?_, ?_, ?_, ?_, ?_, fun later h => run_without_characters h f⟩
  · rw [hoptions]
    exact exists_option_iff races rules who
  · rw [hoptions, length_options_new]
  · rw [hclaim, ← hcurrent]
    cases f.current? <;> simp
  · rw [hclaim, ← hcurrent]
    cases f.current? <;> simp
  · rw [← hcurrent, Option.isSome_iff_exists, Option.isSome_iff_exists]
    simp only [selectCurrent_eq_some]
    constructor
    · rintro ⟨g, index, hindex, hfrom, -⟩
      exact ⟨⟨index, hindex⟩, hfrom⟩
    · rintro ⟨⟨index, hindex⟩, hfrom⟩
      exact ⟨_, index, hindex, hfrom, rfl⟩
  · rw [hclaim]
    cases hindex : f.current? with
    | none => exact nofun
    | some index => exact fun _ => showsCurrent_of_current? hindex _
  · intro g hg
    obtain ⟨index, hindex, -, rfl⟩ := selectCurrent_eq_some.1 hg
    exact showsCurrent_of_current? hindex f.beforeTag

/-- The wearer of the choice of nothing is found as any other if a race has the body. -/
theorem self_run_notSelected :
    let races : List Race :=
      [⟨7, "Miqo'te", "Miqo'te", false, true⟩, ⟨0, "Hyur", "Hyur", true, true⟩]
    let rules : EquipRules Unit := ⟨fun _ => .ok 0, fun _ _ => .ok true⟩
    let f := (new races rules none).run
      [.edit (.select 1), .setCharacter (some RaceSexOption.notSelected.wearer)]
    Tag.normal "'SELF'" = selfTag ∧ (f.claim "'SELF'").1 = .resolved ∧
      (f.claim "'SELF'").2.ShowsCurrent ∧ (f.claim "'SELF'").2.option.label = "Female Hyur" := by
  intro races rules f
  have htoken : Tag.normal "'SELF'" = selfTag := by decide +kernel
  have hbody : ∃ r ∈ races, r.id = RaceSexOption.notSelected.wearer.race ∧
      r.hasBody RaceSexOption.notSelected.wearer.sex = true :=
    ⟨⟨0, "Hyur", "Hyur", true, true⟩, by decide, rfl, rfl⟩
  obtain ⟨hoption, -, hresolved, -, -, hshows, -⟩ := self_run races rules none
    [.edit (.select 1), .setCharacter (some RaceSexOption.notSelected.wearer)] htoken
  have hclaim : (f.claim "'SELF'").1 = .resolved := hresolved.2 ⟨_, rfl, (hoption _).2 hbody⟩
  exact ⟨htoken, hclaim, hshows hclaim, by decide +kernel⟩

end RaceSexFilter

end ItemSieve
