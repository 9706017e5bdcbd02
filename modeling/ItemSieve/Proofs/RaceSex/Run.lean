import ItemSieve.Proofs.Filter.Call
import ItemSieve.Proofs.Filter.Check
import ItemSieve.Proofs.Filter.Tag

/-!
# Runs of a race/sex filter

What can happen to a race/sex filter, as data (`RaceSexFilter.Call`), and in any order
(`RaceSexFilter.run`). Apart from a check, which only remembers a failure, a call does one of the
few things in `RaceSexFilter.Leaves`; so whatever happens, the options and the rules stay the ones
the filter was made with, and every index it keeps is that of an option
(`RaceSexFilter.InRange.run`). Calls that a view of the filter does not see may be left out of a run
(`RaceSexFilter.run_filter`).
-/

namespace ItemSieve.RaceSexFilter

variable {ρ : Type}

/-- The filter once the user plays another character: what `Filter.setCharacter` makes of a race/sex
filter. -/
def withCharacter (f : RaceSexFilter ρ) (who : Option Wearer) : RaceSexFilter ρ :=
  { f with character := who }

/-- What can happen to a race/sex filter. -/
inductive Call (ρ : Type) where
  | edit (e : Edit)
  | claim (token : String)
  | clearTag
  | takeChanged
  | check (r : ρ)
  /-- The user plays another character from now on. -/
  | setCharacter (who : Option Wearer)

namespace Call

/-- The filter after a call. -/
def run : Call ρ → RaceSexFilter ρ → RaceSexFilter ρ
  | edit e, f => (e.run f).getD f
  | claim token, f => (f.claim token).2
  | clearTag, f => f.clearTag
  | takeChanged, f => f.takeChanged.2
  | check r, f => (f.check r).after
  | setCharacter who, f => f.withCharacter who

/-- The lines that a call logs. Only a check logs any. -/
def log : Call ρ → RaceSexFilter ρ → List LogLine
  | check r, f => (f.check r).log
  | _, _ => []

/-- The call is a check. -/
def isCheck : Call ρ → Bool
  | check _ => true
  | _ => false

end Call

/-- The filter after some calls. -/
def run (f : RaceSexFilter ρ) (calls : List (Call ρ)) : RaceSexFilter ρ :=
  calls.foldl (fun f c => c.run f) f

/-! ## What a call does -/

/-- What a call other than a check may leave. -/
inductive Leaves (f : RaceSexFilter ρ) : RaceSexFilter ρ → Prop
  | unchanged : Leaves f f
  | selected {index : Nat} : index < f.options.length → Leaves f { f with selected := index }
  | tagged {index : Nat} : index < f.options.length →
      Leaves f { f with selected := index, beforeTag := some (f.beforeTag.getD f.selected) }
  | untagged : Leaves f { f with selected := f.beforeTag.getD f.selected, beforeTag := none }
  | polled : Leaves f { f with lastSeen := f.selected }
  | character (who : Option Wearer) : Leaves f (f.withCharacter who)

/-- An option that is found by a property is there. -/
theorem lt_of_indexOf? {f : RaceSexFilter ρ} {p : RaceSexOption → Bool} {index : Nat}
    (h : f.indexOf? p = some index) : index < f.options.length := by
  obtain ⟨o, ho, -⟩ := (isFirst_of_indexOf? h).holds
  exact (List.getElem?_eq_some_iff.1 ho).1

/-- An edit selects an option or ends a tag, if it does anything. A reset selects the choice of
nothing, which has to be there. -/
theorem leaves_edit {f : RaceSexFilter ρ} (hf : 0 < f.options.length) (e : Edit) :
    f.Leaves ((e.run f).getD f) := by
  cases he : e.run f with
  | none => exact .unchanged
  | some g =>
    rw [Option.getD_some]
    cases e with
    | select index =>
      obtain ⟨-, hlt, rfl⟩ := select_eq_some.1 he
      exact .selected hlt
    | selectCurrent =>
      obtain ⟨index, -, hselect⟩ := Option.bind_eq_some_iff.1 he
      obtain ⟨-, hlt, rfl⟩ := select_eq_some.1 hselect
      exact .selected hlt
    | reset =>
      cases Option.some.inj he
      rw [reset]
      split
      · rw [clearTag_eq]
        exact .untagged
      · exact .selected hf

/-- Every call but a check leaves one of the states in `Leaves`. -/
theorem Call.leaves {f : RaceSexFilter ρ} (hf : 0 < f.options.length) {c : Call ρ}
    (hc : c.isCheck = false) : f.Leaves (c.run f) := by
  cases c with
  | edit e => exact leaves_edit hf e
  | claim token =>
    rw [run, RaceSexFilter.claim]
    cases hmeant : f.meant? token with
    | none => exact .unchanged
    | some index => exact .tagged (lt_of_indexOf? (f.meant?_eq token ▸ hmeant))
  | clearTag =>
    rw [run, clearTag_eq]
    exact .untagged
  | takeChanged => exact .polled
  | check r => cases hc
  | setCharacter who => exact .character who

/-! ## What every run keeps -/

/-- Every index that the filter keeps is that of an option. -/
structure InRange (f : RaceSexFilter ρ) : Prop where
  selected : f.selected < f.options.length
  beforeTag : ∀ index ∈ f.beforeTag, index < f.options.length
  lastSeen : f.lastSeen < f.options.length

/-- The indices of a new filter are those of its first option. -/
theorem inRange_new (races : List Race) (rules : EquipRules ρ) (who : Option Wearer) :
    (new races rules who).InRange :=
  ⟨Nat.succ_pos _, nofun, Nat.succ_pos _⟩

/-- The selection to come back to is that of an option. -/
theorem InRange.getD {f : RaceSexFilter ρ} (h : f.InRange) :
    f.beforeTag.getD f.selected < f.options.length := by
  cases hb : f.beforeTag with
  | none => exact h.selected
  | some index => exact h.beforeTag index hb

/-- A call that is no check keeps the indices in range. -/
theorem InRange.of_leaves {f g : RaceSexFilter ρ} (h : f.InRange) (hg : f.Leaves g) :
    g.InRange := by
  cases hg with
  | unchanged => exact h
  | selected hlt => exact ⟨hlt, h.beforeTag, h.lastSeen⟩
  | tagged hlt =>
    refine ⟨hlt, ?_, h.lastSeen⟩
    rintro index ⟨⟩
    exact h.getD
  | untagged => exact ⟨h.getD, nofun, h.lastSeen⟩
  | polled => exact ⟨h.selected, h.beforeTag, h.selected⟩
  | character => exact ⟨h.selected, h.beforeTag, h.lastSeen⟩

/-- The filters have the same options and the same rules. -/
def SameMake (f g : RaceSexFilter ρ) : Prop :=
  g.options = f.options ∧ g.rules = f.rules

/-- A call other than a check changes neither the options and the rules nor what is remembered of
the log. -/
theorem Leaves.keeps {f g : RaceSexFilter ρ} (h : f.Leaves g) :
    f.SameMake g ∧ g.reported = f.reported := by
  cases h <;> exact ⟨⟨rfl, rfl⟩, rfl⟩

/-- No call makes an index leave the options, and none changes the options or the rules. -/
theorem InRange.call {f : RaceSexFilter ρ} (h : f.InRange) (c : Call ρ) :
    (c.run f).InRange ∧ f.SameMake (c.run f) := by
  have hoptions : 0 < f.options.length := Nat.zero_lt_of_lt h.selected
  cases c with
  | check r =>
    obtain ⟨ms, hms⟩ := f.check_after r
    rw [Call.run, hms]
    exact ⟨⟨h.selected, h.beforeTag, h.lastSeen⟩, rfl, rfl⟩
  | edit | claim | clearTag | takeChanged | setCharacter =>
    exact ⟨h.of_leaves (Call.leaves hoptions rfl), (Call.leaves hoptions rfl).keeps.1⟩

/-- In every state of a filter all indices are those of options, and its options and rules are those
that it was made with. -/
theorem InRange.run {f : RaceSexFilter ρ} (h : f.InRange) (calls : List (Call ρ)) :
    (f.run calls).InRange ∧ f.SameMake (f.run calls) := by
  induction calls generalizing f with
  | nil => exact ⟨h, rfl, rfl⟩
  | cons c rest ih =>
    obtain ⟨hrange, hoptions, hrules⟩ := h.call c
    obtain ⟨hrange', hoptions', hrules'⟩ := ih hrange
    exact ⟨hrange', hoptions'.trans hoptions, hrules'.trans hrules⟩

/-! ## Calls that are not seen -/

/-- Calls without an effect on a view of the filter may be left out of a run, as far as the view
goes, if the other calls of the run look at nothing else. -/
theorem run_filter (view : RaceSexFilter ρ → RaceSexFilter ρ) {kept : Call ρ → Bool}
    {calls : List (Call ρ)}
    (hskip : ∀ c ∈ calls, kept c = false → ∀ f, view (c.run f) = view f)
    (hkeep : ∀ c ∈ calls, kept c = true → ∀ f, view (c.run f) = view (c.run (view f)))
    {f g : RaceSexFilter ρ} (h : view f = view g) :
    view (f.run calls) = view (g.run (calls.filter kept)) := by
  induction calls generalizing f g with
  | nil => exact h
  | cons c rest ih =>
    have hrest := @ih (fun c hc => hskip c (List.mem_cons_of_mem _ hc))
      fun c hc => hkeep c (List.mem_cons_of_mem _ hc)
    rw [List.filter_cons]
    cases hc : kept c with
    | false =>
      refine hrest ?_
      rw [hskip c List.mem_cons_self hc, h]
    | true =>
      refine hrest ?_
      rw [hkeep c List.mem_cons_self hc, h, ← hkeep c List.mem_cons_self hc]

end ItemSieve.RaceSexFilter
