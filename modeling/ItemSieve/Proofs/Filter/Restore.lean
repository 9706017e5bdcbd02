import ItemSieve.Proofs.Filter.Call
import ItemSieve.Proofs.Filter.Check
import ItemSieve.Proofs.Filter.Tag

/-!
# What a filter comes back to when its tag ends

Each kind of filter keeps the user's setting under a tag in its own way; `Filter.settled` is what it
comes back to, apart from what it remembers for polls and for the log. Tags, polls, checks and
refused edits keep it (`Filter.settled_run`). The edits that last are made without a tag
(`Filter.Call.lasts`), and they look neither at a tag nor at what is remembered
(`Filter.lasting_edit`). So a filter that tags have come over can be compared with one that has only
seen the edits that last: the first one comes back to the second (`Filter.Restores`).
-/

namespace ItemSieve

variable {ρ : Type}

/-- A selection does not look at what is remembered for polls and for the log. -/
theorem RaceSexFilter.select_unmarked (f : RaceSexFilter ρ) (index n : Nat) (ms : List String) :
    RaceSexFilter.select { f with lastSeen := n, reported := ms } index =
      (f.select index).map fun g => { g with lastSeen := n, reported := ms } := by
  unfold select
  by_cases h : (f.fromTag || decide (f.options.length ≤ index)) = true
  · rw [if_pos h]
    exact if_pos h
  · rw [if_neg h]
    exact if_neg h

/-- An edit of a race/sex filter does not look at what is remembered for polls and for the log. -/
theorem RaceSexFilter.Edit.run_unmarked (f : RaceSexFilter ρ) (e : Edit) (n : Nat)
    (ms : List String) :
    e.run { f with lastSeen := n, reported := ms } =
      (e.run f).map fun g => { g with lastSeen := n, reported := ms } := by
  cases e with
  | select index => exact f.select_unmarked index n ms
  | selectCurrent =>
    have hcurrent : RaceSexFilter.current? { f with lastSeen := n, reported := ms } = f.current? :=
      rfl
    simp only [run, RaceSexFilter.selectCurrent, hcurrent]
    cases f.current? with
    | none => rfl
    | some index => exact f.select_unmarked index n ms
  | reset => simp only [run, RaceSexFilter.reset_eq, Option.map_some]

namespace Filter

/-! ## Tags do not look at what is remembered -/

@[simp] theorem name_unmarked (f : Filter ρ) : f.unmarked.name = f.name := by
  cases f <;> rfl

@[simp] theorem takes_unmarked (f : Filter ρ) (token : String) :
    f.unmarked.takes token = f.takes token := by
  cases f <;> rfl

@[simp] theorem resolves_unmarked (f : Filter ρ) (token : String) :
    f.unmarked.resolves token = f.resolves token := by
  cases f <;> rfl

@[simp] theorem fromTag_unmarked (f : Filter ρ) : f.unmarked.fromTag = f.fromTag := by
  cases f <;> rfl

/-- A tag does not look at what is remembered, and does not change it. -/
theorem unmarked_claim (f : Filter ρ) (token : String) :
    (f.claim token).2.unmarked = (f.unmarked.claim token).2 := by
  cases f with
  | yesNo f =>
    simp only [claim, unmarked, YesNoFilter.claim_eq]
    have h : YesNoFilter.takes { f with modified := false } token = f.takes token := rfl
    rw [h]
    cases f.takes token <;> rfl
  | patch f => rfl
  | raceSex f =>
    simp only [claim, unmarked, RaceSexFilter.claim]
    have h : RaceSexFilter.meant? { f with lastSeen := 0, reported := [] } token = f.meant? token :=
      rfl
    rw [h]
    cases f.meant? token <;> rfl

/-- The end of a tag does not look at what is remembered, and does not change it. -/
theorem unmarked_clearTag (f : Filter ρ) : f.clearTag.unmarked = f.unmarked.clearTag := by
  cases f with
  | yesNo f | patch f => rfl
  | raceSex f => simp only [clearTag, unmarked, RaceSexFilter.clearTag_eq]

/-! ## What a filter comes back to -/

/-- The filter once its tag is ended, without what it remembers for polls and for the log. -/
def settled (f : Filter ρ) : Filter ρ :=
  f.clearTag.unmarked

/-- A filter without a tag comes back to itself, apart from what it remembers. -/
theorem settled_of_fromTag {f : Filter ρ} (h : f.fromTag = false) : f.settled = f.unmarked := by
  rw [settled, clearTag_of_fromTag h]

/-- What is remembered has no influence on what a filter comes back to. -/
theorem settled_congr {f g : Filter ρ} (h : f.unmarked = g.unmarked) : f.settled = g.settled := by
  rw [settled, settled, unmarked_clearTag, unmarked_clearTag, h]

/-- The end of a tag keeps what the filter comes back to. -/
theorem settled_clearTag (f : Filter ρ) : f.clearTag.settled = f.settled := by
  rw [settled, clearTag_clearTag, settled]

/-- A tag keeps what the filter comes back to. -/
theorem settled_claim (f : Filter ρ) (token : String) : (f.claim token).2.settled = f.settled := by
  rw [settled, clearTag_claim, settled]

/-! ## Edits that last -/

/-- The call is an edit that lasts beyond a tag: one of a yes/no filter or of a race/sex filter made
while no tag is in force, the option to select being there, or any edit of a patch filter. -/
def Call.lasts : Call ρ → Filter ρ → Bool
  | .edit (.yesNo _), .yesNo f => f.tag.isNone
  | .edit (.patch _), .patch _ => true
  | .edit (.raceSex (.select index)), .raceSex f => !f.fromTag && decide (index < f.options.length)
  | .edit (.raceSex _), .raceSex f => !f.fromTag
  | _, _ => false

/-- An edit that lasts is made without a tag. -/
theorem fromTag_of_lasts {c : Call ρ} {f : Filter ρ} (h : c.lasts f = true) :
    f.fromTag = false := by
  unfold Call.lasts at h
  split at h
  · exact Option.isSome_eq_false_iff.2 h
  · rfl
  · simp only [Bool.and_eq_true, Bool.not_eq_true'] at h
    exact h.1
  · rw [Bool.not_eq_true'] at h
    exact h
  · cases h

/-- An edit of a race/sex filter that does not last does nothing or ends the tag. -/
theorem settled_raceSex_edit {f : RaceSexFilter ρ} {e : RaceSexFilter.Edit}
    (h : (Call.edit (.raceSex e)).lasts (raceSex f) = false) :
    (raceSex ((e.run f).getD f)).settled = (raceSex f).settled := by
  cases he : e.run f with
  | none => rfl
  | some g =>
    rcases RaceSexFilter.Edit.run_eq_some he with ⟨hb, index, rfl⟩ | rfl
    · exfalso
      cases e with
      | select index =>
        obtain ⟨-, hlt, -⟩ := RaceSexFilter.select_eq_some.1 he
        simp [Call.lasts, RaceSexFilter.fromTag, hb, hlt] at h
      | selectCurrent | reset => simp [Call.lasts, RaceSexFilter.fromTag, hb] at h
    · exact settled_clearTag (raceSex f)

/-- A call that is no edit that lasts keeps what the filter comes back to. -/
theorem settled_run {c : Call ρ} {f : Filter ρ} (h : c.lasts f = false) :
    (c.run f).settled = f.settled := by
  cases c with
  | claim token => exact f.settled_claim token
  | clearTag => exact f.settled_clearTag
  | takeChanged => exact settled_congr f.unmarked_takeChanged
  | check r => exact settled_congr (f.check_after r).unmarked_eq
  | edit e =>
    cases e with
    | yesNo e =>
      cases f with
      | yesNo f =>
        have he : e.run f = none := by
          refine Option.eq_none_iff_forall_ne_some.2 fun g hg => ?_
          rw [Call.lasts, (YesNoFilter.Edit.run_eq_some.1 hg).1] at h
          cases h
        rw [Call.run_yesNo, he, Option.getD_none]
      | patch f | raceSex f => rfl
    | patch e =>
      cases f with
      | patch f => cases h
      | yesNo f | raceSex f => rfl
    | raceSex e =>
      cases f with
      | raceSex f =>
        rw [Call.run_raceSex]
        exact settled_raceSex_edit h
      | yesNo f | patch f => rfl

/-- Without a tag the step makes none, and it does not look at what is remembered. -/
def Lasting (step : Filter ρ → Filter ρ) : Prop :=
  ∀ f, f.fromTag = false →
    (step f).fromTag = false ∧ (step f).unmarked = (step f.unmarked).unmarked

/-- Lasting steps one after another are a lasting step. -/
theorem Lasting.comp {step next : Filter ρ → Filter ρ} (hs : Lasting step) (hn : Lasting next) :
    Lasting fun f => next (step f) := by
  intro f hf
  obtain ⟨htag, hmark⟩ := hs f hf
  obtain ⟨htag', hmark'⟩ := hs f.unmarked (by rwa [fromTag_unmarked])
  refine ⟨(hn _ htag).1, ?_⟩
  rw [(hn _ htag).2, hmark, ← (hn _ htag').2]

/-- Any edit made without a tag is lasting. -/
theorem lasting_edit (e : Edit) : Lasting (ρ := ρ) (Call.edit e).run := by
  intro f hf
  cases e with
  | yesNo e =>
    cases f with
    | yesNo f =>
      have ht : f.tag = none := fromTag_yesNo.1 hf
      simp only [unmarked, Call.run_yesNo, YesNoFilter.Edit.run_eq, YesNoFilter.edit, ht,
        Option.getD_some, fromTag]
      exact ⟨rfl, trivial⟩
    | patch f | raceSex f => exact ⟨hf, rfl⟩
  | patch e =>
    cases f with
    | patch f =>
      simp only [unmarked, Call.run_patch, PatchFilter.Edit.run_altered]
      cases e.run f with
      | none => exact ⟨rfl, rfl⟩
      | some g => exact ⟨rfl, rfl⟩
    | yesNo f | raceSex f => exact ⟨hf, rfl⟩
  | raceSex e =>
    cases f with
    | raceSex f =>
      simp only [unmarked, Call.run_raceSex, RaceSexFilter.Edit.run_unmarked]
      cases he : e.run f with
      | none => exact ⟨hf, rfl⟩
      | some g =>
        rcases RaceSexFilter.Edit.run_eq_some he with ⟨-, index, rfl⟩ | rfl
        · exact ⟨hf, rfl⟩
        · exact ⟨fromTag_clearTag (raceSex f), rfl⟩
    | yesNo f | patch f => exact ⟨hf, rfl⟩

/-- A call that lasts is a lasting step. -/
theorem lasting_of_lasts {c : Call ρ} {f : Filter ρ} (h : c.lasts f = true) : Lasting c.run := by
  cases c with
  | edit e => exact lasting_edit e
  | claim | clearTag | takeChanged | check => cases h

/-! ## Comparison with a filter that has no tag -/

/-- The second filter has no tag, and the first one comes back to it when its own tag ends, apart
from what the two remember. -/
def Restores (f g : Filter ρ) : Prop :=
  f.settled = g.unmarked ∧ g.fromTag = false

/-- A filter without a tag comes back to itself. -/
theorem restores_self {f : Filter ρ} (h : f.fromTag = false) : f.Restores f :=
  ⟨settled_of_fromTag h, h⟩

/-- Of the first filter only what it comes back to counts for the comparison. -/
theorem Restores.of_settled_eq {f f' g : Filter ρ} (h : f.Restores g)
    (hf : f'.settled = f.settled) : f'.Restores g :=
  ⟨hf.trans h.1, h.2⟩

/-- A lasting step made on both filters keeps the comparison, if the first one has no tag either. -/
theorem Restores.step {f g : Filter ρ} (h : f.Restores g) (hf : f.fromTag = false)
    {step : Filter ρ → Filter ρ} (hs : Lasting step) : (step f).Restores (step g) := by
  refine ⟨?_, (hs g h.2).1⟩
  calc (step f).settled
      = (step f).unmarked := settled_of_fromTag (hs f hf).1
    _ = (step f.unmarked).unmarked := (hs f hf).2
    _ = (step g.unmarked).unmarked := by rw [← settled_of_fromTag hf, h.1]
    _ = (step g).unmarked := (hs g h.2).2.symm

/-- The two filters answer to the same tokens. -/
theorem Restores.sameTags {f g : Filter ρ} (h : f.Restores g) : f.SameTags g := by
  refine ⟨?_, fun token => ⟨?_, ?_⟩⟩
  · rw [← name_unmarked g, ← h.1, settled, name_unmarked, name_clearTag]
  · rw [← takes_unmarked g, ← h.1, settled, takes_unmarked, takes_clearTag]
  · rw [← resolves_unmarked g, ← h.1, settled, resolves_unmarked, resolves_clearTag]

/-- What a user sets: the legs, the rows of the table, or the option. -/
inductive Setting where
  | legs (l : Legs)
  | patches (rows : List Patch)
  | option (index : Nat)
  deriving DecidableEq, Repr

/-- The setting of the filter. Without a tag it is the user's own. -/
def setting : Filter ρ → Setting
  | yesNo f => .legs f.legs
  | patch f => .patches f.selected
  | raceSex f => .option f.selected

/-- When the tag of the first filter ends, its setting is that of the second one. -/
theorem Restores.setting_eq {f g : Filter ρ} (h : f.Restores g) :
    f.clearTag.setting = g.setting := by
  have hu (f : Filter ρ) : f.unmarked.setting = f.setting := by cases f <;> rfl
  rw [← hu f.clearTag, ← hu g, ← h.1, settled]

end Filter

end ItemSieve
