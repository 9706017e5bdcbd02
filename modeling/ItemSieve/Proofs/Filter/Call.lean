import ItemSieve.Filter.Basic

/-!
# Calls on a filter

What can be done to a filter, as data: an edit by the user (`Filter.Edit`), the offer of a token,
the end of a tag, a poll and a check (`Filter.Call`). An edit may be refused, so it has a result of
its own (`Filter.Edit.run`); a call has none that matters here but the filter it leaves
(`Filter.Call.run`). What an edit that goes through changes is said once for each kind of filter, in
the theorems `Edit.run_eq_some`.
-/

namespace ItemSieve

variable {ρ : Type}

/-- An edit of a yes/no filter. -/
inductive YesNoFilter.Edit where
  | setYes (value : Bool)
  | setNo (value : Bool)
  | reset
  deriving DecidableEq, Repr

/-- Makes the edit, unless a tag is in force. -/
def YesNoFilter.Edit.run (f : YesNoFilter ρ) : Edit → Option (YesNoFilter ρ)
  | setYes value => f.setYes value
  | setNo value => f.setNo value
  | reset => f.reset

/-- An edit of a patch filter. -/
inductive PatchFilter.Edit where
  | addSlot
  | pick (slot : Nat) (id : UInt32)
  | select (id : UInt32)
  | remove (slot : Nat)
  | clear
  deriving DecidableEq, Repr

/-- Makes the edit, unless the selection comes out as it was. -/
def PatchFilter.Edit.run (f : PatchFilter ρ) : Edit → Option (PatchFilter ρ)
  | addSlot => f.addSlot
  | pick slot id => f.pick slot id
  | select id => f.select id
  | remove slot => f.remove slot
  | clear => f.clear

/-- An edit of a race/sex filter. -/
inductive RaceSexFilter.Edit where
  | select (index : Nat)
  | selectCurrent
  | reset
  deriving DecidableEq, Repr

/-- Makes the edit, unless it is refused. A reset never is. -/
def RaceSexFilter.Edit.run (f : RaceSexFilter ρ) : Edit → Option (RaceSexFilter ρ)
  | select index => f.select index
  | selectCurrent => f.selectCurrent
  | reset => some f.reset

namespace Filter

/-- An edit of a filter of some kind. -/
inductive Edit where
  | yesNo (e : YesNoFilter.Edit)
  | patch (e : PatchFilter.Edit)
  | raceSex (e : RaceSexFilter.Edit)
  deriving DecidableEq, Repr

/-- Makes the edit, unless it is refused, changes nothing or is for filters of another kind. -/
def Edit.run : Edit → Filter ρ → Option (Filter ρ)
  | .yesNo e, .yesNo f => (e.run f).map .yesNo
  | .patch e, .patch f => (e.run f).map .patch
  | .raceSex e, .raceSex f => (e.run f).map .raceSex
  | _, _ => none

/-- What can be done to a filter. -/
inductive Call (ρ : Type) where
  | edit (e : Edit)
  | claim (token : String)
  | clearTag
  | takeChanged
  | check (r : ρ)

/-- The filter after a call. -/
def Call.run : Call ρ → Filter ρ → Filter ρ
  | edit e, f => (e.run f).getD f
  | claim token, f => (f.claim token).2
  | clearTag, f => f.clearTag
  | takeChanged, f => f.takeChanged.2
  | check r, f => (f.check r).after

/-- An edit of a yes/no filter that is refused leaves it as it is. -/
theorem Call.run_yesNo (e : YesNoFilter.Edit) (f : YesNoFilter ρ) :
    (Call.edit (.yesNo e)).run (yesNo f) = yesNo ((e.run f).getD f) :=
  Option.getD_map yesNo f (e.run f)

/-- An edit of a patch filter that does not go through leaves it as it is. -/
theorem Call.run_patch (e : PatchFilter.Edit) (f : PatchFilter ρ) :
    (Call.edit (.patch e)).run (patch f) = patch ((e.run f).getD f) :=
  Option.getD_map patch f (e.run f)

/-- An edit of a race/sex filter that does not go through leaves it as it is. -/
theorem Call.run_raceSex (e : RaceSexFilter.Edit) (f : RaceSexFilter ρ) :
    (Call.edit (.raceSex e)).run (raceSex f) = raceSex ((e.run f).getD f) :=
  Option.getD_map raceSex f (e.run f)

end Filter

/-! ## What an edit changes -/

namespace YesNoFilter

/-- What an edit makes of the legs. -/
def Edit.change : Edit → Legs → Legs
  | setYes value, l => l.setYes value
  | setNo value, l => l.setNo value
  | reset, _ => .both

/-- Every edit of a yes/no filter is a change of its legs. -/
theorem Edit.run_eq (f : YesNoFilter ρ) (e : Edit) : e.run f = f.edit e.change := by
  cases e <;> rfl

/-- An edit of a yes/no filter goes through exactly when no tag is in force, and then it replaces
the legs and is remembered for the next poll. -/
theorem Edit.run_eq_some {f g : YesNoFilter ρ} {e : Edit} :
    e.run f = some g ↔ f.tag = none ∧ g = { f with legs := e.change f.legs, modified := true } := by
  rw [run_eq, edit]
  cases f.tag with
  | none => simp [eq_comm]
  | some leg => simp

end YesNoFilter

namespace PatchFilter

/-- A commit goes through if the rows in order are another selection; this is remembered for the
next poll. -/
theorem commit_eq_some {f g : PatchFilter ρ} {rows : List Patch} :
    f.commit rows = some g ↔ Patch.arrange rows ≠ f.selected ∧
      g = { f with selected := Patch.arrange rows, altered := true } := by
  simp only [commit, beq_iff_eq]
  split
  · next heq => exact ⟨nofun, fun h => absurd heq h.1⟩
  · next hne =>
    rw [Option.some.injEq]
    exact ⟨fun h => ⟨hne, h.symm⟩, fun h => h.2.symm⟩

/-- An addition that goes through is a commit. -/
theorem add_eq_some {f g : PatchFilter ρ} {id : UInt32} {place : Patch → List Patch}
    (h : f.add id place = some g) : ∃ rows, f.commit rows = some g := by
  obtain ⟨p, -, hp⟩ := Option.bind_eq_some_iff.1 h
  split at hp
  · exact ⟨_, hp⟩
  · split at hp
    · cases hp
    · exact ⟨_, hp⟩

/-- An edit of a patch filter that goes through alters the selection and is remembered for the next
poll: each edit is a commit or nothing at all. -/
theorem Edit.run_eq_some {f g : PatchFilter ρ} {e : Edit} (h : e.run f = some g) :
    ∃ next, next ≠ f.selected ∧ g = { f with selected := next, altered := true } := by
  have hc : ∃ rows, f.commit rows = some g := by
    cases e with
    | addSlot | clear => exact ⟨_, h⟩
    | select id => exact add_eq_some h
    | pick slot id =>
      simp only [run, PatchFilter.pick] at h
      split at h
      · exact add_eq_some h
      · cases h
    | remove slot =>
      simp only [run, PatchFilter.remove] at h
      split at h
      · exact ⟨_, h⟩
      · cases h
  obtain ⟨rows, hc⟩ := hc
  exact ⟨_, commit_eq_some.1 hc⟩

/-- An edit does not look at what is remembered for the next poll. -/
theorem Edit.run_altered (f : PatchFilter ρ) (e : Edit) (b : Bool) :
    e.run { f with altered := b } = e.run f := by
  cases e <;> rfl

end PatchFilter

namespace RaceSexFilter

/-- An option is selected exactly when there is one and no tag is in force. -/
theorem select_eq_some {f g : RaceSexFilter ρ} {index : Nat} :
    f.select index = some g ↔
      f.beforeTag = none ∧ index < f.options.length ∧ g = { f with selected := index } := by
  cases hb : f.beforeTag <;> simp [select, fromTag, hb, eq_comm]

/-- The end of a tag brings back the selection from before it. -/
theorem clearTag_eq (f : RaceSexFilter ρ) :
    f.clearTag = { f with selected := f.beforeTag.getD f.selected, beforeTag := none } := by
  obtain ⟨options, rules, character, selected, beforeTag, lastSeen, reported⟩ := f
  cases beforeTag <;> rfl

/-- A reset brings back the selection from before the tag, if there is one, and otherwise clears the
selection. -/
theorem reset_eq (f : RaceSexFilter ρ) :
    f.reset = { f with selected := f.beforeTag.getD 0, beforeTag := none } := by
  obtain ⟨options, rules, character, selected, beforeTag, lastSeen, reported⟩ := f
  cases beforeTag <;> rfl

/-- Without a tag an edit of a race/sex filter replaces the selection; under a tag it ends the tag,
if it does anything. -/
theorem Edit.run_eq_some {f g : RaceSexFilter ρ} {e : Edit} (h : e.run f = some g) :
    (f.beforeTag = none ∧ ∃ index, g = { f with selected := index }) ∨ g = f.clearTag := by
  cases e with
  | select index =>
    obtain ⟨hb, -, hg⟩ := select_eq_some.1 h
    exact .inl ⟨hb, index, hg⟩
  | selectCurrent =>
    obtain ⟨index, -, h⟩ := Option.bind_eq_some_iff.1 h
    obtain ⟨hb, -, hg⟩ := select_eq_some.1 h
    exact .inl ⟨hb, index, hg⟩
  | reset =>
    cases Option.some.inj h
    rw [reset_eq, clearTag_eq]
    cases hb : f.beforeTag with
    | none => exact .inl ⟨rfl, 0, rfl⟩
    | some index => exact .inr rfl

end RaceSexFilter

end ItemSieve
