import ItemSieve.Filter.Basic

/-!
# Checks

Whether a record passes a filter does not depend on what the filter remembers for polls and for the
log (`Filter.unmarked`), and all that a check changes is what is remembered for the log
(`Filter.check_after`). So checks can be made in any order and any number of times. A filter that is
not set is neutral (`Filter.isSet_eq_false_iff`), and every record passes a neutral filter
(`Filter.Neutral.check_answer`); this is why filters that are not set need not be asked.
-/

namespace ItemSieve

variable {ρ : Type}

namespace RaceSexFilter

/-- The line that a failure is logged with. -/
def failureLine (message : String) : LogLine :=
  ⟨.error, "Race/Sex filter lookup failed: " ++ message⟩

/-- The failure of a check, unless it is logged already. -/
def unlogged (f : RaceSexFilter ρ) (r : ρ) : List String :=
  if f.isSet then
    match f.admits r with
    | .ok _ => []
    | .error e => if f.reported.contains e.message then [] else [e.message]
  else []

/-- A record passes if nothing is selected or if its wearers cannot be looked up; otherwise the
rules decide. What is logged and remembered is the failure that is not logged already. -/
theorem check_eq (f : RaceSexFilter ρ) (r : ρ) :
    f.check r =
      ⟨!f.isSet || (f.admits r).toOption.getD true,
        { f with reported := f.reported ++ f.unlogged r }, (f.unlogged r).map failureLine⟩ := by
  unfold check unlogged
  cases f.isSet with
  | false => simp
  | true =>
    cases f.admits r with
    | ok allowed => simp [Except.toOption]
    | error e => by_cases h : e.message ∈ f.reported <;> simp [h, Except.toOption, failureLine]

/-- A record passes if nothing is selected or its wearers cannot be looked up, and else by the
rules. -/
theorem check_answer (f : RaceSexFilter ρ) (r : ρ) :
    (f.check r).answer = (!f.isSet || (f.admits r).toOption.getD true) := by
  rw [check_eq]

/-- A check changes nothing but the failures that are logged already. -/
theorem check_after (f : RaceSexFilter ρ) (r : ρ) :
    ∃ ms, (f.check r).after = { f with reported := f.reported ++ ms } :=
  ⟨f.unlogged r, by rw [check_eq]⟩

end RaceSexFilter

namespace Filter

/-! ## What is remembered for polls and for the log -/

/-- The filter without what it remembers for polls and for the log. -/
def unmarked : Filter ρ → Filter ρ
  | yesNo f => yesNo { f with modified := false }
  | patch f => patch { f with altered := false }
  | raceSex f => raceSex { f with lastSeen := 0, reported := [] }

/-- The filter that takes some more failures to be logged already. -/
def report (ms : List String) : Filter ρ → Filter ρ
  | yesNo f => yesNo f
  | patch f => patch f
  | raceSex f => raceSex { f with reported := f.reported ++ ms }

theorem report_nil (f : Filter ρ) : f.report [] = f := by
  cases f <;> simp [report]

/-- Failures that are taken to be logged one after another may be taken so at once. -/
theorem report_report (f : Filter ρ) (ms ns : List String) :
    (f.report ms).report ns = f.report (ms ++ ns) := by
  cases f <;> simp [report]

/-- Apart from what it remembers the filter is the same when more failures are logged. -/
theorem unmarked_report (f : Filter ρ) (ms : List String) :
    (f.report ms).unmarked = f.unmarked := by
  cases f <;> rfl

/-- A poll changes only what is remembered for polls. -/
@[simp] theorem unmarked_takeChanged (f : Filter ρ) : f.takeChanged.2.unmarked = f.unmarked := by
  cases f <;> rfl

@[simp] theorem isSet_unmarked (f : Filter ρ) : f.unmarked.isSet = f.isSet := by
  cases f <;> rfl

/-- What is remembered has no influence on the answer of a check. -/
@[simp] theorem check_unmarked_answer (f : Filter ρ) (r : ρ) :
    (f.unmarked.check r).answer = (f.check r).answer := by
  cases f with
  | yesNo f | patch f => rfl
  | raceSex f =>
    simp only [unmarked, check, RaceSexFilter.check_answer]
    rfl

/-- The second filter is the first one, except that it may take more failures to be logged
already. -/
def Reported (f g : Filter ρ) : Prop :=
  ∃ ms, g = f.report ms

theorem Reported.refl (f : Filter ρ) : f.Reported f :=
  ⟨[], f.report_nil.symm⟩

theorem Reported.trans {f g h : Filter ρ} : f.Reported g → g.Reported h → f.Reported h := by
  rintro ⟨ms, rfl⟩ ⟨ns, rfl⟩
  exact ⟨ms ++ ns, f.report_report ms ns⟩

/-- Failures that are logged change nothing apart from what is remembered. -/
theorem Reported.unmarked_eq {f g : Filter ρ} : f.Reported g → g.unmarked = f.unmarked := by
  rintro ⟨ms, rfl⟩
  exact f.unmarked_report ms

/-- Failures that are logged already have no influence on the answer of a check. -/
theorem Reported.check_answer {f g : Filter ρ} (h : f.Reported g) (r : ρ) :
    (g.check r).answer = (f.check r).answer := by
  rw [← check_unmarked_answer, h.unmarked_eq, check_unmarked_answer]

/-- A check changes nothing but what is remembered for the log. -/
theorem check_after (f : Filter ρ) (r : ρ) : f.Reported (f.check r).after := by
  cases f with
  | yesNo f | patch f => exact .refl _
  | raceSex f =>
    obtain ⟨ms, h⟩ := f.check_after r
    exact ⟨ms, congrArg raceSex h⟩

/-! ## Filters that are not set -/

/-- The filter narrows nothing: no tag and both legs open, no patch but empty slots, or the choice
of nothing. -/
def Neutral : Filter ρ → Prop
  | yesNo f => f.tag = none ∧ f.legs = .both
  | patch f => ∀ p ∈ f.selected, p.isSentinel
  | raceSex f => f.selected = 0

/-- The filters that are not set are the neutral ones. -/
theorem isSet_eq_false_iff {f : Filter ρ} : f.isSet = false ↔ f.Neutral := by
  cases f with
  | yesNo f => simp [isSet, Neutral, YesNoFilter.isSet]
  | patch f => simp [isSet, Neutral, PatchFilter.isSet]
  | raceSex f => simp [isSet, Neutral, RaceSexFilter.isSet]

/-- Every record passes a neutral filter. -/
theorem Neutral.check_answer {f : Filter ρ} (h : f.Neutral) (r : ρ) :
    (f.check r).answer = true := by
  have hs : f.isSet = false := isSet_eq_false_iff.2 h
  cases f with
  | yesNo f =>
    have hl : f.active = .both := by simp [YesNoFilter.active, h.1, h.2]
    simp only [check, YesNoFilter.check, hl]
    cases f.read <;> simp [Legs.passes, Legs.both]
  | patch f =>
    have hs : f.isSet = false := hs
    simp [check, PatchFilter.check, hs]
  | raceSex f =>
    have hs : f.isSet = false := hs
    simp [check, RaceSexFilter.check_answer, hs]

end Filter

end ItemSieve
