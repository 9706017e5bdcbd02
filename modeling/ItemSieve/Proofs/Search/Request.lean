import ItemSieve.Proofs.Search.Replay

/-!
# Requests and the edits they are made of

A request is addressed to one filter (`ItemSearch.Request.name`) and takes it through some edits,
one after another (`ItemSearch.Request.edits`). Each edit acts on the filter in its place and stays
made when a later one is refused. All the same a request that is refused leaves no edit behind: what
the edits make of the search is what the request makes of it (`ItemSearch.Request.inPlace_eq`).
-/

namespace ItemSieve

variable {ρ : Type}

namespace Filter

/-- The filter after some edits, made one after another up to the first that is refused. Those
before it stay made. -/
def Edit.runAll : List Edit → Filter ρ → Filter ρ
  | [], f => f
  | e :: rest, f =>
    match e.run f with
    | none => f
    | some g => runAll rest g

/-- What each edit keeps is kept by some edits one after another. -/
theorem Edit.runAll_keeps {β : Type} {φ : Filter ρ → β}
    (h : ∀ (e : Edit) (f : Filter ρ), φ ((Call.edit e).run f) = φ f) (edits : List Edit)
    (f : Filter ρ) : φ (runAll edits f) = φ f := by
  induction edits generalizing f with
  | nil => rfl
  | cons e rest ih =>
    have he := h e f
    rw [Call.run] at he
    rw [runAll]
    cases hg : e.run f with
    | none => rfl
    | some g =>
      rw [hg, Option.getD_some] at he
      exact (ih g).trans he

/-- One edit leaves what it makes of the filter, and leaves the filter as it is when it is
refused. -/
theorem Edit.runAll_singleton (e : Edit) (f : Filter ρ) : runAll [e] f = (Call.edit e).run f := by
  rw [runAll, Call.run]
  cases e.run f <;> rfl

/-- Of two edits of a yes/no filter the second one is refused only if the first one is. -/
theorem Edit.runAll_yesNo (e e' : YesNoFilter.Edit) (f : Filter ρ) :
    runAll [.yesNo e, .yesNo e'] f =
      (Call.edit (.yesNo e')).run ((Call.edit (.yesNo e)).run f) := by
  rw [runAll, Call.run, Call.run]
  cases f with
  | yesNo f =>
    cases ht : f.tag with
    | none => simp [run, YesNoFilter.Edit.run_eq, YesNoFilter.edit, ht, runAll]
    | some leg => simp [run, YesNoFilter.Edit.run_eq, YesNoFilter.edit, ht]
  | patch f | raceSex f => rfl

end Filter

namespace ItemSearch

/-- A request of a user. -/
inductive Request where
  | only (name : String)
  | exclude (name : String)
  | selectPatch (text : String)
  | selectRaceSex (label : String)
  deriving DecidableEq, Repr

namespace Request

/-- Makes the request. -/
def run (s : ItemSearch) : Request → Except SieveError ItemSearch
  | only name => s.only name
  | exclude name => s.exclude name
  | selectPatch text => s.selectPatch text
  | selectRaceSex label => s.selectRaceSex label

/-- The name by which a filter is asked. -/
def name : Request → String
  | only name | exclude name => name
  | selectPatch _ => PatchFilter.name
  | selectRaceSex _ => RaceSexFilter.name

/-- The step that the filter is asked to take. -/
def step : Request → Filter Item → Except SieveError (Filter Item)
  | only name => yesNoStep name (·.only)
  | exclude name => yesNoStep name (·.exclude)
  | selectPatch text => patchStep text
  | selectRaceSex label => raceSexStep label

/-- A request is a step of the filter that is found by the name it is addressed to. -/
theorem run_eq (s : ItemSearch) (r : Request) : r.run s = s.request r.name r.step := by
  cases r <;> rfl

/-- The edits that the filter is taken through. -/
def edits : Request → Filter Item → List Filter.Edit
  | only _, .yesNo _ => [.yesNo (.setYes true), .yesNo (.setNo false)]
  | exclude _, .yesNo _ => [.yesNo (.setNo true), .yesNo (.setYes false)]
  | selectPatch text, .patch f => ((f.find? text).map fun p => .patch (.select p.id)).toList
  | selectRaceSex label, .raceSex f =>
    if f.fromTag then []
    else if Text.sameAscii (Text.trimmed label) RaceSexFilter.selfTag then
      [.raceSex .selectCurrent]
    else ((f.find? label).map fun index => .raceSex (.select index)).toList
  | _, _ => []

/-- The search after the edits of the request have been made in place. -/
def inPlace (s : ItemSearch) (r : Request) : ItemSearch :=
  { s with sieve := s.sieve.amend r.name fun f => Filter.Edit.runAll (r.edits f) f }

/-- The edits of the request make of the filter what the step does, and leave it as it is when the
step is refused. -/
theorem stepOr_step (r : Request) (f : Filter Item) :
    stepOr r.step f = Filter.Edit.runAll (r.edits f) f := by
  cases r with
  | only name =>
    have h := congrFun (stepOr_yesNoStep name (.setYes true) (.setNo false)) f
    cases f with
    | yesNo f => exact h.trans (Filter.Edit.runAll_yesNo _ _ _).symm
    | patch f | raceSex f => rfl
  | exclude name =>
    have h := congrFun (stepOr_yesNoStep name (.setNo true) (.setYes false)) f
    cases f with
    | yesNo f => exact h.trans (Filter.Edit.runAll_yesNo _ _ _).symm
    | patch f | raceSex f => rfl
  | selectPatch text =>
    cases f with
    | patch f =>
      simp only [stepOr, step, patchStep, edits]
      cases f.find? text with
      | none => rfl
      | some p =>
        have h := Filter.Call.run_patch (.select p.id) f
        exact (h.symm.trans (Filter.Edit.runAll_singleton _ _).symm)
    | yesNo f | raceSex f => rfl
  | selectRaceSex label =>
    cases f with
    | raceSex f =>
      cases hf : f.fromTag with
      | true =>
        simp only [stepOr, step, raceSexStep, edits, hf]
        rfl
      | false =>
        rw [step, stepOr_raceSexStep hf, edits, hf]
        cases Text.sameAscii (Text.trimmed label) RaceSexFilter.selfTag with
        | true => exact (Filter.Edit.runAll_singleton _ _).symm
        | false =>
          cases f.find? label with
          | none => rfl
          | some index => exact (Filter.Edit.runAll_singleton _ _).symm
    | yesNo f | patch f => rfl

/-- The edits of a request make of the search what the request does, and leave it as it is when the
request is refused. -/
theorem inPlace_eq (s : ItemSearch) (r : Request) : r.inPlace s = s.after (r.run s) := by
  have hstep : (fun f => Filter.Edit.runAll (r.edits f) f) = stepOr r.step :=
    funext fun f => (r.stepOr_step f).symm
  rw [inPlace, hstep, run_eq, after_request]

end Request

end ItemSearch

end ItemSieve
