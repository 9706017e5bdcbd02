import ItemSieve.Proofs.Filter.Patch
import ItemSieve.Proofs.Search.Replay

/-!
# Patches selected through a search

Of all calls on a search only the requests for patches and the edits of the patch filter itself
touch its selection (`ItemSearch.patches?_run`). So after any calls without such edits the
selection consists of the patches that the requests mean, whatever their order and their number and
whatever is searched in between (`ItemSearch.selectPatch_run`).
-/

namespace ItemSieve

variable {ρ : Type}

/-! ## What leaves the patches alone -/

namespace Filter

/-- The patch filter, apart from what it remembers for polls. -/
def patches? : Filter ρ → Option (PatchFilter ρ)
  | patch f => some { f with altered := false }
  | _ => none

/-- The second filter has the name of the first one and, if that is a patch filter, its patches. -/
def SamePatches (f g : Filter ρ) : Prop :=
  g.name = f.name ∧ g.patches? = f.patches?

theorem SamePatches.refl (f : Filter ρ) : f.SamePatches f :=
  ⟨rfl, rfl⟩

theorem SamePatches.trans {f g h : Filter ρ} (hfg : f.SamePatches g) (hgh : g.SamePatches h) :
    f.SamePatches h :=
  ⟨hgh.1.trans hfg.1, hgh.2.trans hfg.2⟩

/-- What keeps what a filter comes back to keeps its patches. -/
theorem samePatches_of_settled {f g : Filter ρ} (h : g.settled = f.settled) : f.SamePatches g := by
  have hname (f : Filter ρ) : f.settled.name = f.name := by
    rw [settled, name_unmarked, name_clearTag]
  have hpatches (f : Filter ρ) : f.settled.patches? = f.patches? := by
    cases f <;> rfl
  exact ⟨by rw [← hname, h, hname], by rw [← hpatches, h, hpatches]⟩

/-- The call is an edit of a patch filter. -/
def Call.editsPatches : Call ρ → Bool
  | edit (.patch _) => true
  | _ => false

/-- No call but an edit of a patch filter touches the patches. -/
theorem samePatches_run {c : Call ρ} (h : c.editsPatches = false) (f : Filter ρ) :
    f.SamePatches (c.run f) := by
  cases c with
  | edit e =>
    cases e with
    | patch e => cases h
    | yesNo e =>
      cases f with
      | yesNo f =>
        rw [Call.run_yesNo]
        cases he : e.run f with
        | none => exact .refl _
        | some g =>
          obtain ⟨-, rfl⟩ := YesNoFilter.Edit.run_eq_some.1 he
          exact ⟨rfl, rfl⟩
      | patch f | raceSex f => exact .refl _
    | raceSex e =>
      cases f with
      | raceSex f =>
        rw [Call.run_raceSex]
        exact ⟨rfl, rfl⟩
      | yesNo f | patch f => exact .refl _
  | claim token => exact samePatches_of_settled (settled_run rfl)
  | clearTag => exact samePatches_of_settled (settled_run rfl)
  | takeChanged => exact samePatches_of_settled (settled_run rfl)
  | check r => exact samePatches_of_settled (settled_run rfl)

end Filter

namespace Sieve

/-- The patch filter of the sieve, apart from what it remembers for polls. -/
def patches? (s : Sieve ρ) : Option (PatchFilter ρ) :=
  (s.get? PatchFilter.name).bind (·.patches?)

/-- Filters with the same patches place by place have the same patch filter among them. -/
theorem patches?_congr {s t : Sieve ρ}
    (h : List.Forall₂ Filter.SamePatches s.filters t.filters) : t.patches? = s.patches? := by
  simp only [patches?, get?]
  generalize s.filters = fs, t.filters = gs at h
  induction h with
  | nil => rfl
  | @cons f g fs gs hfg _ ih =>
    have ha : answersTo PatchFilter.name g = answersTo PatchFilter.name f := by
      rw [answersTo, answersTo, hfg.1]
    rw [List.find?_cons, List.find?_cons, ha]
    cases answersTo PatchFilter.name f with
    | true => exact hfg.2
    | false => exact ih

/-- A step that leaves the patches of every filter alone leaves those of the sieve alone, whatever
filter takes it. -/
theorem patches?_amend {step : Filter ρ → Filter ρ} (h : ∀ f : Filter ρ, f.SamePatches (step f))
    (s : Sieve ρ) (name : String) : (s.amend name step).patches? = s.patches? := by
  refine patches?_congr ?_
  rw [amend_filters]
  exact forall₂_onFirst_self .refl h name s.filters

/-- The call is an edit of a patch filter. -/
def Call.editsPatches : Call ρ → Bool
  | filter _ c => c.editsPatches
  | _ => false

/-- A call on a sieve that edits no patch filter leaves its patches alone. -/
theorem patches?_run {c : Call ρ} (h : c.editsPatches = false) (s : Sieve ρ) :
    (c.run s).patches? = s.patches? := by
  have hwhole {c : Call ρ} (hc : ∀ name d, c ≠ .filter name d) :
      (c.run s).patches? = s.patches? :=
    patches?_congr ((settled_run hc s).2.imp fun _ _ => Filter.samePatches_of_settled)
  cases c with
  | apply | clearTags | takeChanged | admits | evaluate => exact hwhole (by simp)
  | filter name c => exact patches?_amend (Filter.samePatches_run h) s name

end Sieve

namespace PatchFilter

/-- A choice does not look at what is remembered for polls. -/
theorem choose_altered (f : PatchFilter ρ) (text : String) (altered : Bool) :
    choose { f with altered } text = f.choose text := by
  have hfind : find? { f with altered } text = f.find? text := rfl
  have hselect (p : Patch) : select { f with altered } p.id = f.select p.id :=
    Edit.run_altered f (.select p.id) altered
  simp only [choose, hfind, hselect]
  cases (f.find? text).bind fun p => f.select p.id <;> rfl

end PatchFilter

namespace ItemSearch

/-- The call is an edit of a patch filter, other than the request for a patch by a text. -/
def Call.editsPatches : Call → Bool
  | sieve c => c.editsPatches
  | _ => false

/-- The text by which a patch is requested. -/
def Call.patchText? : Call → Option String
  | selectPatch text => some text
  | _ => none

/-- Edits of a yes/no filter leave the patches alone. -/
theorem samePatches_yesNoStep (name : String) (e e' : YesNoFilter.Edit) (f : Filter Item) :
    f.SamePatches (stepOr (yesNoStep name fun f => (e.run f).bind e'.run) f) := by
  rw [stepOr_yesNoStep]
  exact (Filter.samePatches_run rfl f).trans (Filter.samePatches_run rfl _)

/-- The choice of a label leaves the patches alone. -/
theorem samePatches_raceSexStep (label : String) (f : Filter Item) :
    f.SamePatches (stepOr (raceSexStep label) f) := by
  cases f with
  | yesNo f | patch f => exact .refl _
  | raceSex f =>
    cases hf : f.fromTag with
    | true =>
      simp only [stepOr, raceSexStep, hf]
      exact .refl _
    | false =>
      rw [stepOr_raceSexStep hf]
      split
      · exact Filter.samePatches_run rfl _
      · cases f.find? label with
        | none => exact .refl _
        | some index => exact Filter.samePatches_run rfl _

/-- The choice of a patch does not change the name of a filter. -/
theorem name_patchStep (text : String) (f : Filter Item) :
    (stepOr (patchStep text) f).name = f.name := by
  cases f with
  | yesNo f | raceSex f => rfl
  | patch f =>
    simp only [stepOr, patchStep]
    cases f.find? text <;> rfl

/-- The choice of a patch by a text is made on the patch filter. -/
theorem patches?_patchStep (text : String) (f : Filter Item) :
    (stepOr (patchStep text) f).patches? = f.patches?.map (·.choose text) := by
  cases f with
  | yesNo f | raceSex f => rfl
  | patch f =>
    simp only [stepOr, patchStep, Filter.patches?, Option.map_some, PatchFilter.choose_altered]
    cases h : f.find? text with
    | none => rw [PatchFilter.choose_of_none h]; rfl
    | some p => rw [PatchFilter.choose, h]; rfl

/-- A request for a patch chooses the text in the patch filter. -/
theorem patches?_selectPatch (s : ItemSearch) (text : String) :
    (s.after (s.selectPatch text)).sieve.patches? = s.sieve.patches?.map (·.choose text) := by
  rw [selectPatch, after_request, Sieve.patches?, Sieve.patches?,
    Sieve.get?_amend (name_patchStep text)]
  cases s.sieve.get? PatchFilter.name with
  | none => rfl
  | some f => exact patches?_patchStep text f

/-! ## Calls -/

/-- Of all calls but edits of the patch filter itself only the request for a patch touches it. -/
theorem patches?_call {c : Call} (h : c.editsPatches = false) (s : ItemSearch) :
    (c.run s).sieve.patches? =
      s.sieve.patches?.map fun f => c.patchText?.toList.foldl PatchFilter.choose f := by
  have hsame {o : Option (PatchFilter Item)} (ho : o = s.sieve.patches?) :
      o = s.sieve.patches?.map fun f => f := by
    rw [ho, Option.map_id_fun']
    rfl
  cases c with
  | search query =>
    refine hsame ?_
    calc (Call.run s (.search query)).sieve.patches?
        = (s.sieve.apply query).2.takeChanged.2.patches? :=
          Sieve.patches?_run (c := .evaluate Item.matchesTerm (s.sieve.apply query).1
            s.catalog.items) rfl _
      _ = (s.sieve.apply query).2.patches? := Sieve.patches?_run (c := .takeChanged) rfl _
      _ = s.sieve.patches? := Sieve.patches?_run (c := .apply query) rfl _
  | apply query => exact hsame (Sieve.patches?_run (c := .apply query) rfl _)
  | matching q =>
    exact hsame (Sieve.patches?_run (c := .evaluate Item.matchesTerm q s.catalog.items) rfl _)
  | only name =>
    refine hsame ?_
    rw [Call.run, ItemSearch.only, after_request]
    exact Sieve.patches?_amend (samePatches_yesNoStep name (.setYes true) (.setNo false)) _ _
  | exclude name =>
    refine hsame ?_
    rw [Call.run, ItemSearch.exclude, after_request]
    exact Sieve.patches?_amend (samePatches_yesNoStep name (.setNo true) (.setYes false)) _ _
  | selectPatch text => exact s.patches?_selectPatch text
  | selectRaceSex label =>
    refine hsame ?_
    rw [Call.run, ItemSearch.selectRaceSex, after_request]
    exact Sieve.patches?_amend (samePatches_raceSexStep label) _ _
  | sieve c => exact hsame (Sieve.patches?_run h s.sieve)

/-- A run of calls without edits of the patch filter itself chooses the texts of the requests in
it. -/
theorem patches?_run {calls : List Call} (h : ∀ c ∈ calls, c.editsPatches = false)
    (s : ItemSearch) :
    (s.run calls).sieve.patches? = s.sieve.patches?.map fun f =>
      (calls.filterMap Call.patchText?).foldl PatchFilter.choose f := by
  induction calls generalizing s with
  | nil => cases hs : s.sieve.patches? <;> exact hs
  | cons c calls ih =>
    calc (s.run (c :: calls)).sieve.patches?
        = ((c.run s).run calls).sieve.patches? := rfl
      _ = s.sieve.patches?.map fun f => (calls.filterMap Call.patchText?).foldl PatchFilter.choose
            (c.patchText?.toList.foldl PatchFilter.choose f) := by
          rw [ih (fun d hd => h d (List.mem_cons_of_mem c hd)),
            patches?_call (h c List.mem_cons_self), Option.map_map]
          rfl
      _ = _ := by
          rw [List.filterMap_cons]
          cases c.patchText? <;> rfl

end ItemSearch

end ItemSieve
