import ItemSieve.Proofs.Search.Call
import ItemSieve.Proofs.Sieve.Restore

/-!
# Tags leave no trace

However queries, tags, polls and edits are mixed, a search answers the next query as a new search
does on which only the edits that last were made, in their order (`ItemSearch.search_run_eq`), and
the end of all tags leaves the settings of that search. The run and its replay are compared step by
step (`ItemSearch.Restores.call`): an edit that lasts is made on both, and what is left out of the
replay keeps what the filters come back to.
-/

namespace ItemSieve.ItemSearch

/-! ## Requests are lasting edits -/

/-- The step is lasting, and a filter under a tag refuses it. -/
structure LastingStep (step : Filter Item → Except SieveError (Filter Item)) : Prop where
  lasting : Filter.Lasting (stepOr step)
  fromTag : ∀ f, (step f).toOption.isSome → f.fromTag = false

/-- What two edits of a yes/no filter, one after the other, make of a filter. Under a tag both are
refused. -/
theorem stepOr_yesNoStep (name : String) (e e' : YesNoFilter.Edit) :
    stepOr (yesNoStep name fun f => (e.run f).bind e'.run) = fun f =>
      (Filter.Call.edit (.yesNo e')).run ((Filter.Call.edit (.yesNo e)).run f) := by
  funext f
  cases f with
  | yesNo f =>
    cases ht : f.tag <;>
      simp [stepOr, yesNoStep, Filter.Call.run_yesNo, YesNoFilter.Edit.run_eq,
        YesNoFilter.edit, ht, Except.toOption]
  | patch f | raceSex f => rfl

/-- Two edits of a yes/no filter, one after the other, make a lasting step. -/
theorem lastingStep_yesNo (name : String) (e e' : YesNoFilter.Edit) :
    LastingStep (yesNoStep name fun f => (e.run f).bind e'.run) where
  lasting := by
    rw [stepOr_yesNoStep]
    exact (Filter.lasting_edit (.yesNo e)).comp (Filter.lasting_edit (.yesNo e'))
  fromTag f h := by
    cases f with
    | yesNo f =>
      cases ht : f.tag with
      | none => simp [Filter.fromTag, ht]
      | some leg =>
        simp [yesNoStep, YesNoFilter.Edit.run_eq, YesNoFilter.edit, ht, Except.toOption] at h
    | patch f | raceSex f => cases h

/-- The choice of a patch is a lasting step. -/
theorem lastingStep_patch (text : String) : LastingStep (patchStep text) where
  lasting f hf := by
    cases f with
    | patch f =>
      have hfind : PatchFilter.find? { f with altered := false } text = f.find? text := rfl
      simp only [stepOr, patchStep, Filter.unmarked, hfind]
      cases f.find? text with
      | none => exact ⟨rfl, rfl⟩
      | some p =>
        have h := Filter.lasting_edit (.patch (.select p.id)) (.patch f) rfl
        rwa [Filter.unmarked, Filter.Call.run_patch, Filter.Call.run_patch] at h
    | yesNo f | raceSex f => exact ⟨hf, rfl⟩
  fromTag f h := by
    cases f with
    | patch f => rfl
    | yesNo f | raceSex f => cases h

/-- What the choice of a race and a sex makes of a filter without a tag. -/
theorem stepOr_raceSexStep {f : RaceSexFilter Item} (hf : f.fromTag = false) (label : String) :
    stepOr (raceSexStep label) (.raceSex f) =
      if Text.sameAscii (Text.trimmed label) RaceSexFilter.selfTag then
        (Filter.Call.edit (.raceSex .selectCurrent)).run (.raceSex f)
      else
        match f.find? label with
        | none => .raceSex f
        | some index => (Filter.Call.edit (.raceSex (.select index))).run (.raceSex f) := by
  simp only [stepOr, raceSexStep, hf, Filter.Call.run_raceSex, RaceSexFilter.Edit.run]
  cases Text.sameAscii (Text.trimmed label) RaceSexFilter.selfTag with
  | true => cases f.selectCurrent <;> rfl
  | false =>
    cases f.find? label with
    | none => rfl
    | some index => cases hs : f.select index <;> simp [hs, Except.toOption]

/-- The choice of a race and a sex is a lasting step. -/
theorem lastingStep_raceSex (label : String) : LastingStep (raceSexStep label) where
  lasting f hf := by
    cases f with
    | raceSex f =>
      have hfind : RaceSexFilter.find? { f with lastSeen := 0, reported := [] } label =
        f.find? label := rfl
      have hf' : RaceSexFilter.fromTag { f with lastSeen := 0, reported := [] } = false := hf
      rw [Filter.unmarked, stepOr_raceSexStep hf, stepOr_raceSexStep hf', hfind]
      split
      · exact Filter.lasting_edit (.raceSex .selectCurrent) (.raceSex f) hf
      · cases f.find? label with
        | none => exact ⟨hf, rfl⟩
        | some index => exact Filter.lasting_edit (.raceSex (.select index)) (.raceSex f) hf
    | yesNo f | patch f => exact ⟨hf, rfl⟩
  fromTag f h := by
    cases f with
    | raceSex f =>
      cases hf : f.fromTag with
      | false => exact hf
      | true =>
        simp only [raceSexStep, hf] at h
        cases h
    | yesNo f | patch f => cases h

/-! ## The run and its replay -/

/-- The call is an edit that lasts beyond a tag: a request that goes through, or such an edit of a
filter. -/
def Call.lasts (s : ItemSearch) : Call → Bool
  | only name => (s.only name).toOption.isSome
  | exclude name => (s.exclude name).toOption.isSome
  | selectPatch text => (s.selectPatch text).toOption.isSome
  | selectRaceSex label => (s.selectRaceSex label).toOption.isSome
  | sieve c => c.lasts s.sieve
  | _ => false

/-- The edits among the calls that last when the calls are made one after another. -/
def lasting (s : ItemSearch) : List Call → List Call
  | [] => []
  | c :: rest => if c.lasts s then c :: (c.run s).lasting rest else (c.run s).lasting rest

/-- The second search is over the same catalog and has no tags, and the filters of the first one
come back to its filters when their tags end. -/
def Restores (s t : ItemSearch) : Prop :=
  t.catalog = s.catalog ∧ s.sieve.Restores t.sieve

variable {s t : ItemSearch}

/-- A request that goes through is made on both searches, and a refused one can be left out. -/
theorem Restores.request (h : s.Restores t) {step : Filter Item → Except SieveError (Filter Item)}
    (hs : LastingStep step) (name : String) :
    (s.after (s.request name step)).Restores
      (if (s.request name step).toOption.isSome then t.after (t.request name step) else t) := by
  rw [isSome_request, after_request, after_request]
  split
  · next hok =>
    obtain ⟨f, hf, hstep⟩ := (Option.any_eq_true _ _).1 hok
    exact ⟨h.1, h.2.amend hf (hs.fromTag f hstep) hs.lasting⟩
  · next hrefused =>
    refine ⟨h.1, h.2.amend_left ?_⟩
    intro f hf
    rw [hf, Option.any_some, Bool.not_eq_true, Option.isSome_eq_false_iff,
      Option.isNone_iff_eq_none] at hrefused
    rw [stepOr, hrefused, Option.getD_none]

/-- A call that is no edit that lasts can be left out of the replay, and any other call is made
there too. -/
theorem Restores.call (h : s.Restores t) (c : Call) :
    (c.run s).Restores (if c.lasts s then c.run t else t) := by
  cases c with
  | search query =>
    have happly := h.2.call (.apply query)
    have hpoll := Sieve.Restores.call happly .takeChanged
    exact ⟨h.1, Sieve.Restores.call hpoll
      (.evaluate Item.matchesTerm (s.sieve.apply query).1 s.catalog.items)⟩
  | apply query => exact ⟨h.1, h.2.call (.apply query)⟩
  | matching q => exact ⟨h.1, h.2.call (.evaluate Item.matchesTerm q s.catalog.items)⟩
  | only name => exact h.request (lastingStep_yesNo name (.setYes true) (.setNo false)) name
  | exclude name => exact h.request (lastingStep_yesNo name (.setNo true) (.setYes false)) name
  | selectPatch text => exact h.request (lastingStep_patch text) PatchFilter.name
  | selectRaceSex label => exact h.request (lastingStep_raceSex label) RaceSexFilter.name
  | sieve c =>
    have hc := h.2.call c
    by_cases hl : c.lasts s.sieve = true
    · rw [if_pos hl] at hc
      rw [if_pos (show (Call.sieve c).lasts s = true from hl)]
      exact ⟨h.1, hc⟩
    · rw [if_neg hl] at hc
      rw [if_neg (show ¬ (Call.sieve c).lasts s = true from hl)]
      exact ⟨h.1, hc⟩

/-- Of all calls only the edits that last have to be made on the second search. -/
theorem Restores.run (h : s.Restores t) (calls : List Call) :
    (s.run calls).Restores (t.run (s.lasting calls)) := by
  induction calls generalizing s t with
  | nil => exact h
  | cons c rest ih =>
    have hc := h.call c
    rw [lasting]
    split at hc
    · next hl =>
      rw [if_pos hl]
      exact ih hc
    · next hl =>
      rw [if_neg hl]
      exact ih hc

/-- A new search has no tags. -/
theorem restores_new (catalog : Catalog) (c : Settings) :
    (new catalog c).Restores (new catalog c) := by
  have hyesNo : ∀ f ∈ yesNoFilters, f.tag.isSome = false := by decide
  refine ⟨rfl, rfl, List.forall₂_same.2 ?_⟩
  intro f hf
  refine Filter.restores_self ?_
  simp only [new, standardFilters, List.mem_append, List.mem_map, List.mem_pair] at hf
  rcases hf with ⟨g, hg, rfl⟩ | rfl | rfl
  · exact hyesNo g hg
  · rfl
  · rfl

/-! ## The answer of a query -/

/-- What is reported of a filter does not hang on what it remembers. -/
theorem infoOf_unmarked (f : Filter Item) : FilterInfo.of f.unmarked = FilterInfo.of f := by
  cases f <;> rfl

/-- A search answers with the items that pass after the parse pass, and shows the filters that are
set then. -/
theorem search_answer (s : ItemSearch) (query : String) :
    let p := s.sieve.apply query
    (s.search query).answer.items = (s.catalog.items.filter fun r =>
        Sieve.passes p.2.unmarked r && p.1.terms.all r.matchesTerm) ∧
      (s.search query).answer.query = p.1 ∧
      (s.search query).answer.active = (p.2.unmarked.filter (·.isSet)).map .of := by
  intro p
  have hpolled : p.2.takeChanged.2.unmarked = p.2.unmarked := p.2.unmarked_takeChanged
  have hafter := p.2.takeChanged.2.evaluate_after Item.matchesTerm p.1 s.catalog.items
  refine ⟨?_, rfl, ?_⟩
  · have h := p.2.takeChanged.2.evaluate_answer Item.matchesTerm p.1 s.catalog.items
    simp only [← Sieve.passes_unmarked, hpolled] at h
    exact h
  · rw [← hpolled, ← hafter.unmarked_eq, ← Sieve.active_unmarked, List.map_map]
    refine List.map_congr_left ?_
    intro f _
    exact (infoOf_unmarked f).symm

/-- Searches that compare answer alike. -/
theorem Restores.search (h : s.Restores t) (query : String) :
    (t.search query).answer.items = (s.search query).answer.items ∧
      (t.search query).answer.query = (s.search query).answer.query ∧
      (t.search query).answer.active = (s.search query).answer.active := by
  obtain ⟨hitems, hquery, hactive⟩ := s.search_answer query
  obtain ⟨hitems', hquery', hactive'⟩ := t.search_answer query
  obtain ⟨hq, hu⟩ := h.2.apply query
  rw [hitems, hitems', hquery, hquery', hactive, hactive', hq, hu, h.1]
  exact ⟨rfl, rfl, rfl⟩

/-- Whatever calls come before it, a query is answered with the items, the parse and the filters
shown that a new search over the same catalog and with the same settings gives after the edits that
last, made in their order. And when all tags are ended after the calls, every filter is without a
tag and has its setting in that search, and to end the tags once more changes nothing. -/
theorem search_run_eq (catalog : Catalog) (c : Settings) (calls : List Call) (query : String) :
    let s := (new catalog c).run calls
    let replay := (new catalog c).run ((new catalog c).lasting calls)
    ((s.search query).answer.items = (replay.search query).answer.items ∧
        (s.search query).answer.query = (replay.search query).answer.query ∧
        (s.search query).answer.active = (replay.search query).answer.active) ∧
      (∀ f ∈ s.sieve.clearTags.filters, f.fromTag = false) ∧
      s.sieve.clearTags.filters.map (·.setting) = replay.sieve.filters.map (·.setting) ∧
      s.sieve.clearTags.clearTags = s.sieve.clearTags := by
  intro s replay
  have h : s.Restores replay := (restores_new catalog c).run calls
  obtain ⟨hitems, hquery, hactive⟩ := h.search query
  have htags : ∀ f ∈ s.sieve.clearTags.filters, f.fromTag = false :=
    List.forall_mem_map.2 fun f _ => f.fromTag_clearTag
  exact ⟨⟨hitems.symm, hquery.symm, hactive.symm⟩, htags, h.2.settings_eq,
    s.sieve.clearTags_clearTags⟩

end ItemSieve.ItemSearch
