import ItemSieve.Proofs.Search.Patch
import ItemSieve.Proofs.Search.Refusal

/-!
# Requests made one after another

While no tag is in force, a request is refused or goes through whatever requests have gone through
before it (`ItemSearch.isSome_run_congr`). So requests that are made one after another, up to the
first that is refused, all go through exactly if each of them would alone
(`ItemSearch.toOption_foldlM_run`). What they leave is said place by place: each filter takes the
steps of the requests that are addressed to it, in their order (`ItemSearch.getElem?_afterAll`). A
yes/no filter has a single leg open then (`ItemSearch.Request.takeAll_opens`), and a patch filter
has chosen the texts (`ItemSearch.Request.exists_takeAll_patches`).
-/

namespace ItemSieve.ItemSearch

namespace Request

/-! ## The steps of one filter -/

/-- The step of a request is lasting. -/
theorem lastingStep (r : Request) : LastingStep r.step := by
  cases r with
  | only name => exact lastingStep_yesNo name (.setYes true) (.setNo false)
  | exclude name => exact lastingStep_yesNo name (.setNo true) (.setYes false)
  | selectPatch text => exact lastingStep_patch text
  | selectRaceSex label => exact lastingStep_raceSex label

/-- Whether a filter without a tag takes the step does not hang on what is set in it. -/
theorem isSome_step_anew (r : Request) {f : Filter Item} (hf : f.fromTag = false) :
    (r.step f.anew).toOption.isSome = (r.step f).toOption.isSome := by
  cases f with
  | yesNo f =>
    have htag : f.tag = none := Filter.fromTag_yesNo.1 hf
    cases r with
    | only name =>
      simp [step, Filter.anew, yesNoStep_eq YesNoFilter.opens_only, htag, YesNoFilter.new,
        Except.toOption]
    | exclude name =>
      simp [step, Filter.anew, yesNoStep_eq YesNoFilter.opens_exclude, htag, YesNoFilter.new,
        Except.toOption]
    | selectPatch | selectRaceSex => rfl
  | patch f =>
    cases r with
    | selectPatch text =>
      have hfind : (PatchFilter.new f.table f.version).find? text = f.find? text :=
        PatchFilter.find?_congr rfl text
      simp only [step, Filter.anew, patchStep_eq, hfind]
      cases f.find? text <;> rfl
    | only | exclude | selectRaceSex => rfl
  | raceSex f =>
    cases r with
    | selectRaceSex label =>
      have htag : f.fromTag = false := hf
      have hanew : (RaceSexFilter.fromTag
          { f with selected := 0, beforeTag := none, lastSeen := 0, reported := [] }) = false := rfl
      have hindex : RaceSexFilter.indexOf?
          { f with selected := 0, beforeTag := none, lastSeen := 0, reported := [] }
          (RaceSexFilter.names
            { f with selected := 0, beforeTag := none, lastSeen := 0, reported := [] } label) =
          f.indexOf? (f.names label) := rfl
      simp only [step, Filter.anew, raceSexStep_eq, htag, hanew, hindex, Bool.false_eq_true,
        ↓reduceIte]
      cases f.indexOf? (f.names label) <;> rfl
    | only | exclude | selectPatch => rfl

/-- The filter after the steps of some requests, each of which it may refuse. -/
def takeAll (rs : List Request) (f : Filter Item) : Filter Item :=
  rs.foldl (fun f r => stepOr r.step f) f

/-- The steps of two lists of requests are taken one list after the other. -/
theorem takeAll_append (rs rs' : List Request) (f : Filter Item) :
    takeAll (rs ++ rs') f = takeAll rs' (takeAll rs f) :=
  List.foldl_append

/-- Requests that leave a filter alone one by one leave it alone together. -/
theorem takeAll_eq_self {rs : List Request} {f : Filter Item}
    (h : ∀ r ∈ rs, stepOr r.step f = f) : takeAll rs f = f := by
  induction rs with
  | nil => rfl
  | cons r rest ih =>
    rw [takeAll, List.foldl_cons, h r List.mem_cons_self]
    exact ih fun q hq => h q (List.mem_cons_of_mem r hq)

/-- Requests to leave a single leg of a yes/no filter open come to one of them, unless there is
none. -/
theorem takeAll_opens (ask : String → Request) {leg : Bool}
    {edit : YesNoFilter Item → Option (YesNoFilter Item)} (hedit : YesNoFilter.Opens leg edit)
    (hask : ∀ name, (ask name).step = yesNoStep name edit) (names : List String)
    {f : YesNoFilter Item} (hf : f.tag = none) :
    takeAll (names.map ask) (.yesNo f) =
      .yesNo (if names.isEmpty then f else { f with legs := .only leg, modified := true }) := by
  induction names generalizing f with
  | nil => rfl
  | cons name rest ih =>
    have hstep : stepOr (ask name).step (.yesNo f) =
        .yesNo { f with legs := .only leg, modified := true } := by
      rw [stepOr, hask, yesNoStep_eq hedit, hf]
      rfl
    calc takeAll ((name :: rest).map ask) (.yesNo f)
        = takeAll (rest.map ask) (.yesNo { f with legs := .only leg, modified := true }) :=
          congrArg (takeAll (rest.map ask)) hstep
      _ = .yesNo { f with legs := .only leg, modified := true } := by
          rw [ih (f := { f with legs := .only leg, modified := true }) hf]
          split <;> rfl

/-- Requests for patches choose their texts, one after another. -/
theorem exists_takeAll_patches (texts : List String) (f : PatchFilter Item) :
    ∃ altered, takeAll (texts.map selectPatch) (.patch f) =
      .patch { texts.foldl PatchFilter.choose { f with altered := false } with altered } := by
  induction texts generalizing f with
  | nil => exact ⟨f.altered, rfl⟩
  | cons text rest ih =>
    have hstep : ∃ g : PatchFilter Item, stepOr (patchStep text) (.patch f) = .patch g ∧
        { g with altered := false } = f.choose text := by
      rw [stepOr, patchStep_eq]
      cases hfind : f.find? text with
      | none => exact ⟨f, rfl, (PatchFilter.choose_of_none hfind).symm⟩
      | some p => exact ⟨(f.select p.id).getD f, rfl, by rw [PatchFilter.choose, hfind]; rfl⟩
    obtain ⟨g, hg, hchoose⟩ := hstep
    obtain ⟨altered, hrest⟩ := ih g
    refine ⟨altered, ?_⟩
    calc takeAll ((text :: rest).map selectPatch) (.patch f)
        = takeAll (rest.map selectPatch) (.patch g) := congrArg (takeAll _) hg
      _ = _ := by rw [hrest, hchoose, List.foldl_cons, PatchFilter.choose_altered f text false]

end Request

variable {s t : ItemSearch}

/-! ## Searches without tags -/

/-- No tag is in force. -/
def Untagged (s : ItemSearch) : Prop :=
  ∀ f ∈ s.sieve.filters, f.fromTag = false

/-- In a new search no tag is in force. -/
theorem untagged_new (catalog : Catalog) (c : Settings) : (new catalog c).Untagged :=
  fun f hf => (List.forall₂_same.1 (restores_new catalog c).2.2 f hf).2

/-- A request takes the filter that it is addressed to through its step. -/
theorem getElem?_after (s : ItemSearch) (r : Request) (i : Nat) :
    (s.after (r.run s)).sieve.filters[i]? = s.sieve.filters[i]?.map fun f =>
      if s.sieve.index? r.name = some i then stepOr r.step f else f := by
  rw [r.run_eq, after_request]
  exact s.sieve.getElem?_amend r.name (stepOr r.step) i

/-- A request puts no tag in force. -/
theorem Untagged.after (h : s.Untagged) (r : Request) : (s.after (r.run s)).Untagged := by
  intro g hg
  obtain ⟨i, hi⟩ := List.mem_iff_getElem?.1 hg
  rw [getElem?_after] at hi
  obtain ⟨f, hf, rfl⟩ := Option.map_eq_some_iff.1 hi
  have htag := h f (List.mem_of_getElem? hf)
  split
  · exact (r.lastingStep.lasting f htag).1
  · exact htag

/-- Among searches without tags that are made of the same, a request goes through on all or on
none. -/
theorem isSome_run_congr (h : s.SameMake t) (hs : s.Untagged) (ht : t.Untagged) (r : Request) :
    (r.run t).toOption.isSome = (r.run s).toOption.isSome := by
  have hanew (s : ItemSearch) (hs : s.Untagged) : (r.run s).toOption.isSome =
      (s.sieve.anew.find? (Sieve.answersTo r.name)).any fun f => (r.step f).toOption.isSome := by
    rw [r.run_eq, isSome_request, ← Sieve.get?_anew]
    cases hf : s.sieve.get? r.name with
    | none => rfl
    | some f => exact (r.isSome_step_anew (hs f (List.mem_of_find?_eq_some hf))).symm
  rw [hanew s hs, hanew t ht, h.2.2]

/-- Searches of the same make have the filter of a name at the same place. -/
theorem SameMake.index?_eq (h : s.SameMake t) (name : String) :
    t.sieve.index? name = s.sieve.index? name := by
  rw [Sieve.index?_anew, Sieve.index?_anew, h.2.2]

/-! ## Requests made one after another -/

/-- The search after some requests. Those that are refused are passed over. -/
def afterAll (s : ItemSearch) (rs : List Request) : ItemSearch :=
  rs.foldl (fun s r => s.after (r.run s)) s

/-- Requests leave the make of a search. -/
theorem sameMake_afterAll (s : ItemSearch) (rs : List Request) : s.SameMake (s.afterAll rs) := by
  induction rs generalizing s with
  | nil => exact ⟨rfl, rfl, rfl⟩
  | cons r rest ih => exact (s.sameMake_request r).trans (ih _)

/-- No requests put a tag in force. -/
theorem Untagged.afterAll (h : s.Untagged) (rs : List Request) : (s.afterAll rs).Untagged := by
  induction rs generalizing s with
  | nil => exact h
  | cons r rest ih => exact ih (h.after r)

/-- Requests take each filter through the steps of those that are addressed to it. -/
theorem getElem?_afterAll (s : ItemSearch) (rs : List Request) (i : Nat) :
    (s.afterAll rs).sieve.filters[i]? = s.sieve.filters[i]?.map
      (Request.takeAll (rs.filter fun r => s.sieve.index? r.name == some i)) := by
  induction rs generalizing s with
  | nil => exact Option.map_id'.symm
  | cons r rest ih =>
    have hindex (q : Request) : (s.after (r.run s)).sieve.index? q.name = s.sieve.index? q.name :=
      (s.sameMake_request r).index?_eq q.name
    calc (s.afterAll (r :: rest)).sieve.filters[i]?
        = (s.after (r.run s)).sieve.filters[i]?.map
            (Request.takeAll (rest.filter fun q => s.sieve.index? q.name == some i)) := by
          rw [afterAll, List.foldl_cons, ← afterAll, ih]
          simp only [hindex]
      _ = _ := by
          rw [getElem?_after, Option.map_map, List.filter_cons]
          refine Option.map_congr fun f _ => ?_
          by_cases hi : s.sieve.index? r.name = some i
          · simp [hi, Request.takeAll]
          · simp [hi]

/-- Requests made one after another, up to the first that is refused, go through exactly if each of
them would alone. -/
theorem toOption_foldlM_run (h : s.Untagged) (rs : List Request) :
    (rs.foldlM Request.run s).toOption =
      if rs.all fun r => (r.run s).toOption.isSome then some (s.afterAll rs) else none := by
  induction rs generalizing s with
  | nil => rfl
  | cons r rest ih =>
    rw [List.foldlM_cons, List.all_cons]
    cases hr : r.run s with
    | error e => rfl
    | ok t =>
      have ht : s.after (r.run s) = t := by rw [hr]; rfl
      have hmake : s.SameMake t := ht ▸ s.sameMake_request r
      have htag : t.Untagged := ht ▸ h.after r
      have hafter : s.afterAll (r :: rest) = t.afterAll rest := by
        rw [afterAll, List.foldl_cons, ht, afterAll]
      have hall (q : Request) := isSome_run_congr hmake h htag q
      calc (rest.foldlM Request.run t).toOption
          = if rest.all fun q => (q.run t).toOption.isSome then some (t.afterAll rest)
            else none := ih htag
        _ = _ := by
          simp only [hall, hafter]
          rfl

/-! ## Searches that answer alike -/

/-- Searches without tags that are made of the same, and whose filters are the same place by place
apart from what they remember, answer alike. -/
theorem SameMake.restores (h : s.SameMake t) (hs : s.Untagged) (ht : t.Untagged)
    (hu : ∀ i : Nat, t.sieve.filters[i]?.map Filter.unmarked =
      s.sieve.filters[i]?.map Filter.unmarked) :
    s.Restores t := by
  refine ⟨h.1, h.2.1, ?_⟩
  have hmap : s.sieve.filters.map Filter.unmarked = t.sieve.filters.map Filter.unmarked := by
    refine List.ext_getElem? fun i => ?_
    rw [List.getElem?_map, List.getElem?_map, hu]
  have hall : List.Forall₂ (fun f g : Filter Item => f.unmarked = g.unmarked)
      s.sieve.filters t.sieve.filters := by
    rw [← List.forall₂_map_right_iff, ← List.forall₂_map_left_iff, List.forall₂_eq_eq_eq, hmap]
  refine forall₂_imp_mem hall fun f hf g hg hfg => ?_
  exact ⟨(Filter.settled_of_fromTag (hs f hf)).trans hfg, ht g hg⟩

end ItemSieve.ItemSearch
