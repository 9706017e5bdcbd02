import ItemSieve.Command.Run
import ItemSieve.Proofs.Command.Arguments
import ItemSieve.Proofs.Search.Batch
import ItemSieve.Proofs.Settings

/-!
# The values of repeated options

A search takes the options `only`, `exclude` and `patch` any number of times. Its answer hangs on
the values of each of them alone, whatever their order and however often they are given
(`Command.search_sameValues`): whether all its requests go through is a matter of each request by
itself, and what they make of a filter is a matter of the values that are addressed to it
(`Command.SearchRequest.SameValues.unmarked_takeAll`).
-/

namespace ItemSieve.Command

open ItemSearch (Request)
open Settings (exists_of_bind_eq_ok)

/-- The search that a run opens is a new one, with the settings of the run. -/
theorem Context.exists_of_openSearch {x : Context} {catalog : Option String} {s : ItemSearch}
    (h : x.openSearch catalog = .ok s) : ∃ found, s = .new found x.settings := by
  obtain ⟨path, -, hpath⟩ := exists_of_bind_eq_ok h
  obtain ⟨found, -, hfound⟩ := exists_of_bind_eq_ok hpath
  cases hfound
  exact ⟨found, rfl⟩

namespace SearchRequest

/-- The requests of the options, in the order in which they are made. -/
def requests (q : SearchRequest) : List Request :=
  q.only.map .only ++ q.exclude.map .exclude ++ q.patches.map .selectPatch ++
    q.raceSex.toList.map .selectRaceSex

/-- The search is prepared by its requests, one after another. -/
theorem prepare_eq (q : SearchRequest) (s : ItemSearch) :
    q.prepare s = q.requests.foldlM Request.run s := by
  simp only [requests, List.foldlM_append, List.foldlM_map, bind_assoc]
  obtain ⟨words, only, exclude, patches, raceSex, limit⟩ := q
  cases raceSex with
  | none => rfl
  | some label =>
    simp only [Option.toList_some, List.foldlM_cons, List.foldlM_nil, bind_pure]
    rfl

/-- The other request has the same words and single options, and for each repeated option the same
values, in whatever order and however often. -/
structure SameValues (q q' : SearchRequest) : Prop where
  words : q'.words = q.words
  only : ∀ v, v ∈ q'.only ↔ v ∈ q.only
  exclude : ∀ v, v ∈ q'.exclude ↔ v ∈ q.exclude
  patches : ∀ v, v ∈ q'.patches ↔ v ∈ q.patches
  raceSex : q'.raceSex = q.raceSex
  limit : q'.limit = q.limit

/-- The request with those of its options that make a request with the given property. -/
def restrict (q : SearchRequest) (p : Request → Bool) : SearchRequest :=
  { q with
    only := q.only.filter fun v => p (.only v)
    exclude := q.exclude.filter fun v => p (.exclude v)
    patches := q.patches.filter fun v => p (.selectPatch v)
    raceSex := q.raceSex.filter fun v => p (.selectRaceSex v) }

/-- The restricted search makes the requests that have the property, in the same order. -/
theorem requests_restrict (q : SearchRequest) (p : Request → Bool) :
    (q.restrict p).requests = q.requests.filter p := by
  simp only [requests, restrict, List.filter_append, List.filter_map, Option.toList_filter]
  rfl

variable {q q' : SearchRequest}

/-- Searches with the same values have the same values when both are restricted. -/
theorem SameValues.restrict (h : q.SameValues q') (p : Request → Bool) :
    (q.restrict p).SameValues (q'.restrict p) where
  words := h.words
  only v := by simp only [SearchRequest.restrict, List.mem_filter, h.only]
  exclude v := by simp only [SearchRequest.restrict, List.mem_filter, h.exclude]
  patches v := by simp only [SearchRequest.restrict, List.mem_filter, h.patches]
  raceSex := by simp only [SearchRequest.restrict, h.raceSex]
  limit := h.limit

/-- Searches with the same values make the same requests, apart from order and number. -/
theorem SameValues.mem_requests (h : q.SameValues q') (r : Request) :
    r ∈ q'.requests ↔ r ∈ q.requests := by
  simp only [requests, List.mem_append, List.mem_map, h.only, h.exclude, h.patches, h.raceSex]

/-! ## What the requests make of a filter -/

/-- A yes/no filter has a single leg open after requests for it: the one of the last kind. -/
theorem takeAll_requests_yesNo (q : SearchRequest) {f : YesNoFilter Item} (hf : f.tag = none) :
    Request.takeAll q.requests (.yesNo f) = .yesNo
      (if q.exclude.isEmpty then
        if q.only.isEmpty then f else { f with legs := .only true, modified := true }
      else { f with legs := .only false, modified := true }) := by
  have hother (f : YesNoFilter Item) :
      Request.takeAll (q.patches.map .selectPatch ++ q.raceSex.toList.map .selectRaceSex)
        (.yesNo f) = .yesNo f := by
    refine Request.takeAll_eq_self ?_
    simp only [List.mem_append, List.mem_map]
    rintro r (⟨text, -, rfl⟩ | ⟨label, -, rfl⟩) <;> rfl
  have htag : (if q.only.isEmpty then f
      else { f with legs := .only true, modified := true }).tag = none := by
    split <;> exact hf
  rw [requests, List.append_assoc, List.append_assoc, Request.takeAll_append,
    Request.takeAll_opens .only YesNoFilter.opens_only (fun _ => rfl) q.only hf,
    Request.takeAll_append,
    Request.takeAll_opens .exclude YesNoFilter.opens_exclude (fun _ => rfl) q.exclude htag, hother]
  cases q.only.isEmpty <;> rfl

/-- A patch filter chooses the texts of the requests for patches. -/
theorem unmarked_takeAll_requests_patch (q : SearchRequest) (f : PatchFilter Item) :
    (Request.takeAll q.requests (.patch f)).unmarked =
      .patch { q.patches.foldl PatchFilter.choose { f with altered := false } with
        altered := false } := by
  have hbefore : Request.takeAll (q.only.map .only ++ q.exclude.map .exclude) (.patch f) =
      .patch f := by
    refine Request.takeAll_eq_self ?_
    simp only [List.mem_append, List.mem_map]
    rintro r (⟨name, -, rfl⟩ | ⟨name, -, rfl⟩) <;> rfl
  have hafter (g : PatchFilter Item) :
      Request.takeAll (q.raceSex.toList.map .selectRaceSex) (.patch g) = .patch g := by
    refine Request.takeAll_eq_self fun r hr => ?_
    obtain ⟨label, -, rfl⟩ := List.mem_map.1 hr
    rfl
  obtain ⟨altered, hpatches⟩ := Request.exists_takeAll_patches q.patches f
  rw [requests, Request.takeAll_append, Request.takeAll_append, hbefore, hpatches, hafter]
  rfl

/-- A race/sex filter takes the step of the request for a race and a sex. -/
theorem takeAll_requests_raceSex (q : SearchRequest) (f : RaceSexFilter Item) :
    Request.takeAll q.requests (.raceSex f) =
      Request.takeAll (q.raceSex.toList.map .selectRaceSex) (.raceSex f) := by
  have hother : Request.takeAll
      (q.only.map .only ++ q.exclude.map .exclude ++ q.patches.map .selectPatch) (.raceSex f) =
      .raceSex f := by
    refine Request.takeAll_eq_self ?_
    simp only [List.mem_append, List.mem_map]
    rintro r ((⟨name, -, rfl⟩ | ⟨name, -, rfl⟩) | ⟨text, -, rfl⟩) <;> rfl
  rw [requests, Request.takeAll_append, hother]

/-- Lists with the same members are empty together. -/
theorem isEmpty_congr {l l' : List String} (h : ∀ v, v ∈ l' ↔ v ∈ l) : l'.isEmpty = l.isEmpty := by
  rw [Bool.eq_iff_iff, List.isEmpty_iff, List.isEmpty_iff, List.eq_nil_iff_forall_not_mem,
    List.eq_nil_iff_forall_not_mem]
  exact forall_congr' fun v => not_congr (h v)

/-- The requests make the same of a standard filter, whatever the order and the number of the values
of the repeated options. -/
theorem SameValues.unmarked_takeAll (h : q.SameValues q') {catalog : Catalog} {who : Option Wearer}
    {f : Filter Item} (hf : f ∈ ItemSearch.standardFilters catalog who) :
    (Request.takeAll q'.requests f).unmarked = (Request.takeAll q.requests f).unmarked := by
  have htags : ∀ f ∈ ItemSearch.yesNoFilters, f.tag = none := by decide
  simp only [ItemSearch.standardFilters, List.mem_append, List.mem_map, List.mem_pair] at hf
  rcases hf with ⟨f, hf, rfl⟩ | rfl | rfl
  · rw [q.takeAll_requests_yesNo (htags f hf), q'.takeAll_requests_yesNo (htags f hf),
      isEmpty_congr h.only, isEmpty_congr h.exclude]
  · rw [unmarked_takeAll_requests_patch, unmarked_takeAll_requests_patch]
    have hnew := PatchFilter.covers_new Patch.table Item.patch
    obtain ⟨hcovers, htable, hversion⟩ := hnew.foldl Patch.distinct_table q.patches
    obtain ⟨hcovers', htable', hversion'⟩ := hnew.foldl Patch.distinct_table q'.patches
    have hselected := hcovers.selected_eq hcovers' (htable.symm ▸ Patch.distinct_table)
      (htable'.trans htable.symm) h.patches
    refine congrArg Filter.patch ?_
    rw [PatchFilter.mk.injEq]
    exact ⟨htable'.trans htable.symm, hversion'.trans hversion.symm, hselected, rfl⟩
  · rw [takeAll_requests_raceSex, takeAll_requests_raceSex, h.raceSex]

/-! ## The search after the requests -/

/-- Whether the requests go through, and what a query is answered with if they do, is the same
whatever the order and the number of the values of the repeated options. -/
theorem SameValues.prepare (h : q.SameValues q') (catalog : Catalog) (c : Settings) :
    Option.Rel ItemSearch.Restores (q.prepare (.new catalog c)).toOption
      (q'.prepare (.new catalog c)).toOption := by
  have htags : (ItemSearch.new catalog c).Untagged := ItemSearch.untagged_new catalog c
  have hall : (q'.requests.all fun r => (r.run (.new catalog c)).toOption.isSome) =
      q.requests.all fun r => (r.run (.new catalog c)).toOption.isSome := by
    rw [Bool.eq_iff_iff, List.all_eq_true, List.all_eq_true]
    simp only [h.mem_requests]
  rw [prepare_eq, prepare_eq, ItemSearch.toOption_foldlM_run htags,
    ItemSearch.toOption_foldlM_run htags, hall]
  split
  · refine .some ?_
    have hmake := ItemSearch.sameMake_afterAll (.new catalog c) q.requests
    have hmake' := ItemSearch.sameMake_afterAll (.new catalog c) q'.requests
    refine ItemSearch.SameMake.restores (hmake.symm.trans hmake') (htags.afterAll _)
      (htags.afterAll _) fun i => ?_
    rw [ItemSearch.getElem?_afterAll, ItemSearch.getElem?_afterAll, Option.map_map, Option.map_map]
    refine Option.map_congr fun f hf => ?_
    simp only [Function.comp, ← requests_restrict]
    exact (h.restrict _).unmarked_takeAll (List.mem_of_getElem? hf)
  · exact .none

/-- A search prints what a query is answered with once its requests have gone through. -/
theorem toOption_run (q : SearchRequest) (x : Context) (catalog : Option String) :
    (q.run x catalog).toOption = (x.openSearch catalog).toOption.bind fun s =>
      (q.prepare s).toOption.map fun s =>
        resultLines (s.search (x.settings.queryDelimiter.join q.words)).answer q.limit := by
  have hprinted {α β : Type} (r : Except SieveError α) (print : α → β) :
      (r >>= fun a => .ok (print a)).toOption = r.toOption.map print := by
    cases r <;> rfl
  unfold SearchRequest.run
  cases x.openSearch catalog with
  | error e => rfl
  | ok s => exact hprinted (q.prepare s) _

/-- The lines of a search, if it succeeds, are the same whatever the order and the number of the
values of the repeated options. -/
theorem SameValues.run (h : q.SameValues q') (x : Context) (catalog : Option String) :
    (q'.run x catalog).toOption = (q.run x catalog).toOption := by
  rw [toOption_run, toOption_run]
  cases hopen : x.openSearch catalog with
  | error e => rfl
  | ok s =>
    obtain ⟨found, rfl⟩ := Context.exists_of_openSearch hopen
    have hprepare := h.prepare found x.settings
    have hsome : (Except.ok (.new found x.settings) : Except SieveError ItemSearch).toOption =
        some (.new found x.settings) := rfl
    rw [hsome, Option.bind_some, Option.bind_some]
    generalize (q.prepare (.new found x.settings)).toOption = r,
      (q'.prepare (.new found x.settings)).toOption = r' at hprepare ⊢
    cases hprepare with
    | none => rfl
    | some hrestores =>
      obtain ⟨hitems, hquery, hactive⟩ :=
        hrestores.search (x.settings.queryDelimiter.join q.words)
      simp only [Option.map_some, resultLines, footerLines, h.words, h.limit, hitems, hquery,
        hactive]

end SearchRequest

/-- Results with the same lines, or with none, are reported alike apart from the error. -/
theorem Report.ofResult_congr {r r' : Except SieveError (List String)}
    (h : r'.toOption = r.toOption) :
    (Report.ofResult r').exitCode = (Report.ofResult r).exitCode ∧
      (Report.ofResult r').output = (Report.ofResult r).output ∧
      (Report.ofResult r').stored = (Report.ofResult r).stored := by
  cases r with
  | error e =>
    cases r' with
    | error e' => exact ⟨rfl, rfl, rfl⟩
    | ok lines' => cases h
  | ok lines =>
    cases r' with
    | error e' => cases h
    | ok lines' =>
      cases h
      exact ⟨rfl, rfl, rfl⟩

/-- Two searches whose repeated options have the same values, in whatever order and however often
each is given, both succeed or both fail, and they print the same. Both can be asked for on the
command line. -/
theorem search_sameValues (x : Context) (catalog : Option String) {q q' : SearchRequest}
    (h : q.SameValues q') :
    let r := Invocation.run ⟨catalog, .search q⟩ x
    let r' := Invocation.run ⟨catalog, .search q'⟩ x
    r'.exitCode = r.exitCode ∧ r'.output = r.output ∧ r'.stored = r.stored ∧
      (catalog ≠ some "" → (∀ n ∈ q.limit, n < UInt64.size) →
        Invocation.ofArguments (q.arguments catalog) = .ok ⟨catalog, .search q⟩ ∧
          Invocation.ofArguments (q'.arguments catalog) = .ok ⟨catalog, .search q'⟩) := by
  intro r r'
  obtain ⟨hcode, houtput, hstored⟩ := Report.ofResult_congr (h.run x catalog)
  refine ⟨hcode, houtput, hstored, fun hcatalog hlimit => ⟨?_, ?_⟩⟩
  · exact q.ofArguments_arguments hcatalog hlimit
  · exact q'.ofArguments_arguments hcatalog (h.limit ▸ hlimit)

/-- Of the dyeable items those that are neither unique nor tradable, asked for in two ways: an
exclusion takes back what was asked for before. -/
theorem search_sameValues_dyeable :
    let x : Context := ⟨"/", none, fun _ => .ok "\x7b\x7d", ⟨false, false, fun _ => none⟩⟩
    let q : SearchRequest :=
      ⟨["ring"], ["Dyeable", "unique"], ["Unique", "Tradable"], [], none, none⟩
    let q' : SearchRequest :=
      ⟨["ring"], ["unique", "Dyeable", "unique"], ["Tradable", "Unique"], [], none, none⟩
    q.SameValues q' ∧ (Invocation.run ⟨some "items.json", .search q⟩ x).exitCode = 0 ∧
      (Invocation.run ⟨some "items.json", .search q'⟩ x).output =
        (Invocation.run ⟨some "items.json", .search q⟩ x).output := by
  intro x q q'
  have h : q.SameValues q' := by
    refine ⟨rfl, ?_, ?_, ?_, rfl, rfl⟩ <;> simp [q, q', or_comm, or_left_comm]
  exact ⟨h, by decide +kernel, (search_sameValues x (some "items.json") h).2.1⟩

end ItemSieve.Command
