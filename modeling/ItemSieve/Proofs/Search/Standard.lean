import ItemSieve.Proofs.Search.Request

/-!
# What the filters of a search are made of

Names, labels, accessors, tables, options, rules and the character the user plays are given to a
filter when it is made (`Filter.anew`), and no call changes them (`Filter.anew_run`). So however a
search is used, its filters are the standard ones place by place, up to what is set in them
(`ItemSearch.anew_run`): the patch filter and the race/sex filter are always there, and so is each
of the yes/no filters, with its tags in force only for itself (`ItemSearch.exists_yesNo`).
-/

namespace ItemSieve

variable {ρ : Type}

namespace Filter

/-! ## What a filter is made of -/

/-- The filter as it was made: nothing is set, no tag is in force and nothing is remembered. -/
def anew : Filter ρ → Filter ρ
  | yesNo f => yesNo (.new f.name f.yesLabel f.noLabel f.read f.inverted)
  | patch f => patch (.new f.table f.version)
  | raceSex f =>
    raceSex { f with selected := 0, beforeTag := none, lastSeen := 0, reported := [] }

@[simp] theorem name_anew (f : Filter ρ) : f.anew.name = f.name := by
  cases f <;> rfl

@[simp] theorem takes_anew (f : Filter ρ) (token : String) :
    f.anew.takes token = f.takes token := by
  cases f <;> rfl

/-- A filter made as the given yes/no filter is that one, up to what is set in it. -/
theorem exists_yesNo {f : Filter ρ} {g : YesNoFilter ρ} (h : f.anew = yesNo g) :
    ∃ legs tag modified, f = yesNo { g with legs, tag, modified } := by
  cases f with
  | yesNo f =>
    cases h
    exact ⟨f.legs, f.tag, f.modified, rfl⟩
  | patch f | raceSex f => cases h

/-- A filter made as the given patch filter is that one, up to what is set in it. -/
theorem exists_patch {f : Filter ρ} {g : PatchFilter ρ} (h : f.anew = patch g) :
    ∃ selected altered, f = patch { g with selected, altered } := by
  cases f with
  | patch f =>
    cases h
    exact ⟨f.selected, f.altered, rfl⟩
  | yesNo f | raceSex f => cases h

/-- A filter made as the given race/sex filter is that one, up to what is set in it. -/
theorem exists_raceSex {f : Filter ρ} {g : RaceSexFilter ρ} (h : f.anew = raceSex g) :
    ∃ selected beforeTag lastSeen reported,
      f = raceSex { g with selected, beforeTag, lastSeen, reported } := by
  cases f with
  | raceSex f =>
    cases h
    exact ⟨f.selected, f.beforeTag, f.lastSeen, f.reported, rfl⟩
  | yesNo f | patch f => cases h

/-- What a filter comes back to is made of the same as the filter. -/
theorem anew_settled (f : Filter ρ) : f.settled.anew = f.anew := by
  cases f with
  | yesNo f | patch f => rfl
  | raceSex f =>
    rw [settled, clearTag, RaceSexFilter.clearTag_eq]
    rfl

/-- Filters that come back to the same are made of the same. -/
theorem anew_of_settled {f g : Filter ρ} (h : g.settled = f.settled) : g.anew = f.anew := by
  rw [← anew_settled, h, anew_settled]

/-- An edit does not change what a filter is made of. -/
theorem anew_edit (e : Edit) (f : Filter ρ) : ((Call.edit e).run f).anew = f.anew := by
  rw [Call.run]
  cases he : e.run f with
  | none => rfl
  | some g =>
    rw [Option.getD_some]
    cases e with
    | yesNo e =>
      cases f with
      | yesNo f =>
        obtain ⟨f', hf', rfl⟩ := Option.map_eq_some_iff.1 he
        obtain ⟨-, rfl⟩ := YesNoFilter.Edit.run_eq_some.1 hf'
        rfl
      | patch f | raceSex f => cases he
    | patch e =>
      cases f with
      | patch f =>
        obtain ⟨f', hf', rfl⟩ := Option.map_eq_some_iff.1 he
        obtain ⟨next, -, rfl⟩ := PatchFilter.Edit.run_eq_some hf'
        rfl
      | yesNo f | raceSex f => cases he
    | raceSex e =>
      cases f with
      | raceSex f =>
        obtain ⟨f', hf', rfl⟩ := Option.map_eq_some_iff.1 he
        rcases RaceSexFilter.Edit.run_eq_some hf' with ⟨-, index, rfl⟩ | rfl
        · rfl
        · rw [RaceSexFilter.clearTag_eq]
          rfl
      | yesNo f | patch f => cases he

/-- No call changes what a filter is made of. -/
theorem anew_run (c : Call ρ) (f : Filter ρ) : (c.run f).anew = f.anew := by
  cases c with
  | edit e => exact anew_edit e f
  | claim token => exact anew_of_settled (settled_run rfl)
  | clearTag => exact anew_of_settled (settled_run rfl)
  | takeChanged => exact anew_of_settled (settled_run rfl)
  | check r => exact anew_of_settled (settled_run rfl)

end Filter

namespace Sieve

/-- The filters as they were made. -/
def anew (s : Sieve ρ) : List (Filter ρ) :=
  s.filters.map (·.anew)

/-- A step that does not change what any filter is made of does not change what the filters are made
of. -/
theorem anew_amend {step : Filter ρ → Filter ρ} (h : ∀ f, (step f).anew = f.anew) (s : Sieve ρ)
    (name : String) : (s.amend name step).anew = s.anew := by
  rw [anew, amend_filters]
  exact map_eq_of_forall₂ (forall₂_onFirst_self (R := fun f g => g.anew = f.anew) (fun _ => rfl) h
    name s.filters)

/-- No call changes what the filters are made of. -/
theorem anew_run (c : Call ρ) (s : Sieve ρ) :
    (c.run s).delimiter = s.delimiter ∧ (c.run s).anew = s.anew := by
  have hwhole {c : Call ρ} (hc : ∀ name d, c ≠ .filter name d) :
      (c.run s).delimiter = s.delimiter ∧ (c.run s).anew = s.anew := by
    obtain ⟨hd, hs⟩ := settled_run hc s
    exact ⟨hd, map_eq_of_forall₂ (hs.imp fun _ _ => Filter.anew_of_settled)⟩
  cases c with
  | apply | clearTags | takeChanged | admits | evaluate => exact hwhole (by simp)
  | filter name c =>
    exact ⟨s.amend_delimiter name c.run, s.anew_amend (Filter.anew_run c) name⟩

/-- What is found by a name was made as what is found by it among the filters as they were made. -/
theorem get?_anew (s : Sieve ρ) (name : String) :
    (s.get? name).map (·.anew) = s.anew.find? (answersTo name) := by
  rw [anew, List.find?_map, answersTo_comp Filter.name_anew, get?]

/-- What is found by a name stands where it was made. -/
theorem index?_anew (s : Sieve ρ) (name : String) :
    s.index? name = s.anew.findIdx? (answersTo name) := by
  rw [anew, List.findIdx?_map, answersTo_comp Filter.name_anew, index?]

/-- A token is routed as among the filters as they were made. -/
theorem place?_anew (s : Sieve ρ) (token : String) :
    place? s.filters token = place? s.anew token := by
  have htakes : (fun f : Filter ρ => f.takes token) ∘ Filter.anew = fun f => f.takes token := by
    funext f
    exact f.takes_anew token
  rw [place?, place?, anew, List.findIdx?_map, htakes]

end Sieve

namespace ItemSearch

/-! ## The filters of a search -/

/-- All attributes that the standard yes/no filters read are registered, so nothing is logged when
these filters are made. -/
theorem made_of_mem {row : YesNoRow} (h : row ∈ yesNoRows) :
    ∃ get, Item.registry.get? row.wanted = some get ∧
      row.made = (.new row.name row.yesLabel row.noLabel (some get) row.inverted, []) := by
  have hknown : ∀ row ∈ yesNoRows, (Item.registry.get? row.wanted).isSome := by decide
  obtain ⟨get, hget⟩ := Option.isSome_iff_exists.1 (hknown row h)
  refine ⟨get, hget, ?_⟩
  rw [YesNoRow.made, YesNoFilter.ofAttribute, hget]

/-- The step of a request does not change what a filter is made of. -/
theorem anew_stepOr (r : Request) (f : Filter Item) : (stepOr r.step f).anew = f.anew := by
  rw [r.stepOr_step]
  exact Filter.Edit.runAll_keeps Filter.anew_edit (r.edits f) f

/-- The search has the catalog and the delimiter of the other one, and filters made of the same. -/
def SameMake (s t : ItemSearch) : Prop :=
  t.catalog = s.catalog ∧ t.sieve.delimiter = s.sieve.delimiter ∧ t.sieve.anew = s.sieve.anew

theorem SameMake.trans {s t u : ItemSearch} (h : s.SameMake t) (h' : t.SameMake u) :
    s.SameMake u :=
  ⟨h'.1.trans h.1, h'.2.1.trans h.2.1, h'.2.2.trans h.2.2⟩

theorem SameMake.symm {s t : ItemSearch} (h : s.SameMake t) : t.SameMake s :=
  ⟨h.1.symm, h.2.1.symm, h.2.2.symm⟩

/-- A call on the sieve does not change what the filters are made of. -/
theorem sameMake_sieve (s : ItemSearch) (c : Sieve.Call Item) :
    s.SameMake { s with sieve := c.run s.sieve } :=
  ⟨rfl, Sieve.anew_run c s.sieve⟩

/-- A request does not change what the filters are made of. -/
theorem sameMake_request (s : ItemSearch) (r : Request) : s.SameMake (s.after (r.run s)) := by
  rw [r.run_eq, after_request]
  exact ⟨rfl, s.sieve.amend_delimiter _ _, s.sieve.anew_amend (anew_stepOr r) _⟩

/-- No call changes what the filters are made of. -/
theorem sameMake_call (s : ItemSearch) (c : Call) : s.SameMake (c.run s) := by
  cases c with
  | search query =>
    have happly := s.sameMake_sieve (.apply query)
    have hpoll := sameMake_sieve { s with sieve := (s.sieve.apply query).2 } .takeChanged
    exact (happly.trans hpoll).trans (sameMake_sieve _
      (.evaluate Item.matchesTerm (s.sieve.apply query).1 s.catalog.items))
  | apply query => exact s.sameMake_sieve (.apply query)
  | matching q => exact s.sameMake_sieve (.evaluate Item.matchesTerm q s.catalog.items)
  | only name => exact s.sameMake_request (.only name)
  | exclude name => exact s.sameMake_request (.exclude name)
  | selectPatch text => exact s.sameMake_request (.selectPatch text)
  | selectRaceSex label => exact s.sameMake_request (.selectRaceSex label)
  | sieve c => exact s.sameMake_sieve c

/-- Whatever is done with a search, its filters stay made of the same. -/
theorem sameMake_run (s : ItemSearch) (calls : List Call) : s.SameMake (s.run calls) := by
  induction calls generalizing s with
  | nil => exact ⟨rfl, rfl, rfl⟩
  | cons c rest ih => exact (s.sameMake_call c).trans (ih (c.run s))

/-- Whatever is done with a search, its filters are the standard ones, up to what is set in them. -/
theorem anew_run (catalog : Catalog) (c : Settings) (calls : List Call) :
    ((new catalog c).run calls).sieve.anew = standardFilters catalog c.character := by
  rw [(sameMake_run _ calls).2.2]
  rfl

/-- Whatever is done with a search, the filter of a name is the standard one, up to what is set in
it. -/
theorem get?_anew (catalog : Catalog) (c : Settings) (calls : List Call) {name : String}
    {g : Filter Item}
    (h : (standardFilters catalog c.character).find? (Sieve.answersTo name) = some g) :
    ∃ f, ((new catalog c).run calls).sieve.get? name = some f ∧ f.anew = g := by
  have hfind := ((new catalog c).run calls).sieve.get?_anew name
  rw [anew_run, h] at hfind
  exact Option.map_eq_some_iff.1 hfind

/-- Each of the standard yes/no filters is always there: the first one of its name, and the first
one that takes its tags, in any spelling. -/
theorem exists_yesNo (catalog : Catalog) (c : Settings) (calls : List Call) {B : YesNoFilter Item}
    (hB : B ∈ yesNoFilters) :
    let s := (new catalog c).run calls
    ∃ i legs tag modified, s.sieve.filters[i]? = some (.yesNo { B with legs, tag, modified }) ∧
      s.sieve.index? B.name = some i ∧
      ∀ token, Tag.normal token ∈ B.tags → Sieve.place? s.sieve.filters token = some i := by
  intro s
  have hmade : s.sieve.anew = standardFilters catalog c.character := anew_run catalog c calls
  have hindex : ∀ i, (h : i < yesNoFilters.length) →
      (yesNoFilters.map Filter.yesNo).findIdx? (Sieve.answersTo yesNoFilters[i].name) = some i := by
    decide +kernel
  have hplace : ∀ i, (h : i < yesNoFilters.length) → ∀ tag ∈ yesNoFilters[i].tags,
      Tag.normal tag = tag ∧
        Sieve.place? (yesNoFilters.map Filter.yesNo) tag = some i := by
    decide +kernel
  obtain ⟨i, hi, rfl⟩ := List.getElem_of_mem hB
  have hstandard : s.sieve.anew[i]? = some (.yesNo yesNoFilters[i]) := by
    rw [hmade, standardFilters, List.getElem?_append_left (by simpa using hi), List.getElem?_map,
      List.getElem?_eq_getElem hi, Option.map_some]
  rw [Sieve.anew, List.getElem?_map] at hstandard
  obtain ⟨f, hf, hanew⟩ := Option.map_eq_some_iff.1 hstandard
  obtain ⟨legs, tag, modified, rfl⟩ := Filter.exists_yesNo hanew
  refine ⟨i, legs, tag, modified, hf, ?_, ?_⟩
  · rw [Sieve.index?_anew, hmade, standardFilters, List.findIdx?_append, hindex i hi,
      Option.some_or]
  · intro token htoken
    obtain ⟨hnormal, htag⟩ := hplace i hi _ htoken
    rw [Sieve.place?_congr_normal hnormal.symm, Sieve.place?_anew, hmade, standardFilters,
      Sieve.place?, List.findIdx?_append, ← Sieve.place?, htag, Option.some_or]

/-- A name that no yes/no filter has is looked for among the other two filters. -/
theorem find?_standardFilters (catalog : Catalog) (who : Option Wearer) {name : String}
    (h : ((yesNoFilters.map Filter.yesNo).find? (Sieve.answersTo name)).isNone = true) :
    (standardFilters catalog who).find? (Sieve.answersTo name) =
      [.patch (.new Patch.table Item.patch),
        .raceSex (.new catalog.races catalog.rules who)].find? (Sieve.answersTo name) := by
  rw [standardFilters, List.find?_append, Option.isNone_iff_eq_none.1 h, Option.none_or]

/-- The standard filter for patches is a new one over the built-in table. -/
theorem find?_patch (catalog : Catalog) (who : Option Wearer) :
    (standardFilters catalog who).find? (Sieve.answersTo PatchFilter.name) =
      some (.patch (.new Patch.table Item.patch)) := by
  have hname : Text.sameAscii PatchFilter.name PatchFilter.name = true := by decide
  rw [find?_standardFilters catalog who (by decide +kernel)]
  exact List.find?_cons_of_pos hname

/-- The standard race/sex filter is a new one over the races and the rules of the catalog. -/
theorem find?_raceSex (catalog : Catalog) (who : Option Wearer) :
    (standardFilters catalog who).find? (Sieve.answersTo RaceSexFilter.name) =
      some (.raceSex (.new catalog.races catalog.rules who)) := by
  have hother (f : PatchFilter Item) :
      ¬ Sieve.answersTo RaceSexFilter.name (.patch f) = true := by
    have hnames : ¬ Text.sameAscii PatchFilter.name RaceSexFilter.name = true := by decide
    exact hnames
  have hname : Text.sameAscii RaceSexFilter.name RaceSexFilter.name = true := by decide
  rw [find?_standardFilters catalog who (by decide +kernel), List.find?_cons_of_neg (hother _)]
  exact List.find?_cons_of_pos hname

/-- The patch filter is always there, with the table of patches. -/
theorem exists_patch (catalog : Catalog) (c : Settings) (calls : List Call) :
    ∃ f : PatchFilter Item,
      ((new catalog c).run calls).sieve.get? PatchFilter.name = some (.patch f) ∧
        f.table = Patch.table := by
  obtain ⟨f, hf, hmade⟩ := get?_anew catalog c calls (find?_patch catalog c.character)
  obtain ⟨selected, altered, rfl⟩ := Filter.exists_patch hmade
  exact ⟨_, hf, rfl⟩

/-- The race/sex filter is always there, with the options of the races in the catalog and the
character that the user plays. -/
theorem exists_raceSex (catalog : Catalog) (c : Settings) (calls : List Call) :
    ∃ f : RaceSexFilter Item,
      ((new catalog c).run calls).sieve.get? RaceSexFilter.name = some (.raceSex f) ∧
        f.options = .notSelected :: catalog.races.flatMap RaceSexOption.ofRace ∧
        f.character = c.character := by
  obtain ⟨f, hf, hmade⟩ := get?_anew catalog c calls (find?_raceSex catalog c.character)
  obtain ⟨selected, beforeTag, lastSeen, reported, rfl⟩ := Filter.exists_raceSex hmade
  exact ⟨_, hf, rfl, rfl⟩

end ItemSearch

end ItemSieve
