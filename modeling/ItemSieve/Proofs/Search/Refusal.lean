import ItemSieve.Proofs.Search.Standard

/-!
# What a request is refused for, and what it changes

A request is refused for exactly the causes in `ItemSearch.Request.Refused`, and then none of the
edits it is made of is left behind. A request that goes through changes one filter, the first one of
its name, and that as `ItemSearch.Request.Grants` says (`ItemSearch.request_run`). Each kind of
filter has one lemma on the step it is asked to take: `yesNoStep_eq`, `patchStep_eq` and
`raceSexStep_eq`.
-/

namespace ItemSieve

variable {ρ : Type}

namespace YesNoFilter

/-- The edit leaves a single leg open, unless it is refused because of a tag. -/
def Opens (leg : Bool) (edit : YesNoFilter ρ → Option (YesNoFilter ρ)) : Prop :=
  ∀ f, edit f =
    if f.tag.isSome then none else some { f with legs := .only leg, modified := true }

/-- The two edits that leave a single leg open go through or are refused together. -/
theorem opens_only : Opens (ρ := ρ) true only := by
  intro f
  cases ht : f.tag <;> simp [only, setYes, setNo, edit, ht, Legs.setYes, Legs.setNo, Legs.only]

/-- The same for the leg of the records that do not have the attribute. -/
theorem opens_exclude : Opens (ρ := ρ) false exclude := by
  intro f
  cases ht : f.tag <;> simp [exclude, setYes, setNo, edit, ht, Legs.setYes, Legs.setNo, Legs.only]

end YesNoFilter

namespace RaceSexFilter

/-- The label is `self`, white space around it and the case of its letters aside. -/
def saysSelf (label : String) : Bool :=
  Text.sameAscii (Text.trimmed label) selfTag

/-- The label names the option: `self` that of the character the user plays, any other label those
with the same normal form. -/
def names (f : RaceSexFilter ρ) (label : String) (o : RaceSexOption) : Bool :=
  if saysSelf label then f.character == some o.wearer
  else Tag.normal o.label == Tag.normal label

/-- What a label chooses is the first option that it names. -/
theorem indexOf?_names (f : RaceSexFilter ρ) (label : String) :
    f.indexOf? (f.names label) = if saysSelf label then f.current? else f.find? label := by
  unfold names
  cases saysSelf label with
  | true => simp [current?_eq]
  | false => simp [find?, tagged?, RaceSexOption.tag]

/-- Why the choice of a label is refused: a tag is in force, or the label names no option but the
choice of nothing. -/
inductive Refuses (f : RaceSexFilter ρ) (label : String) : RequestError → Prop
  | overridden : f.fromTag = true → Refuses f label (.overridden name)
  | noCharacter : f.fromTag = false → saysSelf label = true →
      (∀ o ∈ f.options.drop 1, f.character ≠ some o.wearer) → Refuses f label .noCharacter
  | unknownRaceSex : f.fromTag = false → saysSelf label = false →
      (∀ o ∈ f.options.drop 1, Tag.normal o.label ≠ Tag.normal label) →
      Refuses f label (.unknownRaceSex label)

end RaceSexFilter

namespace Sieve

/-- Why there is no yes/no filter to edit by a name: no filter has the name, the first one that has
it is of another kind, or it is overridden by a tag. -/
inductive Locked (s : Sieve ρ) (name : String) : RequestError → Prop
  | unknownFilter : (∀ f ∈ s.filters, Text.sameAscii f.name name = false) →
      Locked s name (.unknownFilter name)
  | notYesNo {f : Filter ρ} : s.get? name = some f → (∀ g, f ≠ .yesNo g) →
      Locked s name (.notYesNo name)
  | overridden {f : YesNoFilter ρ} : s.get? name = some (.yesNo f) → f.tag.isSome →
      Locked s name (.overridden name)

/-- The filter found by a name is the first one that has it, and it is replaced in its place. -/
theorem exists_index? {s : Sieve ρ} {name : String} {f : Filter ρ} (h : s.get? name = some f) :
    ∃ i, s.index? name = some i ∧ s.filters[i]? = some f ∧
      ∀ g, s.put name g = { s with filters := s.filters.set i g } := by
  have hlist (fs : List (Filter ρ)) (h : fs.find? (answersTo name) = some f) :
      ∃ i, fs.findIdx? (answersTo name) = some i ∧ fs[i]? = some f ∧
        ∀ g, put.replace name g fs = fs.set i g := by
    induction fs with
    | nil => cases h
    | cons f' rest ih =>
      cases hf' : answersTo name f' with
      | true =>
        rw [List.find?_cons_of_pos hf'] at h
        cases h
        exact ⟨0, by simp [List.findIdx?_cons, hf'], rfl, fun g => by simp [put.replace, hf']⟩
      | false =>
        rw [List.find?_cons_of_neg (by simp [hf'])] at h
        obtain ⟨i, hi, hget, hput⟩ := ih h
        exact ⟨i + 1, by simp [List.findIdx?_cons, hf', hi], hget,
          fun g => by simp [put.replace, hf', hput]⟩
  obtain ⟨i, hi, hget, hput⟩ := hlist s.filters h
  exact ⟨i, hi, hget, fun g => by rw [put, hput]⟩

/-- What is put in the place of a filter is found by its name, if it has that name too. -/
theorem get?_put {s : Sieve ρ} {name : String} {f g : Filter ρ} (h : s.get? name = some f)
    (hname : g.name = f.name) : (s.put name g).get? name = some g := by
  have hlist (fs : List (Filter ρ)) (h : fs.find? (answersTo name) = some f) :
      (put.replace name g fs).find? (answersTo name) = some g := by
    induction fs with
    | nil => cases h
    | cons f' rest ih =>
      rw [put.replace]
      cases hf' : answersTo name f' with
      | true =>
        rw [List.find?_cons_of_pos hf'] at h
        cases h
        have hg : answersTo name g = true := by rw [answersTo, hname, ← answersTo, hf']
        rw [if_pos rfl, List.find?_cons_of_pos hg]
      | false =>
        rw [List.find?_cons_of_neg (by simp [hf'])] at h
        rw [if_neg Bool.false_ne_true, List.find?_cons_of_neg (by simp [hf']), ih h]
  exact hlist s.filters h

end Sieve

namespace ItemSearch

/-! ## The step of one filter -/

/-- A request to leave a single leg of a yes/no filter open is refused exactly under a tag. -/
theorem yesNoStep_eq {edit : YesNoFilter Item → Option (YesNoFilter Item)} {leg : Bool}
    (hedit : YesNoFilter.Opens leg edit) (name : String) (f : YesNoFilter Item) :
    yesNoStep name edit (.yesNo f) =
      if f.tag.isSome then .error (.request (.overridden name))
      else .ok (.yesNo { f with legs := .only leg, modified := true }) := by
  rw [yesNoStep, hedit]
  cases f.tag <;> rfl

/-- A step of a yes/no filter that goes through leaves a single leg open, and was not under a
tag. -/
theorem yesNoStep_eq_ok {edit : YesNoFilter Item → Option (YesNoFilter Item)} {leg : Bool}
    (hedit : YesNoFilter.Opens leg edit) {name : String} {f g : Filter Item}
    (h : yesNoStep name edit f = .ok g) :
    ∃ y, f = .yesNo y ∧ y.tag = none ∧
      g = .yesNo { y with legs := .only leg, modified := true } := by
  cases f with
  | yesNo y =>
    rw [yesNoStep_eq hedit] at h
    split at h
    · cases h
    · next htag =>
      cases h
      exact ⟨y, rfl, by simpa using htag, rfl⟩
  | patch f | raceSex f => cases h

/-- A request for a patch is refused exactly if its text means no row. -/
theorem patchStep_eq (text : String) (f : PatchFilter Item) :
    patchStep text (.patch f) =
      match f.find? text with
      | some p => .ok (.patch ((f.select p.id).getD f))
      | none => .error (.request (.unknownPatch text)) :=
  rfl

/-- A request for a race and a sex is refused exactly under a tag or if its label names no
option. -/
theorem raceSexStep_eq (label : String) (f : RaceSexFilter Item) :
    raceSexStep label (.raceSex f) =
      if f.fromTag then .error (.request (.overridden RaceSexFilter.name))
      else
        match f.indexOf? (f.names label) with
        | some index => .ok (.raceSex { f with selected := index })
        | none => .error (.request
            (if RaceSexFilter.saysSelf label then .noCharacter else .unknownRaceSex label)) := by
  have hnames := f.indexOf?_names label
  have hself : Text.sameAscii (Text.trimmed label) RaceSexFilter.selfTag =
    RaceSexFilter.saysSelf label := by rw [RaceSexFilter.saysSelf]
  simp only [raceSexStep, hself, hnames]
  cases hf : f.fromTag with
  | true => simp
  | false =>
    cases hlabel : RaceSexFilter.saysSelf label with
    | true =>
      rw [hlabel, if_pos rfl] at hnames
      simp only [RaceSexFilter.selectCurrent]
      cases hc : f.current? with
      | none => simp
      | some index => simp [RaceSexFilter.select_of_indexOf? hf (hnames.trans hc)]
    | false =>
      rw [hlabel, if_neg Bool.false_ne_true] at hnames
      cases hc : f.find? label with
      | none => simp
      | some index => simp [RaceSexFilter.select_of_indexOf? hf (hnames.trans hc)]

namespace Request

/-- Why a request is refused. -/
def Refused (s : ItemSearch) (cause : RequestError) : Request → Prop
  | only name | exclude name => s.sieve.Locked name cause
  | selectPatch text => ∃ f, s.sieve.get? PatchFilter.name = some (.patch f) ∧
      f.find? text = none ∧ cause = .unknownPatch text
  | selectRaceSex label => ∃ f, s.sieve.get? RaceSexFilter.name = some (.raceSex f) ∧
      f.Refuses label cause

/-- What a request that goes through makes of the filter it is addressed to. -/
def Grants (f g : Filter Item) : Request → Prop
  | only _ => ∃ y, f = .yesNo y ∧ y.tag = none ∧
      g = .yesNo { y with legs := ⟨true, false⟩, modified := true }
  | exclude _ => ∃ y, f = .yesNo y ∧ y.tag = none ∧
      g = .yesNo { y with legs := ⟨false, true⟩, modified := true }
  | selectPatch text => ∃ p e, f = .patch p ∧ p.find? text = some e ∧
      g = .patch ((p.select e.id).getD p)
  | selectRaceSex label => ∃ r index, f = .raceSex r ∧ r.fromTag = false ∧
      r.IsFirst (r.names label) index ∧ g = .raceSex { r with selected := index }

end Request

/-! ## The request -/

/-- A request is refused because there is no filter of the given name, or because the filter refuses
the step. -/
theorem request_eq_error {s : ItemSearch} {name : String}
    {step : Filter Item → Except SieveError (Filter Item)} {e : SieveError} :
    s.request name step = .error e ↔
      (s.sieve.get? name = none ∧ e = .request (.unknownFilter name)) ∨
        ∃ f, s.sieve.get? name = some f ∧ step f = .error e := by
  unfold request filter
  cases s.sieve.get? name with
  | none => simp [bind, Except.bind, eq_comm]
  | some f =>
    cases hg : step f <;> simp [bind, Except.bind, pure, Except.pure, hg]

/-- A step that the filter of a name takes is a request that goes through. -/
theorem request_of_step {s : ItemSearch} {name : String} {f g : Filter Item}
    {step : Filter Item → Except SieveError (Filter Item)} (hf : s.sieve.get? name = some f)
    (hg : step f = .ok g) : s.request name step = .ok (s.put name g) := by
  unfold request filter
  rw [hf]
  simp [bind, Except.bind, pure, Except.pure, hg]

/-- A request that goes through puts what the step makes of the filter in its place. -/
theorem request_eq_ok {s t : ItemSearch} {name : String}
    {step : Filter Item → Except SieveError (Filter Item)} (h : s.request name step = .ok t) :
    ∃ f g, s.sieve.get? name = some f ∧ step f = .ok g ∧ t = s.put name g := by
  unfold request filter at h
  cases hf : s.sieve.get? name with
  | none =>
    rw [hf] at h
    cases h
  | some f =>
    rw [hf] at h
    cases hg : step f with
    | error e =>
      simp only [bind, Except.bind, hg] at h
      cases h
    | ok g =>
      simp only [bind, Except.bind, hg] at h
      cases h
      exact ⟨f, g, rfl, hg, rfl⟩

/-- A request to leave a single leg of a yes/no filter open is refused exactly if there is no filter
of the name to edit. -/
theorem request_yesNo_eq_error {s : ItemSearch} {name : String} {e : SieveError}
    {edit : YesNoFilter Item → Option (YesNoFilter Item)} {leg : Bool}
    (hedit : YesNoFilter.Opens leg edit) :
    s.request name (yesNoStep name edit) = .error e ↔
      ∃ cause, e = .request cause ∧ s.sieve.Locked name cause := by
  rw [request_eq_error]
  constructor
  · rintro (⟨hnone, rfl⟩ | ⟨f, hf, he⟩)
    · refine ⟨_, rfl, .unknownFilter ?_⟩
      intro f hmem
      exact Bool.eq_false_iff.2 (List.find?_eq_none.1 hnone f hmem)
    · cases f with
      | yesNo f =>
        rw [yesNoStep_eq hedit] at he
        split at he
        · next htag =>
          cases he
          exact ⟨_, rfl, .overridden hf htag⟩
        · cases he
      | patch f | raceSex f =>
        cases he
        exact ⟨_, rfl, .notYesNo hf (by simp)⟩
  · rintro ⟨cause, rfl, hlocked⟩
    cases hlocked with
    | unknownFilter hnone =>
      refine .inl ⟨List.find?_eq_none.2 ?_, rfl⟩
      intro f hmem
      exact Bool.eq_false_iff.1 (hnone f hmem)
    | notYesNo hf hkind =>
      refine .inr ⟨_, hf, ?_⟩
      rename_i f
      cases f with
      | yesNo f => exact absurd rfl (hkind f)
      | patch f | raceSex f => rfl
    | overridden hf htag =>
      refine .inr ⟨_, hf, ?_⟩
      rw [yesNoStep_eq hedit, if_pos htag]

/-- A choice of a label that goes through selects the first option that it names, without a tag. -/
theorem raceSexStep_eq_ok {f : RaceSexFilter Item} {g : Filter Item} {label : String}
    (h : raceSexStep label (.raceSex f) = .ok g) :
    ∃ index, f.fromTag = false ∧ f.IsFirst (f.names label) index ∧
      g = .raceSex { f with selected := index } := by
  rw [raceSexStep_eq] at h
  split at h
  · cases h
  · next hf =>
    cases hnames : f.indexOf? (f.names label) with
    | none =>
      rw [hnames] at h
      cases h
    | some index =>
      rw [hnames] at h
      cases h
      exact ⟨index, by simpa using hf, RaceSexFilter.isFirst_of_indexOf? hnames, rfl⟩

/-- A step of the race/sex filter is refused exactly for the causes for which the filter refuses the
label. -/
theorem raceSexStep_eq_error {f : RaceSexFilter Item} {label : String} {e : SieveError} :
    raceSexStep label (.raceSex f) = .error e ↔
      ∃ cause, e = .request cause ∧ f.Refuses label cause := by
  rw [raceSexStep_eq]
  constructor
  · intro he
    cases hf : f.fromTag with
    | true =>
      rw [hf, if_pos rfl] at he
      cases he
      exact ⟨_, rfl, .overridden hf⟩
    | false =>
      rw [hf, if_neg Bool.false_ne_true] at he
      cases hnames : f.indexOf? (f.names label) with
      | some index =>
        rw [hnames] at he
        cases he
      | none =>
        rw [hnames] at he
        cases he
        rw [RaceSexFilter.indexOf?_eq_none] at hnames
        cases hself : RaceSexFilter.saysSelf label with
        | true =>
          refine ⟨_, rfl, .noCharacter hf hself ?_⟩
          simpa [RaceSexFilter.names, hself] using hnames
        | false =>
          refine ⟨_, rfl, .unknownRaceSex hf hself ?_⟩
          simpa [RaceSexFilter.names, hself] using hnames
  · rintro ⟨cause, rfl, hrefuses⟩
    cases hrefuses with
    | overridden hf => rw [hf, if_pos rfl]
    | noCharacter hf hself hnone =>
      have hnames : f.indexOf? (f.names label) = none :=
        RaceSexFilter.indexOf?_eq_none.2 (by simpa [RaceSexFilter.names, hself] using hnone)
      rw [hf, if_neg Bool.false_ne_true, hnames, hself, if_pos rfl]
    | unknownRaceSex hf hself hnone =>
      have hnames : f.indexOf? (f.names label) = none :=
        RaceSexFilter.indexOf?_eq_none.2 (by simpa [RaceSexFilter.names, hself] using hnone)
      rw [hf, if_neg Bool.false_ne_true, hnames, hself, if_neg Bool.false_ne_true]

namespace Request

variable {s t : ItemSearch}

/-- A request is refused exactly for the causes in `Refused`, if there are a patch filter and a
race/sex filter. -/
theorem run_eq_error {p : PatchFilter Item} {f : RaceSexFilter Item}
    (hp : s.sieve.get? PatchFilter.name = some (.patch p))
    (hf : s.sieve.get? RaceSexFilter.name = some (.raceSex f)) (r : Request) (e : SieveError) :
    r.run s = .error e ↔ ∃ cause, e = .request cause ∧ r.Refused s cause := by
  cases r with
  | only name => exact request_yesNo_eq_error YesNoFilter.opens_only
  | exclude name => exact request_yesNo_eq_error YesNoFilter.opens_exclude
  | selectPatch text =>
    rw [run_eq, request_eq_error]
    simp only [name, step, Refused, hp, reduceCtorEq, false_and, false_or, Option.some.injEq,
      exists_eq_left', Filter.patch.injEq, patchStep_eq]
    cases hfind : p.find? text with
    | none => simp [eq_comm]
    | some row => simp
  | selectRaceSex label =>
    rw [run_eq, request_eq_error]
    simp only [name, step, Refused, hf, reduceCtorEq, false_and, false_or, Option.some.injEq,
      exists_eq_left', Filter.raceSex.injEq, raceSexStep_eq_error]

/-- A step that is taken makes of the filter what the request grants. -/
theorem grants_of_step {r : Request} {f g : Filter Item} (h : r.step f = .ok g) : r.Grants f g := by
  cases r with
  | only name => exact yesNoStep_eq_ok YesNoFilter.opens_only h
  | exclude name => exact yesNoStep_eq_ok YesNoFilter.opens_exclude h
  | selectPatch text =>
    cases f with
    | patch p =>
      rw [step, patchStep_eq] at h
      cases hfind : p.find? text with
      | none =>
        rw [hfind] at h
        cases h
      | some row =>
        rw [hfind] at h
        cases h
        exact ⟨p, row, rfl, hfind, rfl⟩
    | yesNo f | raceSex f => cases h
  | selectRaceSex label =>
    cases f with
    | raceSex f =>
      obtain ⟨index, hf, hfirst, rfl⟩ := raceSexStep_eq_ok h
      exact ⟨f, index, rfl, hf, hfirst, rfl⟩
    | yesNo f | patch f => cases h

end Request

/-- Whatever has been done with a search: a request is refused exactly for the causes in `Refused`,
and in that case the edits that it is made of, each of them made in its place, leave the whole
search as it is. A request that goes through is all of these edits, and it replaces the one filter
that is found by the name it is addressed to with what it grants; everything else stays as it is. -/
theorem request_run (catalog : Catalog) (c : Settings) (calls : List Call) (r : Request) :
    let s := (new catalog c).run calls
    (∀ e, r.run s = .error e ↔ ∃ cause, e = .request cause ∧ r.Refused s cause) ∧
      (∀ e, r.run s = .error e → r.inPlace s = s) ∧
      ∀ t, r.run s = .ok t → r.inPlace s = t ∧
        ∃ i f g, s.sieve.index? r.name = some i ∧ s.sieve.filters[i]? = some f ∧ r.Grants f g ∧
          t = { s with sieve := { s.sieve with filters := s.sieve.filters.set i g } } := by
  intro s
  obtain ⟨p, hp, -⟩ := exists_patch catalog c calls
  obtain ⟨f, hf, -⟩ := exists_raceSex catalog c calls
  refine ⟨Request.run_eq_error hp hf r, ?_, ?_⟩
  · intro e he
    rw [Request.inPlace_eq, he]
    rfl
  · intro t ht
    refine ⟨by rw [Request.inPlace_eq, ht]; rfl, ?_⟩
    rw [Request.run_eq] at ht
    obtain ⟨f, g, hget, hstep, rfl⟩ := request_eq_ok ht
    obtain ⟨i, hi, hfi, hput⟩ := Sieve.exists_index? hget
    exact ⟨i, f, g, hi, hfi, Request.grants_of_step hstep, by rw [put, hput]⟩

end ItemSearch

end ItemSieve
