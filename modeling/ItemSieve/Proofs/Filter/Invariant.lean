import ItemSieve.Proofs.RaceSex.Report
import ItemSieve.Proofs.YesNo.Flags

/-!
# What no run of a filter breaks

In every state of a yes/no filter the user's legs are not both shut: an edit opens one leg or the
other whatever the legs were before (`YesNoFilter.open_change`). A tag leaves a single leg open and
turns the user's edits away, so of two records that differ in the attribute one passes in any case
(`YesNoFilter.check_or_check`); and what a filter is set to may as well be written in place, in
flags that allow for more (`YesNoFilter.Flags.Keeps.run`).

In every state of a race/sex filter the indices it keeps are those of options
(`RaceSexFilter.InRange.run`), the one that the latest tag took the place of among them, even when
that tag has ended (`RaceSexFilter.displaced`). A tag never selects the choice of nothing, and no
edit under a tag does either, for all an edit can do then is to end the tag
(`RaceSexFilter.TagSelects`).
-/

namespace ItemSieve

variable {ρ : Type}

/-! ## Yes/no filters -/

/-- One leg is open at least. -/
def Legs.Open (l : Legs) : Prop :=
  l.yes = true ∨ l.no = true

namespace YesNoFilter

/-- An edit leaves a leg open whatever the legs were before. -/
theorem open_change (e : Edit) (l : Legs) : (e.change l).Open := by
  cases e with
  | setYes value =>
    cases value with
    | true => exact .inl rfl
    | false => exact .inr rfl
  | setNo value =>
    cases value with
    | true => exact .inr rfl
    | false => exact .inl rfl
  | reset => exact .inl rfl

/-- An edit is turned away exactly under a tag. -/
theorem edit_eq_none_iff {f : YesNoFilter ρ} {e : Edit} : e.run f = none ↔ f.tag.isSome := by
  rw [Edit.run_eq, edit]
  cases f.tag with
  | none => simp
  | some leg => simp

/-- Under a tag an edit of a yes/no filter changes nothing. -/
theorem edit_of_tag {f : YesNoFilter ρ} (h : f.tag.isSome) (e : Edit) :
    (Call.edit e).run f = f := by
  rw [Call.run, edit_eq_none_iff.2 h, Option.getD_none]

/-- A call reads the same attribute as before, and changes the legs only by an edit. -/
theorem Call.run_keeps (f : YesNoFilter ρ) (c : Call) :
    (c.run f).read = f.read ∧
      ((c.run f).legs = f.legs ∨ ∃ e : Edit, (c.run f).legs = e.change f.legs) := by
  cases c with
  | edit e =>
    cases he : e.run f with
    | none =>
      rw [run, he]
      exact ⟨rfl, .inl rfl⟩
    | some g =>
      obtain ⟨-, rfl⟩ := Edit.run_eq_some.1 he
      rw [run, he]
      exact ⟨rfl, .inr ⟨e, rfl⟩⟩
  | claim token =>
    rw [run, claim_eq]
    split
    · exact ⟨rfl, .inl rfl⟩
    · exact ⟨rfl, .inl rfl⟩
  | clearTag | takeChanged => exact ⟨rfl, .inl rfl⟩

/-- A run reads the same attribute all the time and never shuts both legs. -/
theorem run_keeps {f : YesNoFilter ρ} (h : f.legs.Open) (calls : List Call) :
    (f.run calls).read = f.read ∧ (f.run calls).legs.Open := by
  induction calls generalizing f with
  | nil => exact ⟨rfl, h⟩
  | cons c rest ih =>
    obtain ⟨hread, hlegs⟩ := Call.run_keeps f c
    have hopen : (c.run f).legs.Open := by
      rcases hlegs with hsame | ⟨e, hchange⟩
      · rw [hsame]
        exact h
      · rw [hchange]
        exact open_change e f.legs
    obtain ⟨hread', hopen'⟩ := ih hopen
    exact ⟨hread'.trans hread, hopen'⟩

/-- Under a tag one leg is open and the other one is shut. -/
theorem active_of_tag {f : YesNoFilter ρ} (h : f.tag.isSome) : f.active.yes = !f.active.no := by
  obtain ⟨leg, hleg⟩ := Option.isSome_iff_exists.1 h
  rw [active, hleg]
  exact (Bool.not_not leg).symm

/-- The legs in force are not both shut if the user's are not. -/
theorem open_active {f : YesNoFilter ρ} (h : f.legs.Open) : f.active.Open := by
  cases htag : f.tag with
  | none =>
    rw [active, htag]
    exact h
  | some leg =>
    have hone : f.active.yes = !f.active.no := active_of_tag (htag ▸ rfl)
    cases hno : f.active.no with
    | true => exact .inr hno
    | false =>
      rw [hno] at hone
      exact .inl hone

/-- Of two records that differ in the attribute one passes. -/
theorem check_or_check {f : YesNoFilter ρ} (h : f.active.Open) {get : ρ → Bool}
    (hread : f.read = some get) {r r' : ρ} (hne : get r ≠ get r') :
    f.check r = true ∨ f.check r' = true := by
  have hcheck (s : ρ) : f.check s = if get s != f.inverted then f.active.yes else f.active.no := by
    rw [check, hread]
    rfl
  rw [hcheck, hcheck, Bool.eq_not_of_ne hne]
  -- The two records ask for different legs, whether the filter is inverted or not.
  rcases h with hyes | hno
  · cases hr' : get r' <;> cases hi : f.inverted <;> simp [hyes]
  · cases hr' : get r' <;> cases hi : f.inverted <;> simp [hno]

end YesNoFilter

/-! ## Race/sex filters -/

namespace RaceSexFilter

/-- The selection that the latest tag of a run took the place of, be the tag in force or not. Before
the first tag of the run it is `saved`. -/
def displaced (f : RaceSexFilter ρ) (saved : Nat) : List (Call ρ) → Nat
  | [] => saved
  | c :: rest => (c.run f).displaced ((c.run f).beforeTag.getD saved) rest

/-- As long as a tag is in force, the selection that it took the place of is the one to come back
to. -/
theorem displaced_of_beforeTag {f : RaceSexFilter ρ} {saved : Nat}
    (hsaved : ∀ index ∈ f.beforeTag, index = saved) (calls : List (Call ρ)) :
    ∀ index ∈ (f.run calls).beforeTag, index = f.displaced saved calls := by
  induction calls generalizing f saved with
  | nil => exact hsaved
  | cons c rest ih =>
    refine ih ?_
    intro index hindex
    rw [Option.mem_def.1 hindex, Option.getD_some]

/-- The selection that the latest tag took the place of is an option even when the tag has ended. -/
theorem InRange.displaced_lt {f : RaceSexFilter ρ} (h : f.InRange) {saved : Nat}
    (hsaved : saved < f.options.length) (calls : List (Call ρ)) :
    f.displaced saved calls < f.options.length := by
  induction calls generalizing f saved with
  | nil => exact hsaved
  | cons c rest ih =>
    obtain ⟨hrange, hoptions, -⟩ := h.call c
    -- What is saved now is a selection from before the call, or what was saved already.
    have hnext : (c.run f).beforeTag.getD saved < (c.run f).options.length := by
      cases hb : (c.run f).beforeTag with
      | none =>
        rw [hoptions]
        exact hsaved
      | some index => exact hrange.beforeTag index hb
    rw [← hoptions]
    exact ih hrange hnext

/-- When a tag is in force, another option than the choice of nothing is selected. -/
def TagSelects (f : RaceSexFilter ρ) : Prop :=
  f.fromTag = true → f.selected ≠ 0

/-- A new filter is under no tag. -/
theorem tagSelects_new (races : List Race) (rules : EquipRules ρ) (who : Option Wearer) :
    (new races rules who).TagSelects :=
  nofun

theorem fromTag_clearTag (f : RaceSexFilter ρ) : f.clearTag.fromTag = false :=
  Filter.fromTag_clearTag (.raceSex f)

/-- A tag is laid on another option than the choice of nothing, and no other call selects anything
under a tag. -/
theorem TagSelects.call {f : RaceSexFilter ρ} (h : f.TagSelects) (c : Call ρ) :
    (c.run f).TagSelects := by
  cases c with
  | edit e =>
    cases he : e.run f with
    | none =>
      rw [Call.run, he]
      exact h
    | some g =>
      rw [Call.run, he, Option.getD_some]
      intro hfrom
      -- Either no tag was in force and none is now, or the edit ended the tag.
      rcases Edit.run_eq_some he with ⟨hnone, index, rfl⟩ | rfl
      · rw [fromTag, hnone] at hfrom
        cases hfrom
      · rw [fromTag_clearTag] at hfrom
        cases hfrom
  | claim token =>
    rw [Call.run, RaceSexFilter.claim]
    cases hmeant : f.meant? token with
    | none => exact h
    | some index =>
      have hpos : 0 < index := (isFirst_of_indexOf? (f.meant?_eq token ▸ hmeant)).pos
      intro _
      exact Nat.ne_of_gt hpos
  | clearTag =>
    intro hfrom
    rw [Call.run, fromTag_clearTag] at hfrom
    cases hfrom
  | check r =>
    obtain ⟨ms, hms⟩ := f.check_after r
    rw [Call.run, hms]
    exact h
  | takeChanged | setCharacter => exact h

/-- Whatever is done with a race/sex filter, a tag never has the choice of nothing selected. -/
theorem TagSelects.run {f : RaceSexFilter ρ} (h : f.TagSelects) (calls : List (Call ρ)) :
    (f.run calls).TagSelects := by
  induction calls generalizing f with
  | nil => exact h
  | cons c rest ih => exact ih (h.call c)

end RaceSexFilter

/-! ## Both kinds -/

/-- Whatever is done with a yes/no filter, the user's legs are never both shut. Under a tag one leg
is open and the other one shut, and without a tag one is open at least, so of two records that
differ in the attribute one passes; and an edit is turned away exactly under a tag, and changes
nothing then. A filter that keeps flags and writes them in place answers the same and keeps to the
same state: the flags of the user's legs are never both down, those of a tag in force are never
alike, and an edit under a tag writes nothing.

Whatever is done with a race/sex filter, the selection, the one that the latest tag took the place
of, to which the end of that tag comes back, and the one at the last poll are those of options, and
under a tag it is not the choice of nothing that is selected. So there is a selected option, it
gives the summary, and a check asks the rules about its wearer: it never finds that the option is
out of range. -/
theorem Filter.open_inRange_run :
    (∀ (name yesLabel noLabel : String) (read : Option (ρ → Bool)) (inverted : Bool)
        (calls : List YesNoFilter.Call),
      let f := (YesNoFilter.new name yesLabel noLabel read inverted).run calls
      f.legs ≠ ⟨false, false⟩ ∧
        (f.tag.isSome → f.active.yes = !f.active.no) ∧
        (f.active.yes = true ∨ f.active.no = true) ∧
        (∀ get ∈ read, ∀ r r', get r ≠ get r' → f.check r = true ∨ f.check r' = true) ∧
        (∀ e : YesNoFilter.Edit, e.run f = none ↔ f.tag.isSome) ∧
        (f.tag.isSome → ∀ e : YesNoFilter.Edit, (YesNoFilter.Call.edit e).run f = f) ∧
        let made := YesNoFilter.new name yesLabel noLabel read inverted
        let (answers, flags) := (YesNoFilter.Flags.calls made.yesTag made.noTag calls).run .new
        answers = made.answers calls ∧ flags.Keeps f ∧
          (flags.showYes = true ∨ flags.showNo = true) ∧
          (flags.usingTag = true → flags.taggedYes = !flags.taggedNo) ∧
          flags.active = f.active ∧ flags.isSet = f.isSet ∧
          (flags.usingTag = true → ∀ e, (YesNoFilter.Flags.edit e).run flags = (false, flags))) ∧
      ∀ (races : List Race) (rules : EquipRules ρ) (who : Option Wearer)
          (calls : List (RaceSexFilter.Call ρ)),
        let made := RaceSexFilter.new races rules who
        let f := made.run calls
        f.selected < f.options.length ∧
          (∀ index ∈ f.beforeTag, index = made.displaced 0 calls) ∧
          made.displaced 0 calls < f.options.length ∧
          f.lastSeen < f.options.length ∧
          (f.fromTag = true → f.selected ≠ 0) ∧
          ∃ o, f.options[f.selected]? = some o ∧ f.option = o ∧ f.summary = o.label ∧
            ∀ r, f.admits r = rules.admits r o.wearer := by
  constructor
  · intro name yesLabel noLabel read inverted calls f
    obtain ⟨hread, hopen⟩ : f.read = read ∧ f.legs.Open := YesNoFilter.run_keeps (.inl rfl) calls
    have hactive : f.active.Open := YesNoFilter.open_active hopen
    obtain ⟨hanswers, hkeeps⟩ :=
      (YesNoFilter.Flags.keeps_new name yesLabel noLabel read inverted).run calls
    refine ⟨?_, YesNoFilter.active_of_tag, hactive, ?_, fun e => YesNoFilter.edit_eq_none_iff,
      YesNoFilter.edit_of_tag, hanswers, hkeeps, ?_, hkeeps.taggedYes_eq, hkeeps.active_eq,
      hkeeps.isSet_eq, YesNoFilter.Flags.run_edit_of_usingTag⟩
    · intro hshut
      rw [hshut] at hopen
      rcases hopen with hyes | hno
      · cases hyes
      · cases hno
    · intro get hget r r' hne
      exact YesNoFilter.check_or_check hactive (hread.trans hget) hne
    · have hlegs := hkeeps.legs ▸ hopen
      exact hlegs
  · intro races rules who calls made f
    have hmade : made.InRange := RaceSexFilter.inRange_new races rules who
    obtain ⟨hrange, hoptions, hrules⟩ := hmade.run calls
    have hdisplaced : made.displaced 0 calls < f.options.length := by
      rw [hoptions]
      exact hmade.displaced_lt (Nat.succ_pos _) calls
    have hreturn : ∀ index ∈ f.beforeTag, index = made.displaced 0 calls := by
      refine RaceSexFilter.displaced_of_beforeTag ?_ calls
      rintro index ⟨⟩
    have hfrom : f.TagSelects := (RaceSexFilter.tagSelects_new races rules who).run calls
    refine ⟨hrange.selected, hreturn, hdisplaced, hrange.lastSeen, hfrom, f.option,
      hrange.getElem?_selected, rfl, rfl, ?_⟩
    intro r
    rw [RaceSexFilter.admits, hrange.getElem?_selected, hrules]
    rfl

/-- An edit, two tags and an edit that is turned away: the second tag is in force, and what it took
the place of is what the edit before the tags made. -/
theorem Filter.open_inRange_run_retagged :
    let f := (YesNoFilter.new "Dyeable" "Dyeable" "Undyeable" (some id) false).run
      [.edit (.setYes false), .claim "dyeable", .claim "Not Dyeable", .edit .reset]
    let rules : EquipRules Bool := ⟨fun _ => .ok 0, fun _ _ => .ok true⟩
    let calls : List (RaceSexFilter.Call Bool) :=
      [.edit (.select 1), .claim "female hyur", .claim "lalafell", .edit (.select 2)]
    let made := RaceSexFilter.new
      [⟨1, "Hyur", "Hyur", true, true⟩, ⟨2, "Lalafell", "Lalafell", true, false⟩] rules none
    let g := made.run calls
    f.tag = some false ∧ f.active.yes = !f.active.no ∧
      (f.check true = true ∨ f.check false = true) ∧
      (YesNoFilter.Call.edit .reset).run f = f ∧
      made.displaced 0 calls = 1 ∧ g.selected = 3 ∧ g.fromTag = true ∧ g.selected ≠ 0 ∧
      ∃ o, g.options[g.selected]? = some o ∧ g.summary = o.label := by
  intro f rules calls made g
  obtain ⟨hyesNo, hraceSex⟩ := Filter.open_inRange_run (ρ := Bool)
  have htag : f.tag = some false := by decide +kernel
  have hfrom : g.fromTag = true := by decide +kernel
  obtain ⟨-, hone, -, hcheck, -, hedit, -⟩ := hyesNo "Dyeable" "Dyeable" "Undyeable" (some id) false
    [.edit (.setYes false), .claim "dyeable", .claim "Not Dyeable", .edit .reset]
  obtain ⟨-, -, -, -, hselected, o, ho, -, hsummary, -⟩ := hraceSex
    [⟨1, "Hyur", "Hyur", true, true⟩, ⟨2, "Lalafell", "Lalafell", true, false⟩] rules none calls
  have hsome : f.tag.isSome := htag ▸ rfl
  exact ⟨htag, hone hsome, hcheck id rfl true false (by decide), hedit hsome .reset,
    by decide +kernel, by decide +kernel, hfrom, hselected hfrom, o, ho, hsummary⟩

end ItemSieve
