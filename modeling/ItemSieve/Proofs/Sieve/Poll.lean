import ItemSieve.Proofs.Filter.Change
import ItemSieve.Proofs.Sieve.Call
import ItemSieve.Proofs.Sieve.Evaluate
import ItemSieve.Proofs.Sieve.Route

/-!
# What polls find over a run

Between two polls any events may happen to a sieve: queries, the offer and the end of tags, edits
that go through or are refused, checks, and the user may come to play another character. The second
poll finds a change exactly if an edit went through on a yes/no filter, an edit altered the
selection of a patch filter, or a race/sex filter has another selection than at the first poll; a
poll right behind a poll finds nothing; and when nothing is found, records are answered as at the
first poll (`Sieve.takeChanged_run`). The step is `Sieve.since_event`, the run `Sieve.since_events`.
-/

namespace ItemSieve.Sieve

variable {ρ : Type}

/-! ## What happens between two polls -/

/-- The call is a poll, of all filters or of one. -/
def Call.isPoll : Call ρ → Bool
  | takeChanged => true
  | filter _ c => c.isPoll
  | _ => false

/-- The event is a poll. -/
def Event.isPoll : Event ρ → Bool
  | call c => c.isPoll
  | setCharacter _ _ => false

/-- The event is a call on the filter of some name, and `P` holds of the two. -/
def Hits (P : Filter.Call ρ → Filter ρ → Prop) (s : Sieve ρ) : Event ρ → Prop
  | .call (.filter name c) => ∃ f, s.get? name = some f ∧ P c f
  | _ => False

/-- In the course of the events there is a call on the filter of some name, and `P` holds of the two
at that moment. -/
def Occurs (P : Filter.Call ρ → Filter ρ → Prop) (s : Sieve ρ) (events : List (Event ρ)) : Prop :=
  ∃ before e after, events = before ++ e :: after ∧ (s.run before).Hits P e

variable {P Q : Filter.Call ρ → Filter ρ → Prop} {s : Sieve ρ}

/-- An event hits one of two properties exactly if it hits the one or the other. -/
theorem hits_or {e : Event ρ} :
    s.Hits (fun c f => P c f ∨ Q c f) e ↔ s.Hits P e ∨ s.Hits Q e := by
  unfold Hits
  split
  · simp only [and_or_left, exists_or]
  · simp

theorem not_occurs_nil : ¬ s.Occurs P [] := by
  rintro ⟨before, e, after, h, -⟩
  cases before <;> cases h

/-- What occurs in some events occurs with the first one or in the course of the rest. -/
theorem occurs_cons {e : Event ρ} {events : List (Event ρ)} :
    s.Occurs P (e :: events) ↔ s.Hits P e ∨ (e.run s).Occurs P events := by
  constructor
  · rintro ⟨before, e', after, h, hit⟩
    cases before with
    | nil =>
      cases h
      exact .inl hit
    | cons e'' before =>
      cases h
      exact .inr ⟨before, e', after, rfl, hit⟩
  · rintro (hit | ⟨before, e', after, rfl, hit⟩)
    · exact ⟨[], e, events, rfl, hit⟩
    · exact ⟨e :: before, e', after, rfl, hit⟩

/-- One of two properties occurs exactly if the one or the other does. -/
theorem occurs_or {events : List (Event ρ)} :
    s.Occurs (fun c f => P c f ∨ Q c f) events ↔ s.Occurs P events ∨ s.Occurs Q events := by
  simp only [Occurs, hits_or, and_or_left, exists_or]

/-! ## One event -/

/-- After a step of the first filter of the given name some filter has noted an edit exactly if one
had before or if that step is noted. -/
theorem any_flagged_onFirst {name : String} {step : Filter ρ → Filter ρ} {Q : Filter ρ → Prop}
    (h : ∀ f, (step f).flagged = true ↔ f.flagged = true ∨ Q f) (fs : List (Filter ρ)) :
    (onFirst name step fs).any (·.flagged) = true ↔
      fs.any (·.flagged) = true ∨ ∃ f, fs.find? (answersTo name) = some f ∧ Q f := by
  induction fs with
  | nil => simp [onFirst]
  | cons f rest ih =>
    rw [onFirst, List.find?_cons]
    cases hf : answersTo name f with
    | true =>
      simp only [↓reduceIte, List.any_cons, Bool.or_eq_true, h f, Option.some.injEq,
        exists_eq_left']
      exact or_right_comm
    | false =>
      simp only [Bool.false_eq_true, ↓reduceIte, List.any_cons, Bool.or_eq_true] at ih ⊢
      rw [ih, or_assoc]

/-- The second sieve may have come from the first one without a poll and without the note of an
edit. -/
def Unnoted (s t : Sieve ρ) : Prop :=
  List.Forall₂ Filter.Unnoted s.filters t.filters

/-- Where nothing was noted, some filter is flagged exactly if one was before. -/
theorem Unnoted.any_flagged {s t : Sieve ρ} (h : s.Unnoted t) :
    t.filters.any (·.flagged) = s.filters.any (·.flagged) := by
  unfold Unnoted at h
  generalize s.filters = fs, t.filters = gs at h
  induction h with
  | nil => rfl
  | cons hfg _ ih => rw [List.any_cons, List.any_cons, hfg.2, ih]

/-- Where nothing was noted, the flags stand exactly if they stood before. -/
theorem Unnoted.since_iff {s t : Sieve ρ} {p : Prop} (h : s.Unnoted t) (hp : ¬ p) :
    List.Forall₂ Filter.Since s.filters t.filters ∧
      (t.filters.any (·.flagged) = true ↔ s.filters.any (·.flagged) = true ∨ p) :=
  ⟨h.imp fun _ _ hfg => hfg.1, by rw [h.any_flagged, or_iff_left hp]⟩

/-- A parse pass notes no edit. -/
theorem unnoted_apply (s : Sieve ρ) (query : String) : s.Unnoted (s.apply query).2 :=
  s.forall₂_apply (fun _ _ _ hfg hgh => hfg.trans hgh) Filter.unnoted_clearTag Filter.unnoted_claim
    query

/-- A check notes no edit. -/
theorem Reported.unnoted {s t : Sieve ρ} (h : s.Reported t) : s.Unnoted t :=
  h.2.imp fun _ _ hfg => hfg.unnoted

/-- Without a poll every filter stays on its way to the next one, and only the edits that go through
on a yes/no filter and those that alter the selection of a patch filter are noted. -/
theorem since_event {e : Event ρ} (he : e.isPoll = false) (s : Sieve ρ) :
    List.Forall₂ Filter.Since s.filters (e.run s).filters ∧
      ((e.run s).filters.any (·.flagged) = true ↔
        s.filters.any (·.flagged) = true ∨ s.Hits Filter.Call.Noted e) := by
  cases e with
  | setCharacter i who =>
    have h : s.Unnoted ((Event.setCharacter i who).run s) :=
      forall₂_modify Filter.Unnoted.refl (·.unnoted_setCharacter who) s.filters i
    exact h.since_iff id
  | call c =>
    cases c with
    | apply query => exact (s.unnoted_apply query).since_iff id
    | clearTags =>
      have h : s.Unnoted s.clearTags :=
        List.forall₂_map_right_iff.2 (List.forall₂_same.2 fun f _ => f.unnoted_clearTag)
      exact h.since_iff id
    | takeChanged => cases he
    | admits finds q r => exact (s.admits_after finds q r).unnoted.since_iff id
    | evaluate finds q records => exact (s.evaluate_after finds q records).unnoted.since_iff id
    | filter name c =>
      have hc (f : Filter ρ) := Filter.since_run (c := c) he f
      have hrun : ((Event.call (.filter name c)).run s).filters = onFirst name c.run s.filters :=
        s.amend_filters name c.run
      rw [hrun]
      exact ⟨forall₂_onFirst_self .refl (fun f => (hc f).1) name s.filters,
        any_flagged_onFirst (fun f => (hc f).2) s.filters⟩

/-! ## The events between two polls -/

/-- Over a run without a poll every filter stays on its way to the next one, and what is noted is
that some event was. -/
theorem since_events {events : List (Event ρ)} (h : ∀ e ∈ events, e.isPoll = false) (s : Sieve ρ) :
    List.Forall₂ Filter.Since s.filters (s.run events).filters ∧
      ((s.run events).filters.any (·.flagged) = true ↔
        s.filters.any (·.flagged) = true ∨ s.Occurs Filter.Call.Noted events) := by
  induction events generalizing s with
  | nil => exact ⟨List.forall₂_same.2 fun f _ => .refl f, by simp [run, not_occurs_nil]⟩
  | cons e rest ih =>
    obtain ⟨hsince, hflag⟩ := since_event (h e List.mem_cons_self) s
    obtain ⟨ihsince, ihflag⟩ := ih (fun e' he' => h e' (List.mem_cons_of_mem e he')) (e.run s)
    refine ⟨forall₂_trans (fun _ _ _ hfg hgh => hfg.trans hgh) hsince ihsince, ?_⟩
    rw [occurs_cons, ← or_assoc, ← hflag]
    exact ihflag

/-! ## What a poll finds -/

/-- A poll finds nothing exactly if no poll of one of the filters does. -/
theorem takeChanged_fst_eq_false {s : Sieve ρ} :
    s.takeChanged.1 = false ↔ ∀ f ∈ s.filters, f.takeChanged.1 = false := by
  have h : s.takeChanged.1 = s.filters.any fun f => f.takeChanged.1 := List.any_map
  rw [h, List.any_eq_false]
  simp only [Bool.not_eq_true]

/-- A poll finds the edits that are noted and the selections that have moved. -/
theorem takeChanged_fst (s : Sieve ρ) :
    s.takeChanged.1 = (s.filters.any (·.flagged) || s.filters.any (·.moved)) := by
  have h : s.takeChanged.1 = s.filters.any fun f => f.takeChanged.1 := List.any_map
  rw [h, Bool.eq_iff_iff]
  simp only [Filter.takeChanged_fst, Bool.or_eq_true, List.any_eq_true, and_or_left, exists_or]

/-- A poll right behind a poll finds nothing. -/
theorem takeChanged_takeChanged (s : Sieve ρ) : s.takeChanged.2.takeChanged.1 = false := by
  rw [takeChanged_fst_eq_false, takeChanged_filters, List.forall_mem_map]
  intro f _
  exact f.takeChanged_takeChanged

/-- All filters have just been made. -/
def IsNew (s : Sieve ρ) : Prop :=
  ∀ f ∈ s.filters, f.IsNew

/-- A poll of a sieve that has just been made finds nothing. -/
theorem IsNew.takeChanged_fst (h : s.IsNew) : s.takeChanged.1 = false := by
  rw [takeChanged_fst_eq_false]
  intro f hf
  exact (h f hf).takeChanged_fst

/-- Some race/sex filter has another selection in the second sieve. -/
def Moved (s t : Sieve ρ) : Prop :=
  ∃ (i : Nat) (f g : RaceSexFilter ρ), s.filters[i]? = some (.raceSex f) ∧
    t.filters[i]? = some (.raceSex g) ∧ g.selected ≠ f.selected

/-- If a poll had found nothing, some selection has moved since exactly if it is another one now. -/
theorem any_moved_iff {t : Sieve ρ} (hs : s.takeChanged.1 = false)
    (h : List.Forall₂ Filter.Since s.filters t.filters) :
    t.filters.any (·.moved) = true ↔ s.Moved t := by
  rw [takeChanged_fst_eq_false] at hs
  rw [List.any_eq_true]
  constructor
  · rintro ⟨g, hg, hmoved⟩
    obtain ⟨i, hi⟩ := List.mem_iff_getElem?.1 hg
    have hrel := forall₂_getElem? h i
    rw [hi] at hrel
    generalize hfi : s.filters[i]? = o at hrel
    cases hrel with
    | some hfg =>
      have hf := hs _ (List.mem_of_getElem? hfi)
      obtain ⟨a, b, rfl, rfl, hne⟩ := (hfg.moved_iff hf).1 hmoved
      exact ⟨i, a, b, hfi, hi, hne⟩
  · rintro ⟨i, a, b, hfi, hgi, hne⟩
    have hrel := forall₂_getElem? h i
    rw [hfi, hgi] at hrel
    cases hrel with
    | some hfg =>
      have hf := hs _ (List.mem_of_getElem? hfi)
      exact ⟨_, List.mem_of_getElem? hgi, (hfg.moved_iff hf).2 ⟨a, b, rfl, rfl, hne⟩⟩

/-- What a poll finds in the end if a poll would have found nothing in the beginning. -/
theorem takeChanged_iff {events : List (Event ρ)} (hs : s.takeChanged.1 = false)
    (h : ∀ e ∈ events, e.isPoll = false) :
    (s.run events).takeChanged.1 = true ↔
      s.Occurs Filter.Call.Noted events ∨ s.Moved (s.run events) := by
  obtain ⟨hsince, hflag⟩ := since_events h s
  have hs' : s.filters.any (·.flagged) = false := by
    rw [takeChanged_fst, Bool.or_eq_false_iff] at hs
    exact hs.1
  rw [takeChanged_fst, Bool.or_eq_true, hflag, any_moved_iff hs hsince, hs']
  simp

/-- If a poll finds nothing in the beginning and in the end, records are let through in the end as
in the beginning, provided that no tag of a yes/no filter is in force at either time. -/
theorem passes_run {events : List (Event ρ)} (hs : s.takeChanged.1 = false)
    (h : ∀ e ∈ events, e.isPoll = false) (ht : (s.run events).takeChanged.1 = false)
    (hsTag : ∀ f ∈ s.filters, f.yesNoTagged = false)
    (htTag : ∀ f ∈ (s.run events).filters, f.yesNoTagged = false) (r : ρ) :
    passes (s.run events).filters r = passes s.filters r := by
  rw [takeChanged_fst_eq_false] at hs ht
  obtain ⟨hsince, -⟩ := since_events h s
  refine passes_congr (forall₂_imp_mem hsince ?_)
  intro f hf g hg hfg
  exact hfg.check_answer (hs f hf) (ht g hg) (hsTag f hf) (htTag g hg) r

/-- A poll has no influence on what is let through. -/
theorem passes_takeChanged (s : Sieve ρ) (r : ρ) :
    passes s.takeChanged.2.filters r = passes s.filters r := by
  rw [takeChanged_filters]
  refine passes_congr (List.forall₂_map_right_iff.2 (List.forall₂_same.2 fun f _ => ?_))
  rw [← Filter.check_unmarked_answer, Filter.unmarked_takeChanged, Filter.check_unmarked_answer]

/-- Let there be no poll among the events since the last one, or since the filters were made. Then a
poll finds a change exactly if an edit went through on a yes/no filter, or an edit altered the
selection of a patch filter, or some race/sex filter has another selection than back then. Another
poll right behind it finds nothing. And if it finds no change, and no tag of a yes/no filter is in
force back then or now, each query admits the same records as back then. -/
theorem takeChanged_run (s : Sieve ρ) (events : List (Event ρ))
    (hs : s.IsNew ∨ ∃ s₀ : Sieve ρ, s = s₀.takeChanged.2)
    (h : ∀ e ∈ events, e.isPoll = false) :
    let t := s.run events
    (t.takeChanged.1 = true ↔
        s.Occurs Filter.Call.Accepted events ∨ s.Occurs Filter.Call.Alters events ∨ s.Moved t) ∧
      t.takeChanged.2.takeChanged.1 = false ∧
      (t.takeChanged.1 = false → (∀ f ∈ s.filters, f.yesNoTagged = false) →
        (∀ f ∈ t.filters, f.yesNoTagged = false) → ∀ finds q r,
          (t.takeChanged.2.admits finds q r).answer = (s.admits finds q r).answer) := by
  intro t
  have hs : s.takeChanged.1 = false := by
    rcases hs with hnew | ⟨s₀, rfl⟩
    · exact hnew.takeChanged_fst
    · exact s₀.takeChanged_takeChanged
  have hiff : t.takeChanged.1 = true ↔
      s.Occurs Filter.Call.Noted events ∨ s.Moved t := takeChanged_iff hs h
  refine ⟨?_, t.takeChanged_takeChanged, ?_⟩
  · rw [hiff, ← or_assoc, ← occurs_or]
    rfl
  · intro ht hsTag htTag finds q r
    have hpasses : passes t.filters r = passes s.filters r := passes_run hs h ht hsTag htTag r
    rw [admits_answer, admits_answer, passes_takeChanged, hpasses]

/-- An edit that is refused because of a tag, and the tag itself once it is cleared, leave a poll
nothing to find and the records as they were. -/
theorem takeChanged_run_refused :
    let s : Sieve Bool := ⟨[.yesNo (.new "Unique" "Unique" "Not Unique" (some id) false),
      .patch (.new Patch.table fun _ => "7.0")], .whitespace⟩
    let events : List (Event Bool) := [.call (.apply "notunique ring"),
      .call (.filter "unique" (.edit (.yesNo (.setYes false)))), .call .clearTags]
    s.IsNew ∧ (∀ e ∈ events, e.isPoll = false) ∧ (s.run events).takeChanged.1 = false ∧
      ∀ finds q r,
        ((s.run events).takeChanged.2.admits finds q r).answer = (s.admits finds q r).answer := by
  intro s events
  have hnew : s.IsNew := by
    intro f hf
    rcases List.mem_pair.1 hf with rfl | rfl
    · exact ⟨_, _, _, _, _, rfl⟩
    · exact ⟨_, _, rfl⟩
  have hpoll : ∀ e ∈ events, e.isPoll = false := by decide
  have hend : (s.run events).takeChanged.1 = false := by decide +kernel
  have hrun := takeChanged_run s events (.inl hnew) hpoll
  exact ⟨hnew, hpoll, hend, hrun.2.2 hend (by decide) (by decide +kernel)⟩

end ItemSieve.Sieve
