import ItemSieve.Proofs.Filter.Restore
import ItemSieve.Proofs.Sieve.Call
import ItemSieve.Proofs.Sieve.Evaluate
import ItemSieve.Proofs.Sieve.Route

/-!
# What a sieve comes back to when its tags end

A sieve that tags have come over is compared, place by place, with one that has only seen the edits
that last (`Sieve.Restores`). A call that is not such an edit can be left out of the second one, and
any other call is made on both (`Sieve.Restores.call`). The comparison is all that a query needs:
parse passes go the same way (`Sieve.Restores.apply`), because each pass begins with the end of the
tags.
-/

namespace ItemSieve.Sieve

variable {ρ : Type} {s t : Sieve ρ}

/-- The second sieve has no tags, and the first one comes back to it when its own tags end, apart
from what the two remember. -/
def Restores (s t : Sieve ρ) : Prop :=
  t.delimiter = s.delimiter ∧ List.Forall₂ Filter.Restores s.filters t.filters

/-! ## Calls -/

/-- The call is an edit that lasts beyond a tag. -/
def Call.lasts (s : Sieve ρ) : Call ρ → Bool
  | filter name c => (s.get? name).any c.lasts
  | _ => false

/-- A step that keeps what each filter comes back to can be left out of the second sieve. -/
theorem Restores.of_settled {s' : Sieve ρ} (h : s.Restores t) (hd : s'.delimiter = s.delimiter)
    (hs : List.Forall₂ (fun f f' => f'.settled = f.settled) s.filters s'.filters) :
    s'.Restores t := by
  refine ⟨h.1.trans hd.symm, ?_⟩
  obtain ⟨-, h⟩ := h
  generalize s.filters = fs, t.filters = gs, s'.filters = fs' at h hs
  induction h generalizing fs' with
  | nil =>
    cases hs
    exact .nil
  | cons hfg _ ih =>
    cases hs with
    | cons hff' hs => exact .cons (hfg.of_settled_eq hff') (ih _ hs)

/-- A lasting step of the filter of a given name, which has no tag, is made on both sieves. -/
theorem Restores.amend (h : s.Restores t) {name : String} {f : Filter ρ}
    (hf : s.get? name = some f) (hfrom : f.fromTag = false) {step : Filter ρ → Filter ρ}
    (hs : Filter.Lasting step) : (s.amend name step).Restores (t.amend name step) := by
  refine ⟨by rw [amend_delimiter, amend_delimiter, h.1], ?_⟩
  rw [amend_filters, amend_filters]
  refine forall₂_onFirst h.2 (fun f g hfg => hfg.sameTags.1) ?_
  intro f' g hf' _ hfg
  obtain rfl : f = f' := Option.some.inj (hf.symm.trans hf')
  exact hfg.step hfrom hs

/-- A step of the filter of a given name that keeps what it comes back to can be left out of the
second sieve. -/
theorem Restores.amend_left (h : s.Restores t) {name : String} {step : Filter ρ → Filter ρ}
    (hs : ∀ f, s.get? name = some f → (step f).settled = f.settled) :
    (s.amend name step).Restores t := by
  refine ⟨by rw [amend_delimiter, h.1], ?_⟩
  have hid : onFirst name (fun g => g) t.filters = t.filters := onFirst_eq_self fun _ _ => rfl
  rw [amend_filters, ← hid]
  refine forall₂_onFirst h.2 (fun f g hfg => hfg.sameTags.1) ?_
  intro f g hf _ hfg
  exact hfg.of_settled_eq (hs f hf)

/-- A parse pass keeps what each filter comes back to. -/
theorem settled_apply (s : Sieve ρ) (query : String) :
    List.Forall₂ (fun f f' => f'.settled = f.settled) s.filters (s.apply query).2.filters :=
  s.forall₂_apply (fun _ _ _ hfg hgh => hgh.trans hfg) Filter.settled_clearTag Filter.settled_claim
    query

/-- A step that reaches each filter and changes only what it remembers keeps what each filter comes
back to. -/
theorem settled_map {step : Filter ρ → Filter ρ} (h : ∀ f, (step f).settled = f.settled)
    (fs : List (Filter ρ)) :
    List.Forall₂ (fun f f' => f'.settled = f.settled) fs (fs.map step) :=
  List.forall₂_map_right_iff.2 (List.forall₂_same.2 fun f _ => h f)

/-- Failures that are logged keep what the filters come back to. -/
theorem Reported.settled (h : s.Reported t) :
    List.Forall₂ (fun f f' => f'.settled = f.settled) s.filters t.filters :=
  h.2.imp fun _ _ hfg => Filter.settled_congr hfg.unmarked_eq

/-- A call on the whole of the sieve keeps what each filter comes back to. -/
theorem settled_run {c : Call ρ} (hc : ∀ name d, c ≠ .filter name d) (s : Sieve ρ) :
    (c.run s).delimiter = s.delimiter ∧
      List.Forall₂ (fun f f' => f'.settled = f.settled) s.filters (c.run s).filters := by
  cases c with
  | apply query => exact ⟨rfl, s.settled_apply query⟩
  | clearTags => exact ⟨rfl, settled_map Filter.settled_clearTag s.filters⟩
  | takeChanged =>
    refine ⟨rfl, ?_⟩
    rw [Call.run, takeChanged_filters]
    exact settled_map (fun f => Filter.settled_congr f.unmarked_takeChanged) s.filters
  | admits finds q r => exact ⟨rfl, (s.admits_after finds q r).settled⟩
  | evaluate finds q records =>
    have hr := s.evaluate_after finds q records
    exact ⟨hr.1, hr.settled⟩
  | filter name d => exact absurd rfl (hc name d)

/-- A call that is no edit that lasts can be left out of the second sieve, and any other call is
made on both. -/
theorem Restores.call (h : s.Restores t) (c : Call ρ) :
    (c.run s).Restores (if c.lasts s then c.run t else t) := by
  have hwhole {c : Call ρ} (hc : ∀ name d, c ≠ .filter name d) : (c.run s).Restores t :=
    h.of_settled (settled_run hc s).1 (settled_run hc s).2
  cases c with
  | apply | clearTags | takeChanged | admits | evaluate => exact hwhole (by simp)
  | filter name c =>
    by_cases hl : (Call.filter name c).lasts s = true
    · rw [if_pos hl]
      obtain ⟨f, hf, hc⟩ := (Option.any_eq_true _ _).1 hl
      exact h.amend hf (Filter.fromTag_of_lasts hc) (Filter.lasting_of_lasts hc)
    · rw [if_neg hl]
      refine h.amend_left ?_
      intro f hf
      rw [Call.lasts, hf, Option.any_some, Bool.not_eq_true] at hl
      exact Filter.settled_run hl

/-! ## Queries -/

/-- The filters of the two sieves answer to the same tokens. -/
theorem Restores.sameTags (h : s.Restores t) : List.Forall₂ Filter.SameTags s.filters t.filters :=
  h.2.imp fun _ _ hfg => hfg.sameTags

/-- The filters without what they remember for polls and for the log. -/
def unmarked (s : Sieve ρ) : List (Filter ρ) :=
  s.filters.map (·.unmarked)

/-- What is remembered has no influence on the records that pass. -/
theorem passes_unmarked (s : Sieve ρ) (r : ρ) : passes s.unmarked r = passes s.filters r := by
  simp [passes, unmarked, List.all_map, Function.comp_def]

/-- A poll changes only what the filters remember. -/
theorem unmarked_takeChanged (s : Sieve ρ) : s.takeChanged.2.unmarked = s.unmarked := by
  simp [unmarked, takeChanged_filters, Function.comp_def]

/-- Failures that are logged change only what the filters remember. -/
theorem Reported.unmarked_eq (h : s.Reported t) : t.unmarked = s.unmarked :=
  map_eq_of_forall₂ (h.2.imp fun _ _ hfg => hfg.unmarked_eq)

/-- Whether a filter is set does not hang on what it remembers. -/
theorem active_unmarked (s : Sieve ρ) :
    s.active.map (·.unmarked) = s.unmarked.filter (·.isSet) := by
  simp [active, unmarked, List.filter_map, Function.comp_def]

/-- Tags one after another do not look at what is remembered. -/
theorem claims_unmarked (f : Filter ρ) (tokens : List String) :
    (claims f tokens).unmarked = claims f.unmarked tokens := by
  induction tokens generalizing f with
  | nil => rfl
  | cons token rest ih => exact (ih _).trans (congrArg (claims · rest) (f.unmarked_claim token))

/-- A parse pass makes the same of a query in both sieves, and what the filters remember apart it
leaves the same filters. -/
theorem Restores.apply (h : s.Restores t) (query : String) :
    (t.apply query).1 = (s.apply query).1 ∧
      (t.apply query).2.unmarked = (s.apply query).2.unmarked := by
  obtain ⟨hparsed, hr⟩ := routes_congr h.1 h.sameTags query
  refine ⟨hparsed, map_eq_of_forall₂ ?_⟩
  rw [apply_filters, apply_filters, hr]
  refine forall₂_mapIdx h.2 ?_
  intro i f g hfg
  rw [Filter.clearTag_of_fromTag hfg.2, claims_unmarked, claims_unmarked, ← hfg.1, Filter.settled]

/-- When its tags end, the first sieve has the settings of the second one. -/
theorem Restores.settings_eq (h : s.Restores t) :
    s.clearTags.filters.map (·.setting) = t.filters.map (·.setting) := by
  obtain ⟨-, h⟩ := h
  rw [clearTags, List.map_map]
  generalize s.filters = fs, t.filters = gs at h
  induction h with
  | nil => rfl
  | cons hfg _ ih => rw [List.map_cons, List.map_cons, ih, Function.comp, hfg.setting_eq]

/-- To end all tags twice is to end them once. -/
theorem clearTags_clearTags (s : Sieve ρ) : s.clearTags.clearTags = s.clearTags := by
  simp [clearTags, Function.comp_def, Filter.clearTag_clearTag]

end ItemSieve.Sieve
