import ItemSieve.Proofs.Filter.Restore
import ItemSieve.Proofs.RaceSex.Run

/-!
# What checks answer and what they log

A check of a race/sex filter remembers which failures it has logged. What it remembers has no
influence on its answers, so checks made before may be left out (`RaceSexFilter.unremembered_run`):
a check answers what the rules say of the selected race and sex, and lets the record through when
nothing is selected or a lookup fails (`RaceSexFilter.verdict`). A failure is logged if it is
neither remembered nor logged on the way, and remembered from then on; so over a whole run each
distinct failure is logged once, in the order in which they first occur (`RaceSexFilter.check_run`).
-/

namespace ItemSieve.RaceSexFilter

variable {ρ : Type}

/-! ## What a check comes to -/

/-- Whether the selected race and sex may equip the records of the category that the record is in.
Either lookup may fail. -/
def lookup (f : RaceSexFilter ρ) (r : ρ) : Except SieveError Bool :=
  match f.rules.category r with
  | .error e => .error e
  | .ok category => f.rules.allows category f.option.wearer

/-- The record passes: nothing is selected, a lookup fails, or the rules allow it. -/
def verdict (f : RaceSexFilter ρ) (r : ρ) : Bool :=
  if f.selected = 0 then true
  else
    match f.lookup r with
    | .error _ => true
    | .ok allowed => allowed

/-- The message of the lookup that fails, if something is selected. -/
def failure? (f : RaceSexFilter ρ) (r : ρ) : Option String :=
  if f.selected = 0 then none
  else
    match f.lookup r with
    | .error e => some e.message
    | .ok _ => none

/-- The selected option is one of the options. -/
theorem InRange.getElem?_selected {f : RaceSexFilter ρ} (h : f.InRange) :
    f.options[f.selected]? = some f.option := by
  rw [option, List.getElem?_eq_getElem h.selected, Option.getD_some]

/-- No lookup fails for want of the selected option. -/
theorem InRange.admits_eq {f : RaceSexFilter ρ} (h : f.InRange) (r : ρ) :
    f.admits r = f.lookup r := by
  rw [admits, h.getElem?_selected, lookup]
  simp only [EquipRules.admits]
  cases f.rules.category r <;> rfl

/-- As long as the indices are those of options, a check answers with the verdict. -/
theorem InRange.check_answer {f : RaceSexFilter ρ} (h : f.InRange) (r : ρ) :
    (f.check r).answer = f.verdict r := by
  rw [RaceSexFilter.check_answer, h.admits_eq, isSet, verdict]
  by_cases hselected : f.selected = 0
  · simp [hselected]
  · cases f.lookup r <;> simp [hselected, Except.toOption]

/-- A check logs its failure unless it is remembered. -/
theorem InRange.unlogged_eq {f : RaceSexFilter ρ} (h : f.InRange) (r : ρ) :
    f.unlogged r = (f.failure? r).toList.removeAll f.reported := by
  rw [unlogged, h.admits_eq, isSet, failure?]
  by_cases hselected : f.selected = 0
  · simp [hselected, List.removeAll]
  · cases f.lookup r with
    | ok allowed => simp [hselected, List.removeAll]
    | error e => by_cases hmem : e.message ∈ f.reported <;> simp [hselected, hmem, List.removeAll]

/-! ## Checks made before -/

/-- The filter without what it remembers for polls and for the log. -/
def unremembered (f : RaceSexFilter ρ) : RaceSexFilter ρ :=
  { f with lastSeen := 0, reported := [] }

/-- No call but a check looks at what is remembered. -/
theorem Call.run_unremembered {c : Call ρ} (hc : c.isCheck = false) (f : RaceSexFilter ρ) :
    (c.run f).unremembered = (c.run f.unremembered).unremembered := by
  cases c with
  | edit e =>
    have he : e.run f.unremembered = (e.run f).map (·.unremembered) := e.run_unmarked f 0 []
    simp only [run, he]
    cases e.run f <;> rfl
  | claim token =>
    have hmeant : f.unremembered.meant? token = f.meant? token := rfl
    simp only [run, RaceSexFilter.claim, hmeant]
    cases f.meant? token <;> rfl
  | clearTag => simp only [run, clearTag_eq, unremembered]
  | takeChanged | setCharacter => rfl
  | check r => cases hc

/-- The checks of a run change nothing but what is remembered. -/
theorem unremembered_run (f : RaceSexFilter ρ) (calls : List (Call ρ)) :
    (f.run calls).unremembered = (f.run (calls.filter (!·.isCheck))).unremembered := by
  refine run_filter unremembered ?_ ?_ rfl
  · intro c _ hkept f
    cases c with
    | check r =>
      obtain ⟨ms, hms⟩ := f.check_after r
      rw [Call.run, hms]
      rfl
    | edit | claim | clearTag | takeChanged | setCharacter => cases hkept
  · exact fun c _ hkept => Call.run_unremembered (by simpa using hkept)

/-! ## The log -/

/-- The failure of a call. Only a check has one. -/
def Call.failure? : Call ρ → RaceSexFilter ρ → Option String
  | check r, f => f.failure? r
  | _, _ => none

/-- The failures over a run, one for each check that fails. -/
def failures (f : RaceSexFilter ρ) : List (Call ρ) → List String
  | [] => []
  | c :: rest => (c.failure? f).toList ++ (c.run f).failures rest

/-- The lines logged over a run. -/
def logs (f : RaceSexFilter ρ) : List (Call ρ) → List LogLine
  | [] => []
  | c :: rest => c.log f ++ (c.run f).logs rest

/-- A call logs its failure unless it is remembered, and remembers it then. -/
theorem InRange.log_eq {f : RaceSexFilter ρ} (h : f.InRange) (c : Call ρ) :
    let new := (c.failure? f).toList.removeAll f.reported
    c.log f = new.map failureLine ∧ (c.run f).reported = f.reported ++ new := by
  intro new
  have hoptions : 0 < f.options.length := Nat.zero_lt_of_lt h.selected
  cases c with
  | check r =>
    have hnew : f.unlogged r = new := h.unlogged_eq r
    rw [Call.log, Call.run, check_eq, hnew]
    exact ⟨rfl, rfl⟩
  | edit | claim | clearTag | takeChanged | setCharacter =>
    have hnone : f.reported ++ new = f.reported := List.append_nil f.reported
    rw [hnone]
    exact ⟨rfl, (Call.leaves hoptions rfl).keeps.2⟩

/-- Those of two lists that are not seen yet, without repetitions: those of the first one, which are
seen from then on, and those of the second one. -/
theorem eraseDups_removeAll_append (seen : List String) (x : Option String) (ys : List String) :
    ((x.toList ++ ys).removeAll seen).eraseDups =
      x.toList.removeAll seen ++ (ys.removeAll (seen ++ x.toList.removeAll seen)).eraseDups := by
  have hone : (x.toList.removeAll seen).eraseDups = x.toList.removeAll seen := by
    cases x with
    | none => rfl
    | some m => by_cases hm : m ∈ seen <;> simp [List.removeAll, List.eraseDups_cons, hm]
  have hseen : (ys.removeAll seen).removeAll (x.toList.removeAll seen) =
      ys.removeAll (seen ++ x.toList.removeAll seen) := by
    generalize x.toList.removeAll seen = new
    simp only [List.removeAll, List.filter_filter]
    refine List.filter_congr fun y _ => ?_
    simp [Bool.and_comm]
  calc ((x.toList ++ ys).removeAll seen).eraseDups
      = (x.toList.removeAll seen ++ ys.removeAll seen).eraseDups := by
        rw [List.removeAll, List.filter_append]
        rfl
    _ = (x.toList.removeAll seen).eraseDups ++
          ((ys.removeAll seen).removeAll (x.toList.removeAll seen)).eraseDups :=
        List.eraseDups_append
    _ = _ := by rw [hone, hseen]

/-- Over a run the distinct failures are logged that are not remembered before it, each once, in the
order in which they first occur. -/
theorem InRange.logs_eq {f : RaceSexFilter ρ} (h : f.InRange) (calls : List (Call ρ)) :
    f.logs calls = ((f.failures calls).removeAll f.reported).eraseDups.map failureLine := by
  induction calls generalizing f with
  | nil => rfl
  | cons c rest ih =>
    obtain ⟨hlog, hreported⟩ := h.log_eq c
    rw [logs, hlog, ih (h.call c).1, hreported, ← List.map_append, failures,
      eraseDups_removeAll_append]

/-- Whatever is done with a race/sex filter, a check answers as if none had been made before: a
record passes if nothing is selected or if the lookup of its category or of the wearers of the
category fails, and otherwise as the rules have it for its category and the selected race and sex.
The lines logged on the way are the failures of the checks made while something was selected, each
distinct one once, in the order in which they first occur. -/
theorem check_run (races : List Race) (rules : EquipRules ρ) (who : Option Wearer)
    (calls : List (Call ρ)) :
    let made := new races rules who
    let f := made.run calls
    let g := made.run (calls.filter (!·.isCheck))
    g.rules = rules ∧ g.options = made.options ∧ g.options[g.selected]? = some g.option ∧
      (∀ r, (f.check r).answer = g.verdict r) ∧
      made.logs calls = (made.failures calls).eraseDups.map failureLine := by
  intro made f g
  have hmade : made.InRange := inRange_new races rules who
  obtain ⟨hrange, hoptions, hrules⟩ := hmade.run (calls.filter (!·.isCheck))
  refine ⟨hrules, hoptions, hrange.getElem?_selected, ?_, ?_⟩
  · intro r
    have hsame : f.unremembered = g.unremembered := unremembered_run made calls
    calc (f.check r).answer
        = f.verdict r := (hmade.run calls).1.check_answer r
      _ = f.unremembered.verdict r := rfl
      _ = g.unremembered.verdict r := by rw [hsame]
      _ = g.verdict r := rfl
  · rw [hmade.logs_eq]
    have hnone : (made.failures calls).removeAll [] = made.failures calls :=
      List.filter_eq_self.2 fun _ _ => rfl
    exact congrArg (fun ms : List String => ms.eraseDups.map failureLine) hnone

end ItemSieve.RaceSexFilter
