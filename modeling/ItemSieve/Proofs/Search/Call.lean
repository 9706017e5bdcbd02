import ItemSieve.Proofs.Sieve.Call
import ItemSieve.Search

/-!
# Calls on an item search

What can be done to an item search, as data (`ItemSearch.Call`): queries, the requests of a user,
and every call on its sieve. A request leaves the search as if the filter of the name in question
had taken the step asked for, or had stayed as it is when it refuses the step
(`ItemSearch.after_request`).
-/

namespace ItemSieve.ItemSearch

/-- The search after a request. If the request is refused everything stays as it is. -/
def after (s : ItemSearch) (r : Except SieveError ItemSearch) : ItemSearch :=
  r.toOption.getD s

/-- What can be done to an item search. -/
inductive Call where
  | search (query : String)
  | apply (query : String)
  | matching (q : ParsedQuery)
  | only (name : String)
  | exclude (name : String)
  | selectPatch (text : String)
  | selectRaceSex (label : String)
  /-- A call on the sieve or on one of its filters. -/
  | sieve (c : Sieve.Call Item)

/-- The search after a call. -/
def Call.run (s : ItemSearch) : Call → ItemSearch
  | search query => (s.search query).after
  | apply query => (s.apply query).2
  | matching q => (s.matching q).after
  | only name => s.after (s.only name)
  | exclude name => s.after (s.exclude name)
  | selectPatch text => s.after (s.selectPatch text)
  | selectRaceSex label => s.after (s.selectRaceSex label)
  | sieve c => { s with sieve := c.run s.sieve }

/-- The search after some calls. -/
def run (s : ItemSearch) (calls : List Call) : ItemSearch :=
  calls.foldl Call.run s

/-! ## Requests -/

/-- The filter after a step that it may refuse. -/
def stepOr (step : Filter Item → Except SieveError (Filter Item)) (f : Filter Item) : Filter Item :=
  (step f).toOption.getD f

/-- A request goes through exactly if the filter of the given name, which there has to be, takes the
step. -/
theorem isSome_request (s : ItemSearch) (name : String)
    (step : Filter Item → Except SieveError (Filter Item)) :
    (s.request name step).toOption.isSome =
      (s.sieve.get? name).any fun f => (step f).toOption.isSome := by
  unfold request filter
  cases s.sieve.get? name with
  | none => rfl
  | some f =>
    simp only [bind, Except.bind, Option.any_some]
    cases step f <;> rfl

/-- After a request the filter of the given name has taken the step, unless it refuses it. -/
theorem after_request (s : ItemSearch) (name : String)
    (step : Filter Item → Except SieveError (Filter Item)) :
    s.after (s.request name step) = { s with sieve := s.sieve.amend name (stepOr step) } := by
  unfold after request filter
  cases hf : s.sieve.get? name with
  | none =>
    rw [Sieve.amend_eq_self fun f h => by rw [hf] at h; cases h]
    rfl
  | some f =>
    simp only [bind, Except.bind]
    cases hg : step f with
    | error e =>
      have hs : stepOr step f = f := by rw [stepOr, hg]; rfl
      rw [Sieve.amend_eq_self fun f' h => by rw [hf] at h; cases h; exact hs]
      rfl
    | ok g =>
      have hs : stepOr step f = g := by rw [stepOr, hg]; rfl
      rw [Sieve.amend, hf]
      simp only [hs]
      rfl

end ItemSieve.ItemSearch
