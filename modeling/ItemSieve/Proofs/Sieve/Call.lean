import ItemSieve.Proofs.Filter.Call
import ItemSieve.Proofs.Pointwise
import ItemSieve.Sieve

/-!
# Calls on a sieve

What can be done to a sieve, as data: the calls on the whole of it and those on the filter of a
given name (`Sieve.Call`), and what happens to it besides, when the user comes to play another
character (`Sieve.Event`). A call on the filter of a given name goes to the first one of that name
and leaves the others alone (`Sieve.amend_filters`), so two sieves that compare place by place still
do after it (`Sieve.forall₂_onFirst`).
-/

namespace ItemSieve.Sieve

variable {ρ : Type}

/-- The sieve after a step of the first filter of the given name. Without one nothing happens. -/
def amend (s : Sieve ρ) (name : String) (step : Filter ρ → Filter ρ) : Sieve ρ :=
  match s.get? name with
  | none => s
  | some f => s.put name (step f)

/-- What can be done to a sieve. -/
inductive Call (ρ : Type) where
  | apply (query : String)
  | clearTags
  | takeChanged
  | admits (finds : ρ → String → Bool) (q : ParsedQuery) (r : ρ)
  | evaluate (finds : ρ → String → Bool) (q : ParsedQuery) (records : List ρ)
  /-- A call on the filter of a given name. -/
  | filter (name : String) (c : Filter.Call ρ)

/-- The sieve after a call. -/
def Call.run : Call ρ → Sieve ρ → Sieve ρ
  | apply query, s => (s.apply query).2
  | clearTags, s => s.clearTags
  | takeChanged, s => s.takeChanged.2
  | admits finds q r, s => (s.admits finds q r).after
  | evaluate finds q records, s => (s.evaluate finds q records).after
  | filter name c, s => s.amend name c.run

/-- What can happen to a sieve: a call, or the user plays another character, which the filter at
some place comes to know. -/
inductive Event (ρ : Type) where
  | call (c : Call ρ)
  | setCharacter (i : Nat) (who : Option Wearer)

/-- The sieve after an event. -/
def Event.run : Event ρ → Sieve ρ → Sieve ρ
  | call c, s => c.run s
  | setCharacter i who, s => { s with filters := s.filters.modify i (·.setCharacter who) }

/-- The sieve after some events. -/
def run (s : Sieve ρ) (events : List (Event ρ)) : Sieve ρ :=
  events.foldl (fun s e => e.run s) s

/-- A poll reaches every filter. -/
theorem takeChanged_filters (s : Sieve ρ) :
    s.takeChanged.2.filters = s.filters.map fun f => f.takeChanged.2 :=
  List.map_map

/-! ## A call on the filter of a given name -/

/-- A step that keeps the names has no influence on which filters answer to a name. -/
theorem answersTo_comp {step : Filter ρ → Filter ρ} (h : ∀ f, (step f).name = f.name)
    (name : String) : answersTo name ∘ step = answersTo name := by
  funext f
  rw [Function.comp, answersTo, answersTo, h f]

/-- The filters after a step of the first one of the given name. -/
def onFirst (name : String) (step : Filter ρ → Filter ρ) : List (Filter ρ) → List (Filter ρ)
  | [] => []
  | f :: rest => if answersTo name f then step f :: rest else f :: onFirst name step rest

/-- A step of the filter of a name is made on the first one that answers to it. -/
theorem amend_filters (s : Sieve ρ) (name : String) (step : Filter ρ → Filter ρ) :
    (s.amend name step).filters = onFirst name step s.filters := by
  have h (fs : List (Filter ρ)) :
      (match fs.find? (answersTo name) with
        | none => fs
        | some f => put.replace name (step f) fs) = onFirst name step fs := by
    induction fs with
    | nil => rfl
    | cons f rest ih =>
      rw [List.find?_cons, onFirst]
      cases hf : answersTo name f with
      | true => simp [put.replace, hf]
      | false =>
        rw [← ih]
        cases hr : rest.find? (answersTo name) <;> simp [put.replace, hf]
  rw [← h, amend, get?]
  split <;> rfl

@[simp] theorem amend_delimiter (s : Sieve ρ) (name : String) (step : Filter ρ → Filter ρ) :
    (s.amend name step).delimiter = s.delimiter := by
  unfold amend
  split <;> rfl

/-- A step of the first filter of the given name is made in its place, and nothing happens in the
others. -/
theorem getElem?_amend (s : Sieve ρ) (name : String) (step : Filter ρ → Filter ρ) (i : Nat) :
    (s.amend name step).filters[i]? = s.filters[i]?.map fun f =>
      if s.index? name = some i then step f else f := by
  rw [amend_filters, index?]
  induction s.filters generalizing i with
  | nil => rfl
  | cons f rest ih =>
    rw [onFirst, List.findIdx?_cons]
    cases hf : answersTo name f with
    | true => cases i <;> simp
    | false =>
      cases i with
      | zero => simp
      | succ i => simp [ih]

/-- The filters compare with themselves after a step of the first one of the given name, if the
comparison is reflexive and holds of that step. -/
theorem forall₂_onFirst_self {R : Filter ρ → Filter ρ → Prop} (hR : ∀ f, R f f)
    {step : Filter ρ → Filter ρ} (hstep : ∀ f, R f (step f)) (name : String)
    (fs : List (Filter ρ)) : List.Forall₂ R fs (onFirst name step fs) := by
  induction fs with
  | nil => exact .nil
  | cons f rest ih =>
    rw [onFirst]
    split
    · exact .cons (hstep f) (List.forall₂_same.2 fun g _ => hR g)
    · exact .cons (hR f) ih

/-- A step that leaves the first filter of the given name alone changes nothing. -/
theorem onFirst_eq_self {name : String} {step : Filter ρ → Filter ρ} {fs : List (Filter ρ)}
    (h : ∀ f, fs.find? (answersTo name) = some f → step f = f) : onFirst name step fs = fs := by
  induction fs with
  | nil => rfl
  | cons f rest ih =>
    rw [onFirst]
    cases hf : answersTo name f with
    | true => rw [if_pos rfl, h f (List.find?_cons_of_pos hf)]
    | false =>
      rw [if_neg Bool.false_ne_true, ih fun g hg => h g ?_]
      rwa [List.find?_cons_of_neg (by simp [hf])]

/-- A step that leaves the first filter of the given name alone leaves the sieve alone. -/
theorem amend_eq_self {s : Sieve ρ} {name : String} {step : Filter ρ → Filter ρ}
    (h : ∀ f, s.get? name = some f → step f = f) : s.amend name step = s := by
  have hf : (s.amend name step).filters = s.filters :=
    (s.amend_filters name step).trans (onFirst_eq_self h)
  calc s.amend name step
      = ⟨(s.amend name step).filters, (s.amend name step).delimiter⟩ := rfl
    _ = s := by rw [hf, amend_delimiter]

/-- The first filter of the given name is still found by it after a step that keeps the name. -/
theorem get?_amend {step : Filter ρ → Filter ρ} (hstep : ∀ f, (step f).name = f.name) (s : Sieve ρ)
    (name : String) : (s.amend name step).get? name = (s.get? name).map step := by
  rw [get?, get?, amend_filters]
  induction s.filters with
  | nil => rfl
  | cons f rest ih =>
    have ha : answersTo name (step f) = answersTo name f := by
      rw [answersTo, answersTo, hstep]
    rw [onFirst, List.find?_cons]
    cases hf : answersTo name f with
    | true => rw [if_pos rfl, List.find?_cons_of_pos (ha.trans hf), Option.map_some]
    | false => rw [if_neg Bool.false_ne_true, List.find?_cons_of_neg (by simp [hf]), ih]

/-- Sieves that compare place by place still do after a call on the filter of a given name, if the
two filters of that name do. -/
theorem forall₂_onFirst {R : Filter ρ → Filter ρ → Prop} {name : String}
    {step step' : Filter ρ → Filter ρ} {fs gs : List (Filter ρ)} (h : List.Forall₂ R fs gs)
    (hname : ∀ f g, R f g → g.name = f.name)
    (hstep : ∀ f g, fs.find? (answersTo name) = some f → gs.find? (answersTo name) = some g →
      R f g → R (step f) (step' g)) :
    List.Forall₂ R (onFirst name step fs) (onFirst name step' gs) := by
  induction h with
  | nil => exact .nil
  | @cons f g fs gs hfg hrest ih =>
    have ha : answersTo name g = answersTo name f := by
      rw [answersTo, answersTo, hname f g hfg]
    simp only [List.find?_cons, ha, onFirst] at hstep ⊢
    cases hf : answersTo name f with
    | true =>
      simp only [hf, ↓reduceIte] at hstep ⊢
      exact .cons (hstep f g rfl rfl hfg) hrest
    | false =>
      simp only [hf] at hstep ⊢
      exact .cons hfg (ih hstep)

end ItemSieve.Sieve
