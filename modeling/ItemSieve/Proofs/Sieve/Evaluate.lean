import ItemSieve.Proofs.Filter.Check
import ItemSieve.Proofs.Pointwise
import ItemSieve.Sieve

/-!
# What an evaluation answers

`Sieve.evaluate` asks only the filters that are set, only up to the first that holds a record back,
and the filters remember failures from record to record. All the same it answers with the records
that every filter lets through, whether it is set or not, and that every plain term finds
(`Sieve.evaluate_eq_filter`): a neutral filter lets everything through, and what is remembered has
no influence on an answer.
-/

namespace ItemSieve.Sieve

variable {ρ : Type}

/-- Every filter lets the record through, whether it is set or not. -/
def passes (filters : List (Filter ρ)) (r : ρ) : Bool :=
  filters.all fun f => (f.check r).answer

@[simp] theorem passes_nil (r : ρ) : passes [] r = true := rfl

@[simp] theorem passes_cons (f : Filter ρ) (fs : List (Filter ρ)) (r : ρ) :
    passes (f :: fs) r = ((f.check r).answer && passes fs r) := rfl

/-- Filters that answer alike place by place let the same records through. -/
theorem passes_congr {fs gs : List (Filter ρ)} {r : ρ}
    (h : List.Forall₂ (fun f g => (g.check r).answer = (f.check r).answer) fs gs) :
    passes gs r = passes fs r := by
  induction h with
  | nil => rfl
  | cons hfg _ ih => rw [passes_cons, passes_cons, hfg, ih]

/-! ## One record -/

/-- Asking the filters that are set, up to the first that holds the record back, is asking all. -/
theorem checkAll_answer (r : ρ) (fs : List (Filter ρ)) : (checkAll r fs).answer = passes fs r := by
  induction fs with
  | nil => rfl
  | cons f rest ih =>
    simp only [checkAll, passes_cons]
    cases hs : f.isSet with
    | false =>
      have hn : (f.check r).answer = true := (Filter.isSet_eq_false_iff.1 hs).check_answer r
      simpa [hn] using ih
    | true =>
      cases hc : (f.check r).answer with
      | false => simp
      | true => simpa using ih

/-- Asking the filters changes nothing but what they remember for the log. -/
theorem checkAll_after (r : ρ) (fs : List (Filter ρ)) :
    List.Forall₂ Filter.Reported fs (checkAll r fs).after := by
  have refl (fs : List (Filter ρ)) : List.Forall₂ Filter.Reported fs fs :=
    List.forall₂_same.2 fun f _ => .refl f
  induction fs with
  | nil => exact .nil
  | cons f rest ih =>
    simp only [checkAll]
    split
    · split
      · exact .cons (f.check_after r) ih
      · exact .cons (f.check_after r) (refl rest)
    · exact .cons (.refl f) ih

/-- The second sieve is the first one, except that its filters may take more failures to be logged
already. -/
def Reported (s t : Sieve ρ) : Prop :=
  t.delimiter = s.delimiter ∧ List.Forall₂ Filter.Reported s.filters t.filters

theorem Reported.refl (s : Sieve ρ) : s.Reported s :=
  ⟨rfl, List.forall₂_same.2 fun f _ => .refl f⟩

theorem Reported.trans {s t u : Sieve ρ} (h : s.Reported t) (h' : t.Reported u) : s.Reported u := by
  obtain ⟨hd, hfs⟩ := h
  obtain ⟨hd', hfs'⟩ := h'
  exact ⟨hd'.trans hd, forall₂_trans (fun _ _ _ hfg hgh => hfg.trans hgh) hfs hfs'⟩

/-- What the filters remember for the log has no influence on what they let through. -/
theorem Reported.passes_eq {s t : Sieve ρ} (h : s.Reported t) (r : ρ) :
    passes t.filters r = passes s.filters r :=
  passes_congr (h.2.imp fun _ _ hfg => hfg.check_answer r)

/-- A record is admitted exactly when every filter lets it through and every term finds it. -/
theorem admits_answer (s : Sieve ρ) (finds : ρ → String → Bool) (q : ParsedQuery) (r : ρ) :
    (s.admits finds q r).answer = (passes s.filters r && q.terms.all (finds r)) := by
  rw [admits, checkAll_answer]

/-- A record that is put to the sieve changes nothing but what is remembered for the log. -/
theorem admits_after (s : Sieve ρ) (finds : ρ → String → Bool) (q : ParsedQuery) (r : ρ) :
    s.Reported (s.admits finds q r).after :=
  ⟨rfl, checkAll_after r s.filters⟩

/-! ## A list of records -/

/-- To evaluate a query changes nothing but what is remembered for the log. -/
theorem evaluate_after (s : Sieve ρ) (finds : ρ → String → Bool) (q : ParsedQuery)
    (records : List ρ) : s.Reported (s.evaluate finds q records).after := by
  induction records generalizing s with
  | nil => exact .refl s
  | cons r rest ih => exact (s.admits_after finds q r).trans (ih _)

/-- An evaluation keeps the records that pass, in order. -/
theorem evaluate_answer (s : Sieve ρ) (finds : ρ → String → Bool) (q : ParsedQuery)
    (records : List ρ) :
    (s.evaluate finds q records).answer =
      records.filter fun r => passes s.filters r && q.terms.all (finds r) := by
  induction records generalizing s with
  | nil => rfl
  | cons r rest ih =>
    have hp (r' : ρ) : passes (s.admits finds q r).after.filters r' = passes s.filters r' :=
      (s.admits_after finds q r).passes_eq r'
    simp only [evaluate, ih, hp, List.filter_cons, admits_answer]

/-- An evaluation answers, in order and as often as they occur, with exactly the records that every
filter lets through, set or not, and that every term of the query finds. The filters that are not
set are the neutral ones, and these let every record through. -/
theorem evaluate_eq_filter (s : Sieve ρ) (finds : ρ → String → Bool) (q : ParsedQuery)
    (records : List ρ) :
    (s.evaluate finds q records).answer =
        records.filter (fun r =>
          decide ((∀ f ∈ s.filters, (f.check r).answer = true) ∧
            ∀ term ∈ q.terms, finds r term = true)) ∧
      ∀ f ∈ s.filters,
        (f.isSet = false ↔ f.Neutral) ∧ (f.isSet = false → ∀ r, (f.check r).answer = true) := by
  constructor
  · rw [evaluate_answer]
    congr 1
    funext r
    rw [Bool.eq_iff_iff]
    simp [passes]
  · intro f _
    refine ⟨Filter.isSet_eq_false_iff, ?_⟩
    intro hset r
    have hneutral : f.Neutral := Filter.isSet_eq_false_iff.1 hset
    exact hneutral.check_answer r

end ItemSieve.Sieve
