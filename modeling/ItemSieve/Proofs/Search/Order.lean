import ItemSieve.Proofs.Search.Call
import ItemSieve.Proofs.Sieve.Evaluate
import ItemSieve.Proofs.Sieve.Route

/-!
# The order of the tokens in a query

Of the tokens that are routed to a filter only the last one counts, and tokens that are routed to
different filters do not get into each other's way. So a parse pass leaves the same sieve after two
queries with the same last token for each filter (`Sieve.SameLast.apply_eq`). Plain terms have no
order either, since a record has to be found by all of them. Two queries that are the same up to the
order of their tokens, with the same last token for each filter, are therefore answered alike, and
leave the same search (`ItemSearch.search_perm`).
-/

namespace ItemSieve

namespace Sieve

variable {ρ : Type}

/-- The queries have the same tokens, up to their order, and the last token that is routed to a
filter is the same in both. -/
structure SameLast (s : Sieve ρ) (query query' : String) : Prop where
  perm : (s.delimiter.tokenize query').Perm (s.delimiter.tokenize query)
  last : ∀ i < s.filters.length,
    (s.routedTo query' i).getLast? = (s.routedTo query i).getLast?

variable {s : Sieve ρ} {query query' : String}

/-! ## The parse pass -/

/-- The filter without its tag, offered the token if there is one. -/
def follow (f : Filter ρ) : Option String → Filter ρ
  | none => f.clearTag
  | some token => (f.clearTag.claim token).2

/-- A pass leaves each filter as if it had been offered only the last of the tokens routed to it. -/
theorem getElem?_apply_follow (s : Sieve ρ) (query : String) (i : Nat) :
    (s.apply query).2.filters[i]? =
      s.filters[i]?.map fun f => follow f (s.routedTo query i).getLast? := by
  rw [getElem?_apply]
  cases hf : s.filters[i]? with
  | none => rfl
  | some f =>
    have htakes : ∀ token ∈ s.routedTo query i, f.clearTag.takes token := by
      intro token h
      rw [Filter.takes_clearTag]
      exact takes_of_place? (mem_routedTo.1 h).2 hf
    rw [Option.map_some, Option.map_some, claims_eq htakes]
    cases (s.routedTo query i).getLast? <;> rfl

/-- Queries with the same last token for each filter leave the same sieve. -/
theorem SameLast.apply_eq (h : s.SameLast query query') :
    (s.apply query').2 = (s.apply query).2 := by
  have hfilters : (s.apply query').2.filters = (s.apply query).2.filters := by
    refine List.ext_getElem? ?_
    intro i
    rw [getElem?_apply_follow, getElem?_apply_follow]
    by_cases hi : i < s.filters.length
    · rw [h.last i hi]
    · rw [List.getElem?_eq_none (Nat.le_of_not_lt hi)]
      rfl
  calc (s.apply query').2
      = ⟨(s.apply query').2.filters, s.delimiter⟩ := rfl
    _ = (s.apply query).2 := by rw [hfilters]; rfl

/-- The parsed queries list the same tokens, up to their order. -/
theorem SameLast.parsed_perm (h : s.SameLast query query') :
    (s.apply query').1.terms.Perm (s.apply query).1.terms ∧
      (s.apply query').1.claimed.Perm (s.apply query).1.claimed ∧
      (s.apply query').1.resolved.Perm (s.apply query).1.resolved := by
  rw [apply_fst, apply_fst]
  exact ⟨h.perm.filter _, h.perm.filterMap _, h.perm.filterMap _⟩

/-! ## The evaluation -/

/-- The evaluations of two queries that find the same records are the same. -/
theorem evaluate_congr {finds : ρ → String → Bool} {q q' : ParsedQuery}
    (h : ∀ r, q'.terms.all (finds r) = q.terms.all (finds r)) (s : Sieve ρ) (records : List ρ) :
    s.evaluate finds q' records = s.evaluate finds q records := by
  induction records generalizing s with
  | nil => rfl
  | cons r rest ih =>
    have hr : s.admits finds q' r = s.admits finds q r := by
      rw [admits, admits, h r]
    rw [evaluate, evaluate, hr, ih]

/-- The order of plain terms has no influence on an evaluation. -/
theorem evaluate_perm {q q' : ParsedQuery} (h : q'.terms.Perm q.terms) (s : Sieve ρ)
    (finds : ρ → String → Bool) (records : List ρ) :
    s.evaluate finds q' records = s.evaluate finds q records :=
  evaluate_congr (fun _ => h.all_eq) s records

end Sieve

namespace ItemSearch

/-- The state that the evaluation of a query starts from. -/
def polled (s : ItemSearch) (query : String) : ItemSearch :=
  { s with sieve := (s.sieve.apply query).2.takeChanged.2 }

/-- A search is a parse pass, a poll and an evaluation. -/
theorem search_eq (s : ItemSearch) (query : String) :
    let p := s.sieve.apply query
    let c := (s.polled query).matching p.1
    s.search query =
      ⟨⟨c.answer, p.1, c.after.sieve.active.map .of, p.2.takeChanged.1⟩, c.after, c.log⟩ :=
  rfl

/-- Let two queries have the same tokens, up to their order, and for each filter the same last token
that is routed to it. Then they are answered with the same items in the same order, with the same
active filters and the same news of a change; they are parsed to the same lists, up to their order;
and they leave the same search, all of its filters included, with the same failures logged. -/
theorem search_perm (s : ItemSearch) {query query' : String}
    (h : s.sieve.SameLast query query') :
    let c := s.search query
    let c' := s.search query'
    c'.answer.items = c.answer.items ∧ c'.answer.active = c.answer.active ∧
      c'.answer.changed = c.answer.changed ∧ c'.after = c.after ∧ c'.log = c.log ∧
      c'.answer.query.terms.Perm c.answer.query.terms ∧
      c'.answer.query.claimed.Perm c.answer.query.claimed ∧
      c'.answer.query.resolved.Perm c.answer.query.resolved := by
  intro c c'
  have hsieve : (s.sieve.apply query').2 = (s.sieve.apply query).2 := h.apply_eq
  obtain ⟨hterms, hclaimed, hresolved⟩ := h.parsed_perm
  have hpolled : s.polled query' = s.polled query := by
    rw [polled, polled, hsieve]
  have hmatching : (s.polled query').matching (s.sieve.apply query').1 =
      (s.polled query).matching (s.sieve.apply query).1 := by
    rw [hpolled, matching, matching, Sieve.evaluate_perm hterms]
  have hc : c = _ := s.search_eq query
  have hc' : c' = _ := s.search_eq query'
  rw [hmatching, hsieve] at hc'
  rw [hc, hc']
  exact ⟨rfl, rfl, rfl, rfl, rfl, hterms, hclaimed, hresolved⟩

/-- Tags of two filters and the terms between them may change places as long as each filter gets its
last tag at the end. -/
theorem search_perm_tags :
    let catalog : Catalog := ⟨[{ Item.blank with name := "Ring", isUnique := true }],
      [⟨4, "Miqo'te", "Miqo'te", true, true⟩], [⟨0, [], false, true⟩]⟩
    let s := (new catalog .default).run [.only "unique", .search "notunique hat"]
    let query := "notunique malemiqote ring unique RIN femalemiqote"
    let query' := "malemiqote RIN notunique femalemiqote ring unique"
    s.sieve.SameLast query query' ∧
      (s.search query').answer.items = (s.search query).answer.items ∧
      (s.search query').after = (s.search query).after := by
  intro catalog s query query'
  have hlast : s.sieve.SameLast query query' := ⟨by decide +kernel, by decide +kernel⟩
  obtain ⟨hitems, -, -, hafter, -⟩ := s.search_perm hlast
  exact ⟨hlast, hitems, hafter⟩

end ItemSearch

end ItemSieve
