import ItemSieve.Proofs.Filter.Tag
import ItemSieve.Proofs.Pointwise
import ItemSieve.Sieve

/-!
# Where a parse pass sends the tokens

A token is routed to the first filter that takes it (`Sieve.place?`). Since no tag changes which
tokens a filter takes, the routes can be read off the filters as they stand before the pass, and the
pass keeps to them (`Sieve.apply_eq_routes`): the tokens without a route are the plain terms, the
others are noted with the filter they are routed to, and each filter follows the last token routed
to it.
-/

namespace ItemSieve.Sieve

variable {ρ : Type}

/-- The place of the filter that a token is routed to, the first one that takes it. -/
def place? (filters : List (Filter ρ)) (token : String) : Option Nat :=
  filters.findIdx? (·.takes token)

@[simp] theorem place?_cons (f : Filter ρ) (fs : List (Filter ρ)) (token : String) :
    place? (f :: fs) token = if f.takes token then some 0 else (place? fs token).map (· + 1) :=
  List.findIdx?_cons

/-- The filter that a token is routed to. -/
def receiver? (filters : List (Filter ρ)) (token : String) : Option (Filter ρ) :=
  (place? filters token).bind (filters[·]?)

/-- What is noted of a token that is routed to a filter, either among those that stand for another
tag or among the others. -/
def use? (filters : List (Filter ρ)) (resolved : Bool) (token : String) : Option TagUse :=
  ((receiver? filters token).filter (·.resolves token == resolved)).map fun f => ⟨f.name, token⟩

/-- The filter after it has been offered some tokens. -/
def claims (f : Filter ρ) (tokens : List String) : Filter ρ :=
  tokens.foldl (fun f token => (f.claim token).2) f

/-! ## Routes do not change -/

/-- Filters that answer to the same tokens have the same place for a token. -/
theorem place?_congr {fs gs : List (Filter ρ)} (h : List.Forall₂ Filter.SameTags fs gs)
    (token : String) : place? gs token = place? fs token := by
  induction h with
  | nil => rfl
  | cons hfg _ ih =>
    rw [place?_cons, place?_cons, (hfg.2 token).1, ih]

/-- Tokens with the same normal form are routed alike. -/
theorem place?_congr_normal {t u : String} (h : Tag.normal t = Tag.normal u)
    (fs : List (Filter ρ)) : place? fs t = place? fs u := by
  rw [place?, place?, funext (Filter.takes_congr h)]

/-- A token is routed to the first filter that takes it. -/
theorem receiver?_eq_find? (fs : List (Filter ρ)) (token : String) :
    receiver? fs token = fs.find? (·.takes token) :=
  List.find?_eq_bind_findIdx?_getElem?.symm

/-- A token is routed to no filter exactly if there is no place for it. -/
theorem isNone_receiver? (fs : List (Filter ρ)) (token : String) :
    (receiver? fs token).isNone = (place? fs token).isNone := by
  rw [Bool.eq_iff_iff, receiver?_eq_find?, place?]
  simp

/-- Filters that answer to the same tokens have the same noted of a token. -/
theorem use?_congr {fs gs : List (Filter ρ)} (h : List.Forall₂ Filter.SameTags fs gs) (b : Bool)
    (token : String) : use? gs b token = use? fs b token := by
  simp only [use?, receiver?_eq_find?]
  induction h with
  | nil => rfl
  | @cons f g _ _ hfg _ ih =>
    rw [List.find?_cons, List.find?_cons, (hfg.2 token).1]
    cases f.takes token with
    | false => exact ih
    | true => simp [Option.filter, (hfg.2 token).2, hfg.1]

/-! ## One token -/

/-- A token that is offered leaves the tokens that the filters answer to. -/
theorem sameTags_offer (token : String) (fs : List (Filter ρ)) :
    List.Forall₂ Filter.SameTags fs (offer token fs).1 := by
  induction fs with
  | nil => exact .nil
  | cons f rest ih =>
    simp only [offer]
    split
    · exact .cons (f.sameTags_claim token) (List.forall₂_same.2 fun g _ => .refl g)
    · exact .cons (f.sameTags_claim token) ih

/-- The filter that a token is routed to claims it, and the others stay as they are. -/
theorem getElem?_offer (token : String) (fs : List (Filter ρ)) (i : Nat) :
    (offer token fs).1[i]? =
      fs[i]?.map fun f => if place? fs token = some i then (f.claim token).2 else f := by
  induction fs generalizing i with
  | nil => rfl
  | cons f rest ih =>
    simp only [offer, Filter.isConsumed_claim, place?_cons]
    cases ht : f.takes token with
    | true => cases i <;> simp
    | false =>
      cases i with
      | zero => simp [Filter.claim_snd_of_not_takes ht]
      | succ i => simpa using ih i

/-- The filter that a token is routed to is named with its answer. -/
theorem offer_snd (token : String) (fs : List (Filter ρ)) :
    (offer token fs).2 = (receiver? fs token).map fun f =>
      (f.name, if f.resolves token then .resolved else .claimed) := by
  rw [receiver?_eq_find?]
  induction fs with
  | nil => rfl
  | cons f rest ih =>
    simp only [offer, Filter.isConsumed_claim, List.find?_cons]
    cases ht : f.takes token with
    | true => simp [Filter.claim_fst, ht]
    | false => simpa using ih

/-! ## A list of tokens -/

/-- The parsed query lists the tokens by their routes. -/
theorem route_snd (fs : List (Filter ρ)) (tokens : List String) :
    (route fs tokens).2 =
      ⟨tokens.filter fun t => (place? fs t).isNone, tokens.filterMap (use? fs false),
        tokens.filterMap (use? fs true)⟩ := by
  induction tokens generalizing fs with
  | nil => rfl
  | cons token rest ih =>
    have hp : place? (offer token fs).1 = place? fs :=
      funext (place?_congr (sameTags_offer token fs))
    have hu (b : Bool) : use? (offer token fs).1 b = use? fs b :=
      funext (use?_congr (sameTags_offer token fs) b)
    simp only [route, List.filter_cons, List.filterMap_cons, ← isNone_receiver?, use?]
    rw [offer_snd]
    cases receiver? fs token with
    | none => simp [ih, hp, hu, isNone_receiver?]
    | some f =>
      cases hr : f.resolves token <;> simp [ih, hp, hu, hr, Option.filter, isNone_receiver?]

/-- Each filter claims the tokens routed to it, in order. -/
theorem getElem?_route (fs : List (Filter ρ)) (tokens : List String) (i : Nat) :
    (route fs tokens).1[i]? =
      fs[i]?.map (claims · (tokens.filter fun t => place? fs t == some i)) := by
  induction tokens generalizing fs with
  | nil => simp [route, claims]
  | cons token rest ih =>
    have hp : place? (offer token fs).1 = place? fs :=
      funext (place?_congr (sameTags_offer token fs))
    have hr : (route fs (token :: rest)).1 = (route (offer token fs).1 rest).1 := by
      simp only [route]
      split <;> rfl
    rw [hr, ih, hp, getElem?_offer, Option.map_map, List.filter_cons]
    congr 1
    funext f
    by_cases h : place? fs token = some i <;> simp [h, claims]

/-! ## The pass -/

/-- The end of all tags leaves the tokens that the filters answer to. -/
theorem sameTags_clearTags (s : Sieve ρ) :
    List.Forall₂ Filter.SameTags s.filters s.clearTags.filters :=
  List.forall₂_map_right_iff.2 (List.forall₂_same.2 fun f _ => f.sameTags_clearTag)

/-- The routes of a pass are those of the filters before it. -/
theorem apply_fst (s : Sieve ρ) (query : String) :
    (s.apply query).1 =
      ⟨(s.delimiter.tokenize query).filter fun token => (place? s.filters token).isNone,
        (s.delimiter.tokenize query).filterMap (use? s.filters false),
        (s.delimiter.tokenize query).filterMap (use? s.filters true)⟩ := by
  have hp : place? s.clearTags.filters = place? s.filters :=
    funext (place?_congr s.sameTags_clearTags)
  have hu (b : Bool) : use? s.clearTags.filters b = use? s.filters b :=
    funext (use?_congr s.sameTags_clearTags b)
  rw [← hp, ← hu, ← hu]
  exact route_snd s.clearTags.filters (s.delimiter.tokenize query)

/-- The tokens of a query that are routed to the filter at a place, in order. -/
def routedTo (s : Sieve ρ) (query : String) (i : Nat) : List String :=
  (s.delimiter.tokenize query).filter fun token => place? s.filters token == some i

/-- The tokens that a filter is sent are those of the query that have their place at it. -/
theorem mem_routedTo {s : Sieve ρ} {query token : String} {i : Nat} :
    token ∈ s.routedTo query i ↔
      token ∈ s.delimiter.tokenize query ∧ place? s.filters token = some i := by
  rw [routedTo, List.mem_filter, beq_iff_eq]

/-- After a pass each filter has lost its tag and claimed the tokens routed to it. -/
theorem apply_filters (s : Sieve ρ) (query : String) :
    (s.apply query).2.filters =
      s.filters.mapIdx fun i f => claims f.clearTag (s.routedTo query i) := by
  have hp : place? s.clearTags.filters = place? s.filters :=
    funext (place?_congr s.sameTags_clearTags)
  refine List.ext_getElem? fun i => ?_
  have h := getElem?_route s.clearTags.filters (s.delimiter.tokenize query) i
  rw [hp, clearTags, List.getElem?_map, Option.map_map] at h
  rw [List.getElem?_mapIdx]
  exact h

/-- Each filter is offered the tokens that are routed to it, after its tag has ended. -/
theorem getElem?_apply (s : Sieve ρ) (query : String) (i : Nat) :
    (s.apply query).2.filters[i]? =
      s.filters[i]?.map fun f => claims f.clearTag (s.routedTo query i) := by
  rw [apply_filters, List.getElem?_mapIdx]

/-- A query leaves the number of the filters. -/
theorem length_apply (s : Sieve ρ) (query : String) :
    (s.apply query).2.filters.length = s.filters.length := by
  rw [apply_filters, List.length_mapIdx]

/-- Filters that answer to the same tokens place by place are sent the same tokens, and make the
same of a query. -/
theorem routes_congr {s t : Sieve ρ} (hd : t.delimiter = s.delimiter)
    (h : List.Forall₂ Filter.SameTags s.filters t.filters) (query : String) :
    (t.apply query).1 = (s.apply query).1 ∧ t.routedTo query = s.routedTo query := by
  have hp : place? t.filters = place? s.filters := funext (place?_congr h)
  have hu (b : Bool) : use? t.filters b = use? s.filters b := funext (use?_congr h b)
  refine ⟨by rw [apply_fst, apply_fst, hd, hp, hu, hu], ?_⟩
  funext i
  rw [routedTo, routedTo, hd, hp]

/-- A comparison that goes along with the end of a tag and with each claim goes along with a parse
pass. -/
theorem forall₂_apply {R : Filter ρ → Filter ρ → Prop} (hR : ∀ f g h, R f g → R g h → R f h)
    (hclear : ∀ f, R f f.clearTag) (hclaim : ∀ f token, R f (f.claim token).2) (s : Sieve ρ)
    (query : String) : List.Forall₂ R s.filters (s.apply query).2.filters := by
  have hclaims (f g : Filter ρ) (tokens : List String) (h : R f g) : R f (claims g tokens) := by
    induction tokens generalizing g with
    | nil => exact h
    | cons token rest ih => exact ih _ (hR f g _ h (hclaim g token))
  rw [apply_filters, List.forall₂_iff_get]
  refine ⟨by rw [List.length_mapIdx], fun i hi hj => ?_⟩
  simp only [List.get_eq_getElem, List.getElem_mapIdx]
  exact hclaims _ _ _ (hclear _)

/-- The filter at a place takes the tokens routed there. -/
theorem takes_of_place? {fs : List (Filter ρ)} {token : String} {i : Nat} {f : Filter ρ}
    (hp : place? fs token = some i) (hf : fs[i]? = some f) : f.takes token := by
  obtain ⟨hi, ht, -⟩ := List.findIdx?_eq_some_iff_getElem.1 hp
  rw [List.getElem?_eq_getElem hi, Option.some.injEq] at hf
  rwa [hf] at ht

/-- Of the tokens that a filter takes one after another only the last one counts. -/
theorem claims_eq {f : Filter ρ} {tokens : List String} (h : ∀ t ∈ tokens, f.takes t) :
    claims f tokens =
      match tokens.getLast? with
      | none => f
      | some t => (f.claim t).2 := by
  induction tokens generalizing f with
  | nil => rfl
  | cons t rest ih =>
    have hr : ∀ u ∈ rest, (f.claim t).2.takes u := fun u hu => by
      rw [Filter.takes_claim]
      exact h u (List.mem_cons_of_mem t hu)
    show claims (f.claim t).2 rest = _
    rw [ih hr, List.getLast?_cons]
    cases hl : rest.getLast? with
    | none => rfl
    | some u => exact Filter.claim_claim (h u (List.mem_cons_of_mem t (List.mem_of_getLast? hl)))

/-- A filter without a tag that is offered tokens it takes follows the last one, if there is any. -/
theorem claims_clearTag {f : Filter ρ} {tokens : List String} (h : ∀ t ∈ tokens, f.takes t) :
    ((claims f.clearTag tokens).fromTag = true ↔ tokens ≠ []) ∧
      match tokens.getLast? with
      | none => claims f.clearTag tokens = f.clearTag
      | some t =>
        claims f.clearTag tokens = (f.clearTag.claim t).2 ∧
          (claims f.clearTag tokens).Follows t ∧
          (claims f.clearTag tokens).clearTag = f.clearTag := by
  have h : ∀ t ∈ tokens, f.clearTag.takes t := fun t ht => by
    rw [Filter.takes_clearTag]
    exact h t ht
  rw [claims_eq h]
  cases hl : tokens.getLast? with
  | none => simp [List.getLast?_eq_none_iff.1 hl]
  | some t =>
    have ht := List.mem_of_getLast? hl
    have hf := Filter.follows_claim (h t ht)
    refine ⟨⟨fun _ => List.ne_nil_of_mem ht, fun _ => hf.fromTag⟩, rfl, hf, ?_⟩
    exact (f.clearTag.clearTag_claim t).trans f.clearTag_clearTag

/-- Each token is a plain term, or is noted once with the filter it is routed to. -/
theorem perm_tokens (fs : List (Filter ρ)) (tokens : List String) :
    ((tokens.filter fun t => (place? fs t).isNone) ++
      (tokens.filterMap (use? fs false)).map (·.token) ++
      (tokens.filterMap (use? fs true)).map (·.token)).Perm tokens := by
  induction tokens with
  | nil => exact .nil
  | cons t rest ih =>
    simp only [List.filter_cons, List.filterMap_cons, ← isNone_receiver?, use?] at ih ⊢
    cases receiver? fs t with
    | none => exact ih.cons t
    | some f =>
      cases hr : f.resolves t with
      | true => simpa [Option.filter, hr] using List.perm_middle.trans (ih.cons t)
      | false =>
        simp only [List.append_assoc] at ih
        simpa [Option.filter, hr] using List.perm_middle.trans (ih.cons t)

/-- A filter consumes exactly the tokens that it takes. A parse pass makes plain terms of the tokens
that no filter takes, and notes the others with the filter they are routed to, in the order of the
query: those with the normal form `self` that go to a race/sex filter are resolved, and the rest is
claimed. A filter to which no token is routed is left without a tag. Any other filter is left as if
it had been offered only the last of the tokens routed to it: it follows that token, and when the
tag ends it is as if it had taken none. -/
theorem apply_eq_routes (s : Sieve ρ) (query : String) :
    let tokens := s.delimiter.tokenize query
    let q := (s.apply query).1
    let t := (s.apply query).2
    (∀ f ∈ s.filters, ∀ token, (f.claim token).1.isConsumed = f.takes token) ∧
      q.terms = (tokens.filter fun token => (place? s.filters token).isNone) ∧
      q.claimed = tokens.filterMap (use? s.filters false) ∧
      q.resolved = tokens.filterMap (use? s.filters true) ∧
      (q.terms ++ q.claimed.map (·.token) ++ q.resolved.map (·.token)).Perm tokens ∧
      t.delimiter = s.delimiter ∧ t.filters.length = s.filters.length ∧
      ∀ i f, s.filters[i]? = some f → ∃ g, t.filters[i]? = some g ∧
        (g.fromTag = true ↔ ∃ token ∈ tokens, place? s.filters token = some i) ∧
        match (s.routedTo query i).getLast? with
        | none => g = f.clearTag
        | some token =>
          g = (f.clearTag.claim token).2 ∧ g.Follows token ∧ g.clearTag = f.clearTag := by
  intro tokens q t
  have hq : q = ⟨_, _, _⟩ := s.apply_fst query
  refine ⟨fun f _ => f.isConsumed_claim, by rw [hq], by rw [hq], by rw [hq], ?_, rfl, ?_, ?_⟩
  · rw [hq]
    exact perm_tokens s.filters tokens
  · rw [s.apply_filters query, List.length_mapIdx]
  · intro i f hf
    have htakes : ∀ token ∈ s.routedTo query i, f.takes token := fun token h =>
      takes_of_place? (mem_routedTo.1 h).2 hf
    obtain ⟨hfrom, hlast⟩ := claims_clearTag htakes
    refine ⟨claims f.clearTag (s.routedTo query i), ?_, ?_, hlast⟩
    · rw [s.apply_filters query, List.getElem?_mapIdx, hf, Option.map_some]
    · rw [hfrom]
      constructor
      · intro h
        obtain ⟨token, hm⟩ := List.exists_mem_of_ne_nil _ h
        exact ⟨token, mem_routedTo.1 hm⟩
      · rintro ⟨token, hm⟩
        exact List.ne_nil_of_mem (mem_routedTo.2 hm)

end ItemSieve.Sieve
