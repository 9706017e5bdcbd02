import ItemSieve.Proofs.Search.Refusal
import ItemSieve.Proofs.Search.Replay
import ItemSieve.Proofs.Text

/-!
# A tag and an edit leave the same leg open

A yes/no filter comes to let only one leg through in two ways: by a tag in the query, and by an edit
that the user makes before the query. Either way the parse pass leaves the other filters alone, and
a record is found if it belongs to the leg and to what the other filters and the terms let through
(`ItemSearch.others`). So the two are answered alike, and a filter with both legs open has its items
parted by its two tags (`ItemSearch.search_legs`).
-/

namespace ItemSieve

variable {ρ : Type}

/-- A tag at the end of a query is one more token. -/
theorem Delimiter.tokenize_append (query token : String) :
    whitespace.tokenize (query ++ " " ++ token) =
      whitespace.tokenize query ++ whitespace.tokenize token := by
  have hspace : Text.isSpace ' ' = true := by decide
  simp only [tokenize, split, String.toList_append, List.append_assoc]
  show (Text.words (query.toList ++ ' ' :: token.toList)).map _ = _
  rw [Text.words_append hspace, List.map_append]

namespace YesNoFilter

variable {f : YesNoFilter ρ}

/-- The text is one word that names the leg of the filter, in any spelling. -/
structure Spells (f : YesNoFilter ρ) (leg : Bool) (text : String) : Prop where
  word : Delimiter.whitespace.tokenize text = [text]
  normal : Tag.normal text = if leg then f.yesTag else f.noTag

/-- The record has what the filter is about. -/
def holds (f : YesNoFilter ρ) (r : ρ) : Bool :=
  f.read.any fun read => read r != f.inverted

/-- A filter that reads an attribute is about the attribute, or about its absence. -/
theorem holds_eq {read : ρ → Bool} (h : f.read = some read) :
    f.holds = if f.inverted then (!read ·) else read := by
  funext r
  rw [holds, h, Option.any_some]
  cases f.inverted <;> simp

/-- A filter with an attribute to read lets a record through by the leg it belongs to. -/
theorem check_eq (h : f.read.isSome) (r : ρ) : f.check r = f.active.passes (f.holds r) := by
  obtain ⟨read, hread⟩ := Option.isSome_iff_exists.1 h
  rw [check, holds, hread, Option.any_some]

/-- With a single leg open, a record passes exactly if it stands on that leg. -/
theorem check_only {leg : Bool} (h : f.read.isSome) (hactive : f.active = .only leg) (r : ρ) :
    f.check r = (f.holds r == leg) := by
  rw [check_eq h, hactive]
  cases leg <;> cases f.holds r <;> rfl

/-- With both legs open, every record passes. -/
theorem check_both (h : f.read.isSome) (hactive : f.active = .both) (r : ρ) :
    f.check r = true := by
  rw [check_eq h, hactive]
  cases f.holds r <;> rfl

/-- The filter follows a text that names a leg of it. -/
theorem Spells.claim_eq {leg : Bool} {text : String} (h : f.Spells leg text) :
    f.claim text = (.claimed, { f with tag := some leg }) := by
  rw [claim, h.normal]
  cases leg with
  | true => simp [f.noTag_ne_yesTag.symm]
  | false => simp

end YesNoFilter

namespace Sieve

/-! ## One filter in its place -/

/-- A record passes if it passes the filter in a place and all the others. -/
theorem passes_set {fs : List (Filter ρ)} {i : Nat} (hi : i < fs.length) (f : Filter ρ) (r : ρ) :
    passes (fs.set i f) r = ((f.check r).answer && passes (fs.eraseIdx i) r) := by
  induction fs generalizing i with
  | nil => exact absurd hi (Nat.not_lt_zero i)
  | cons g rest ih =>
    cases i with
    | zero => rfl
    | succ i =>
      rw [List.set_cons_succ, passes_cons, ih (Nat.lt_of_succ_lt_succ hi), List.eraseIdx_cons_succ,
        passes_cons, Bool.and_left_comm]

/-- The filter of a name is the one at the place of the name. -/
theorem get?_eq_bind (s : Sieve ρ) (name : String) :
    s.get? name = (s.index? name).bind (s.filters[·]?) :=
  List.find?_eq_bind_findIdx?_getElem?

/-- The end of all tags ends the tag of the filter that is found by a name. -/
theorem get?_clearTags (s : Sieve ρ) (name : String) :
    s.clearTags.get? name = (s.get? name).map (·.clearTag) := by
  rw [get?, clearTags, List.find?_map, answersTo_comp Filter.name_clearTag, get?]

/-- The end of all tags leaves every name at its place. -/
theorem index?_clearTags (s : Sieve ρ) (name : String) :
    s.clearTags.index? name = s.index? name := by
  rw [index?, clearTags, List.findIdx?_map, answersTo_comp Filter.name_clearTag, index?]

variable {s : Sieve ρ} {query : String} {i : Nat} {f : Filter ρ}

/-- A filter without tokens of its own in a query is left without a tag. -/
theorem apply_eq_set_clearTag (hf : s.filters[i]? = some f) (hquery : s.routedTo query i = []) :
    (s.apply query).2.filters = (s.apply query).2.filters.set i f.clearTag := by
  obtain ⟨hi, -⟩ := List.getElem?_eq_some_iff.1 hf
  refine eq_set ((s.length_apply query).symm ▸ hi) ?_ fun _ _ => rfl
  rw [getElem?_apply, hf, hquery]
  rfl

/-- A token at the end of a query that is routed to a filter is followed by that filter, and changes
nothing else. -/
theorem apply_append {query' token : String}
    (htokens : s.delimiter.tokenize query' = s.delimiter.tokenize query ++ [token])
    (hplace : place? s.filters token = some i) (hf : s.filters[i]? = some f)
    (hquery : s.routedTo query i = []) :
    (s.apply query').1.terms = (s.apply query).1.terms ∧
      (s.apply query').2.filters =
        (s.apply query).2.filters.set i (f.clearTag.claim token).2 := by
  have hrouted (j : Nat) :
      s.routedTo query' j = s.routedTo query j ++ if i = j then [token] else [] := by
    rw [routedTo, routedTo, htokens, List.filter_append, List.filter_singleton, hplace]
    simp
  constructor
  · simp [apply_fst, htokens, hplace]
  · obtain ⟨hi, -⟩ := List.getElem?_eq_some_iff.1 hf
    refine eq_set ((s.length_apply query).symm ▸ hi) ?_ ?_
    · rw [getElem?_apply, hf, hrouted, hquery, if_pos rfl]
      rfl
    · intro j hij
      rw [getElem?_apply, getElem?_apply, hrouted, if_neg hij, List.append_nil]

/-- What is put in place of a filter, without a tag and for the same tokens, is left alone by a
query without tokens for it. -/
theorem apply_set {t : Sieve ρ} {g : Filter ρ} (hdelimiter : t.delimiter = s.delimiter)
    (hfilters : t.filters = s.clearTags.filters.set i g) (hf : s.filters[i]? = some f)
    (hsame : f.SameTags g) (hg : g.fromTag = false) (hquery : s.routedTo query i = []) :
    (t.apply query).1 = (s.apply query).1 ∧
      (t.apply query).2.filters = (s.apply query).2.filters.set i g := by
  obtain ⟨hi, hget⟩ := List.getElem?_eq_some_iff.1 hf
  have hself : t.filters[i]? = some g := by
    rw [hfilters, List.getElem?_set_self (by simpa [clearTags] using hi)]
  have hothers (j : Nat) (hij : i ≠ j) : t.filters[j]? = s.filters[j]?.map (·.clearTag) := by
    rw [hfilters, List.getElem?_set_ne hij, clearTags, List.getElem?_map]
  have htags : List.Forall₂ Filter.SameTags s.filters t.filters := by
    rw [List.forall₂_iff_get, hfilters, clearTags]
    refine ⟨by simp, ?_⟩
    intro j hj hj'
    by_cases hij : i = j
    · subst hij
      simpa [hget] using hsame
    · simpa [hij] using (s.filters[j]).sameTags_clearTag
  obtain ⟨hparsed, hrouted⟩ := routes_congr hdelimiter htags query
  refine ⟨hparsed, eq_set ((s.length_apply query).symm ▸ hi) ?_ ?_⟩
  · rw [getElem?_apply, hself, hrouted, hquery, Option.map_some, Filter.clearTag_of_fromTag hg]
    rfl
  · intro j hij
    rw [getElem?_apply, getElem?_apply, hothers j hij, hrouted, Option.map_map]
    simp only [Function.comp_def, Filter.clearTag_clearTag]

end Sieve

namespace ItemSearch

/-- The item is found by a query as far as the terms go and the filters beside the one at a
place. -/
def others (s : ItemSearch) (query : String) (i : Nat) (r : Item) : Bool :=
  Sieve.passes ((s.sieve.apply query).2.filters.eraseIdx i) r &&
    (s.sieve.apply query).1.terms.all r.matchesTerm

/-- When a query leaves the filters of another one except for the filter at a place, with the same
terms, it finds the items that this filter lets through and the others find. -/
theorem items_of_set {s t : ItemSearch} {query query' : String} {i : Nat} {f : Filter Item}
    (hcatalog : t.catalog = s.catalog) (hi : i < s.sieve.filters.length)
    (hterms : (t.sieve.apply query').1.terms = (s.sieve.apply query).1.terms)
    (hfilters : (t.sieve.apply query').2.filters = (s.sieve.apply query).2.filters.set i f) :
    (t.search query').answer.items =
      s.catalog.items.filter fun r => (f.check r).answer && s.others query i r := by
  have hlength : i < (s.sieve.apply query).2.filters.length :=
    (s.sieve.length_apply query).symm ▸ hi
  rw [(t.search_answer query').1, hcatalog, hterms]
  refine List.filter_congr ?_
  intro r _
  rw [Sieve.passes_unmarked, hfilters, Sieve.passes_set hlength, others, Bool.and_assoc]

/-! ## One leg open -/

section

variable {s : ItemSearch} {query : String} {i : Nat} {f : YesNoFilter Item} {leg : Bool}

/-- A tag in a query finds the items of its leg. -/
theorem search_tag {text : String} (hf : s.sieve.filters[i]? = some (.yesNo f))
    (hread : f.read.isSome) (hquery : s.sieve.routedTo query i = [])
    (hdelimiter : s.sieve.delimiter = .whitespace) (hspells : f.Spells leg text)
    (hplace : Sieve.place? s.sieve.filters text = some i) :
    let answer := (s.search (query ++ " " ++ text)).answer
    answer.query.terms = (s.sieve.apply query).1.terms ∧
      answer.items =
        s.catalog.items.filter fun r => (f.holds r == leg) && s.others query i r := by
  intro answer
  have htokens : s.sieve.delimiter.tokenize (query ++ " " ++ text) =
      s.sieve.delimiter.tokenize query ++ [text] := by
    rw [hdelimiter, Delimiter.tokenize_append, hspells.word]
  obtain ⟨hterms, hfilters⟩ := Sieve.apply_append htokens hplace hf hquery
  obtain ⟨hi, -⟩ := List.getElem?_eq_some_iff.1 hf
  refine ⟨hterms, ?_⟩
  rw [items_of_set rfl hi hterms hfilters]
  refine List.filter_congr ?_
  intro r _
  have hspells : f.clearTag.Spells leg text := ⟨hspells.word, hspells.normal⟩
  have hclaim : (Filter.claim text (.yesNo f.clearTag)).2 = .yesNo { f with tag := some leg } := by
    rw [Filter.claim, hspells.claim_eq]
    rfl
  have hcheck : YesNoFilter.check { f with tag := some leg } r = (f.holds r == leg) :=
    YesNoFilter.check_only (f := { f with tag := some leg }) hread rfl r
  rw [Filter.clearTag, hclaim, Filter.check, hcheck]

/-- An edit that leaves one leg open, made after the end of all tags, goes through, and finds the
items of its leg. -/
theorem search_edit {edit : YesNoFilter Item → Option (YesNoFilter Item)}
    (hf : s.sieve.filters[i]? = some (.yesNo f)) (hread : f.read.isSome)
    (hquery : s.sieve.routedTo query i = []) (hindex : s.sieve.index? f.name = some i)
    (hedit : YesNoFilter.Opens leg edit) :
    ∃ t, request { s with sieve := s.sieve.clearTags } f.name (yesNoStep f.name edit) = .ok t ∧
      (t.search query).answer.query.terms = (s.sieve.apply query).1.terms ∧
      (t.search query).answer.items =
        s.catalog.items.filter fun r => (f.holds r == leg) && s.others query i r := by
  let g : YesNoFilter Item := { f with legs := .only leg, tag := none, modified := true }
  let t : ItemSearch :=
    ⟨s.catalog, ⟨s.sieve.clearTags.filters.set i (.yesNo g), s.sieve.delimiter⟩⟩
  have hget : s.sieve.clearTags.get? f.name = some (.yesNo f.clearTag) := by
    rw [Sieve.get?_clearTags, Sieve.get?_eq_bind, hindex, Option.bind_some, hf]
    rfl
  have hstep : yesNoStep f.name edit (.yesNo f.clearTag) = .ok (.yesNo g) := yesNoStep_eq hedit _ _
  have hput : put { s with sieve := s.sieve.clearTags } f.name (.yesNo g) = t := by
    obtain ⟨j, hj, -, hput⟩ := Sieve.exists_index? hget
    obtain rfl : i = j := by
      rw [Sieve.index?_clearTags, hindex] at hj
      exact Option.some.inj hj
    rw [put, hput]
    rfl
  have hsame : (Filter.yesNo f).SameTags (.yesNo g) := ⟨rfl, fun _ => ⟨rfl, rfl⟩⟩
  obtain ⟨hparsed, hfilters⟩ :=
    Sieve.apply_set (s := s.sieve) (t := t.sieve) rfl rfl hf hsame rfl hquery
  have hterms : (t.sieve.apply query).1.terms = (s.sieve.apply query).1.terms := by rw [hparsed]
  obtain ⟨hi, -⟩ := List.getElem?_eq_some_iff.1 hf
  refine ⟨t, hput ▸ request_of_step hget hstep, hterms, ?_⟩
  rw [items_of_set (s := s) (t := t) rfl hi hterms hfilters]
  refine List.filter_congr ?_
  intro r _
  have hcheck : g.check r = (f.holds r == leg) := YesNoFilter.check_only (f := g) hread rfl r
  rw [Filter.check, hcheck]

/-- Without a tag of the filter in the query, and with both of its legs open, the others decide. -/
theorem search_both (hf : s.sieve.filters[i]? = some (.yesNo f)) (hread : f.read.isSome)
    (hquery : s.sieve.routedTo query i = []) (hlegs : f.legs = .both) :
    (s.search query).answer.items = s.catalog.items.filter (s.others query i) := by
  obtain ⟨hi, -⟩ := List.getElem?_eq_some_iff.1 hf
  rw [items_of_set rfl hi rfl (Sieve.apply_eq_set_clearTag hf hquery)]
  refine List.filter_congr ?_
  intro r _
  have hcheck : f.clearTag.check r = true :=
    YesNoFilter.check_both (f := f.clearTag) hread hlegs r
  rw [Filter.clearTag, Filter.check, hcheck, Bool.true_and]

/-- When both legs are open, a tag in a query keeps those of its items that belong to the leg. -/
theorem search_tag_filter {text : String} (hf : s.sieve.filters[i]? = some (.yesNo f))
    (hread : f.read.isSome) (hquery : s.sieve.routedTo query i = []) (hlegs : f.legs = .both)
    (hdelimiter : s.sieve.delimiter = .whitespace) (hspells : f.Spells leg text)
    (hplace : Sieve.place? s.sieve.filters text = some i) :
    (s.search (query ++ " " ++ text)).answer.items =
      (s.search query).answer.items.filter (f.holds · == leg) := by
  rw [search_both hf hread hquery hlegs, List.filter_filter]
  exact (search_tag hf hread hquery hdelimiter hspells hplace).2

end

/-! ## The standard filters -/

/-- What the standard yes/no filters are about, under their names. -/
def subjects : List (String × (Item → Bool)) := [
  ("Dyeable", (·.isDyeable)), ("Unique", (·.isUnique)), ("Tradable", (!·.isUntradable)),
  ("Collectable", (·.isCollectable)), ("Glamourous", (·.isGlamourous)),
  ("Can Be HQ", (·.canBeHq)), ("Crest Worthy", (·.isCrestWorthy)),
  ("Advanced Melding", (·.isAdvancedMeldingPermitted))]

/-- The attributes that the standard yes/no filters name are registered for what the filters are
about. -/
theorem holds_yesNoFilters : yesNoFilters.map (fun B => (B.name, B.holds)) = subjects := by
  simp only [yesNoFilters, yesNoRows, List.map_cons, List.map_nil]
  repeat rw [YesNoFilter.holds_eq rfl]
  rfl

/-- The tags of the standard yes/no filters are words in their normal form. -/
theorem spells_tags {B : YesNoFilter Item} (hB : B ∈ yesNoFilters) :
    B.Spells true B.yesTag ∧ B.Spells false B.noTag := by
  have htags : ∀ B ∈ yesNoFilters, ∀ tag ∈ B.tags,
      Delimiter.whitespace.tokenize tag = [tag] ∧ Tag.normal tag = tag := by decide +kernel
  obtain ⟨hyesWord, hyesNormal⟩ := htags B hB B.yesTag (by simp [YesNoFilter.tags])
  obtain ⟨hnoWord, hnoNormal⟩ := htags B hB B.noTag (by simp [YesNoFilter.tags])
  exact ⟨⟨hyesWord, hyesNormal⟩, hnoWord, hnoNormal⟩

/-- A tag of a standard yes/no filter and the edit that leaves the same leg open are answered alike,
and keep the items of the leg if both legs were open. -/
theorem search_leg (catalog : Catalog) (c : Settings) (calls : List Call)
    (hdelimiter : c.queryDelimiter = .whitespace) {B : YesNoFilter Item} (hB : B ∈ yesNoFilters)
    {query text : String} {leg : Bool} {edit : YesNoFilter Item → Option (YesNoFilter Item)}
    (hquery : ∀ token ∈ Delimiter.whitespace.tokenize query,
      Sieve.place? ((new catalog c).run calls).sieve.filters token ≠
        ((new catalog c).run calls).sieve.index? B.name)
    (hspells : B.Spells leg text) (hedit : YesNoFilter.Opens leg edit) :
    let s := (new catalog c).run calls
    let tagged := (s.search (query ++ " " ++ text)).answer
    (∃ t, request { s with sieve := s.sieve.clearTags } B.name (yesNoStep B.name edit) = .ok t ∧
        tagged.items = (t.search query).answer.items ∧
        tagged.query.terms = (t.search query).answer.query.terms) ∧
      ∀ f, s.sieve.get? B.name = some (.yesNo f) → f.legs = .both →
        tagged.items = (s.search query).answer.items.filter (B.holds · == leg) := by
  intro s tagged
  have hread : B.read.isSome := by
    obtain ⟨row, hrow, rfl⟩ := List.mem_map.1 hB
    obtain ⟨get, -, hmade⟩ := made_of_mem hrow
    rw [hmade]
    rfl
  obtain ⟨i, legs, tag, modified, hf, hindex, hplace⟩ := exists_yesNo catalog c calls hB
  have hdelim : s.sieve.delimiter = .whitespace :=
    (sameMake_run (new catalog c) calls).2.1.trans hdelimiter
  have hrouted : s.sieve.routedTo query i = [] := by
    rw [Sieve.routedTo, List.filter_eq_nil_iff, hdelim]
    intro token htoken
    have hother := hquery token htoken
    rw [hindex] at hother
    simpa using hother
  have htag : Tag.normal text ∈ B.tags := by
    rw [hspells.normal, YesNoFilter.tags]
    cases leg <;> simp
  have hspells : YesNoFilter.Spells { B with legs, tag, modified } leg text :=
    ⟨hspells.word, hspells.normal⟩
  constructor
  · obtain ⟨hterms, hitems⟩ :=
      search_tag hf hread hrouted hdelim hspells (hplace text htag)
    obtain ⟨t, ht, hterms', hitems'⟩ := search_edit hf hread hrouted hindex hedit
    exact ⟨t, ht, hitems.trans hitems'.symm, hterms.trans hterms'.symm⟩
  · intro f hget hlegs
    rw [Sieve.get?_eq_bind, hindex, Option.bind_some, hf, Option.some.injEq,
      Filter.yesNo.injEq] at hget
    subst hget
    have hkeeps :=
      search_tag_filter hf hread hrouted hlegs hdelim hspells (hplace text htag)
    exact hkeeps

/-- What has a property and what does not are apart. -/
theorem disjoint_filter_not {α : Type} (p : α → Bool) (l : List α) :
    (l.filter p).Disjoint (l.filter (!p ·)) := by
  intro a ha ha'
  have hnot := (List.mem_filter.1 ha').2
  rw [(List.mem_filter.1 ha).2] at hnot
  cases hnot

/-- Each member of a list either has a property or does not. -/
theorem xor_mem_filter {α : Type} (p : α → Bool) {l : List α} {a : α} (ha : a ∈ l) :
    Xor (a ∈ l.filter p) (a ∈ l.filter (!p ·)) := by
  rw [List.mem_filter, List.mem_filter]
  cases hp : p a with
  | true => exact .inl ⟨⟨ha, rfl⟩, by simp⟩
  | false => exact .inr ⟨⟨ha, rfl⟩, by simp⟩

/-- Whatever has been done with a search that parts queries at white space, let a standard yes/no
filter get no token of a query. Then one of its tags, in any spelling, at the end of the query finds
what the query finds after all tags are ended and the edit is made that leaves the leg of the tag
open, and that edit goes through. If the user has left both legs of the filter open, the two tags
part what the query finds, by what the filter is about: in the order of the catalog, and with each
item behind exactly one of them. What the filter is about is a field of the item, or its absence. -/
theorem search_legs (catalog : Catalog) (c : Settings) (calls : List Call)
    (hdelimiter : c.queryDelimiter = .whitespace) {B : YesNoFilter Item} (hB : B ∈ yesNoFilters)
    {query : String}
    (hquery : ∀ token ∈ Delimiter.whitespace.tokenize query,
      Sieve.place? ((new catalog c).run calls).sieve.filters token ≠
        ((new catalog c).run calls).sieve.index? B.name) :
    let s := (new catalog c).run calls
    let cleared := { s with sieve := s.sieve.clearTags }
    (B.name, B.holds) ∈ subjects ∧
      (B.Spells true B.yesTag ∧ B.Spells false B.noTag) ∧
      ∀ yes no, B.Spells true yes → B.Spells false no →
        let plain := (s.search query).answer
        let tagged := (s.search (query ++ " " ++ yes)).answer
        let untagged := (s.search (query ++ " " ++ no)).answer
        (∃ t, cleared.only B.name = .ok t ∧
            tagged.items = (t.search query).answer.items ∧
            tagged.query.terms = (t.search query).answer.query.terms) ∧
          (∃ t, cleared.exclude B.name = .ok t ∧
            untagged.items = (t.search query).answer.items ∧
            untagged.query.terms = (t.search query).answer.query.terms) ∧
          ∀ f, s.sieve.get? B.name = some (.yesNo f) → f.legs = .both →
            plain.items.Sublist catalog.items ∧
              tagged.items = plain.items.filter B.holds ∧
              untagged.items = plain.items.filter (!B.holds ·) ∧
              tagged.items.Disjoint untagged.items ∧
              ∀ r ∈ plain.items, Xor (r ∈ tagged.items) (r ∈ untagged.items) := by
  intro s cleared
  have hsubject : (B.name, B.holds) ∈ subjects := by
    rw [← holds_yesNoFilters]
    exact List.mem_map_of_mem hB
  refine ⟨hsubject, spells_tags hB, ?_⟩
  intro yes no hyes hno plain tagged untagged
  obtain ⟨honly, htagged⟩ :=
    search_leg catalog c calls hdelimiter hB hquery hyes YesNoFilter.opens_only
  obtain ⟨hexclude, huntagged⟩ :=
    search_leg catalog c calls hdelimiter hB hquery hno YesNoFilter.opens_exclude
  refine ⟨honly, hexclude, ?_⟩
  intro f hget hlegs
  have hyesHolds : tagged.items = plain.items.filter B.holds := by
    simpa only [beq_true] using htagged f hget hlegs
  have hnoHolds : untagged.items = plain.items.filter (!B.holds ·) := by
    simpa only [beq_false] using huntagged f hget hlegs
  refine ⟨?_, hyesHolds, hnoHolds, ?_⟩
  · have hcatalog : s.catalog = catalog := (sameMake_run (new catalog c) calls).1
    rw [← hcatalog, (s.search_answer query).1]
    exact List.filter_sublist
  · rw [hyesHolds, hnoHolds]
    exact ⟨disjoint_filter_not B.holds plain.items, fun r => xor_mem_filter B.holds⟩

/-- The filter on trade is about the absence of an attribute, and its tags part the rings for one
character as well, after a query with a tag of its own. -/
theorem search_legs_tradable :
    let catalog : Catalog := ⟨[{ Item.blank with name := "Ring" },
      { Item.blank with name := "Old Ring", isUntradable := true }, Item.blank],
      [⟨4, "Miqo'te", "Miqo'te", true, true⟩], [⟨0, [], false, true⟩]⟩
    let B : YesNoFilter Item :=
      .new "Tradable" "Tradable" "Not Tradable" (some Item.isUntradable) true
    let calls : List Call := [.exclude "unique", .search "nottradable"]
    let s := (new catalog .default).run calls
    let plain := (s.search "malemiqote ring").answer.items
    let tagged := (s.search ("malemiqote ring" ++ " " ++ "Tradable")).answer.items
    let untagged := (s.search ("malemiqote ring" ++ " " ++ "NOT'TRADABLE")).answer.items
    B ∈ yesNoFilters ∧
      (∀ token ∈ Delimiter.whitespace.tokenize "malemiqote ring",
        Sieve.place? s.sieve.filters token ≠ s.sieve.index? B.name) ∧
      (∃ t, only { s with sieve := s.sieve.clearTags } B.name = .ok t ∧
        tagged = (t.search "malemiqote ring").answer.items) ∧
      tagged = plain.filter (!·.isUntradable) ∧ untagged = plain.filter (·.isUntradable) ∧
      tagged.Disjoint untagged := by
  intro catalog B calls s plain tagged untagged
  have hrow : (⟨"Tradable", "Tradable", "Not Tradable", "IsUntradable", true⟩ : YesNoRow) ∈
      yesNoRows := by decide
  have hB : B ∈ yesNoFilters := List.mem_map_of_mem hrow
  have hquery : ∀ token ∈ Delimiter.whitespace.tokenize "malemiqote ring",
      Sieve.place? s.sieve.filters token ≠ s.sieve.index? B.name := by decide +kernel
  have hyes : B.Spells true "Tradable" := ⟨by decide +kernel, by decide +kernel⟩
  have hno : B.Spells false "NOT'TRADABLE" := ⟨by decide +kernel, by decide +kernel⟩
  have hneutral : (s.sieve.get? B.name).any (fun f => f.setting == .legs .both) = true := by
    decide +kernel
  have hholds : B.holds = (!·.isUntradable) := YesNoFilter.holds_eq rfl
  obtain ⟨f, hget, hboth⟩ := (Option.any_eq_true _ _).1 hneutral
  obtain ⟨-, -, hlegs⟩ := search_legs catalog .default calls rfl hB hquery
  have hs : (new catalog .default).run calls = s := rfl
  -- From here on the state is any, so that nothing evaluates the search that led to it.
  rw [hs] at hlegs
  clear_value s
  obtain ⟨⟨t, ht, hitems, -⟩, -, hpart⟩ := hlegs "Tradable" "NOT'TRADABLE" hyes hno
  cases f with
  | yesNo f =>
    have hlegs : f.legs = .both := Filter.Setting.legs.inj (beq_iff_eq.1 hboth)
    obtain ⟨-, htagged, huntagged, hdisjoint, -⟩ := hpart f hget hlegs
    rw [hholds] at htagged huntagged
    simp only [Bool.not_not] at huntagged
    exact ⟨hB, hquery, ⟨t, ht, hitems⟩, htagged, huntagged, hdisjoint⟩
  | patch f | raceSex f => cases beq_iff_eq.1 hboth

end ItemSearch

end ItemSieve
