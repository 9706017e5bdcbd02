import ItemSieve.Proofs.Query
import ItemSieve.Proofs.Sieve.Route
import ItemSieve.Proofs.Text.Case

/-!
# The tags of a filter work

The tags that a filter gives as its own are in normal form, and the normal form of such a text is
the text itself (`Tag.normal_normal`, `Filter.normal_of_mem_tags`). So the filter takes each of them
and does what it stands for (`Filter.claim_of_mem_tags`). A tag is also a single token where queries
are cut at white space, and so a query of a tag alone ends up with the filter that gave it, or with
one that comes before and takes the same tag (`Sieve.apply_tag`). The tag `self` is left out: what
it stands for depends on the character the user plays.
-/

namespace ItemSieve

variable {ρ : Type}

namespace Tag

/-! ## Normal forms -/

/-- Normal forms are made character by character. -/
theorem normal_append (s t : String) : normal (s ++ t) = normal s ++ normal t := by
  rw [normal, String.toList_append, normalChars, List.filter_append, Text.lower,
    List.flatMap_append, String.ofList_append]
  rfl

/-- What is in a normal form is neither white space nor an apostrophe. -/
theorem isDropped_of_mem_normalChars {s : List Char} {d : Char} (h : d ∈ normalChars s) :
    isDropped d = false := by
  obtain ⟨c, hc, hd⟩ := List.mem_flatMap.1 h
  rcases Text.lowerChar_eq c with hself | hsmall
  · rw [hself, List.mem_singleton] at hd
    rw [hd]
    simpa using (List.mem_filter.1 hc).2
  · have hd := hsmall d hd
    simp [isDropped, hd.notSpace, hd.notApostrophe]

/-- A text that is in normal form already is its own normal form. -/
theorem normalChars_normalChars (s : List Char) : normalChars (normalChars s) = normalChars s := by
  have hkept : (normalChars s).filter (!isDropped ·) = normalChars s :=
    List.filter_eq_self.2 fun d hd => by rw [isDropped_of_mem_normalChars hd]; rfl
  rw [normalChars, hkept, normalChars, Text.lower_lower]

/-- The normal form of a normal form is itself. -/
theorem normal_normal (s : String) : normal (normal s) = normal s := by
  rw [normal, normal, String.toList_ofList, normalChars_normalChars]

end Tag

/-- A text in normal form is a single token where queries are cut at white space, unless it is
empty. -/
theorem Delimiter.tokenize_of_normal {tag : String} (hnormal : Tag.normal tag = tag)
    (hne : tag ≠ "") : whitespace.tokenize tag = [tag] := by
  have huncut : ∀ c ∈ tag.toList, Text.isSpace c = false := by
    intro c hc
    rw [← hnormal, Tag.normal, String.toList_ofList] at hc
    have hdropped := Tag.isDropped_of_mem_normalChars hc
    simp only [Tag.isDropped, Bool.or_eq_false_iff] at hdropped
    exact hdropped.1.1
  have htoken : whitespace.IsToken tag.toList := by
    refine ⟨?_, ⟨?_, ?_⟩, huncut⟩
    · rwa [Ne, String.toList_eq_nil_iff]
    · exact fun c hc => huncut c (List.mem_of_mem_head? hc)
    · exact fun c hc => huncut c (List.mem_of_mem_getLast? hc)
  rw [tokenize, htoken.split_eq, List.map_singleton, String.ofList_toList]

namespace Filter

/-! ## One filter -/

/-- What a tag of the filter stands for is in force: of a yes/no filter only the leg is open that
the tag names, and in a race/sex filter the first option with the tag is selected, the choice of
nothing apart. -/
def Shows (tag : String) : Filter ρ → Prop
  | yesNo f =>
    tag = f.yesTag ∧ f.active = .only true ∨ tag = f.noTag ∧ f.active = .only false
  | patch _ => False
  | raceSex f => f.IsFirst (·.tag == tag) f.selected

/-- The tags of a filter are in normal form. -/
theorem normal_of_mem_tags {f : Filter ρ} {tag : String} (h : tag ∈ f.tags) :
    Tag.normal tag = tag := by
  cases f with
  | yesNo f =>
    rcases List.mem_pair.1 h with rfl | rfl
    · exact Tag.normal_normal f.name
    · have hnot : Tag.normal "not" = "not" := by decide +kernel
      rw [YesNoFilter.noTag, Tag.normal_append, hnot, YesNoFilter.yesTag, Tag.normal_normal]
  | patch f => cases h
  | raceSex f =>
    rcases List.mem_cons.1 h with rfl | h
    · decide +kernel
    · obtain ⟨o, -, rfl⟩ := List.mem_map.1 h
      exact Tag.normal_normal o.label

/-- A filter takes each of its tags but `self` and does what it stands for. -/
theorem claim_of_mem_tags {f : Filter ρ} {tag : String} (htag : tag ∈ f.tags)
    (hself : tag ≠ RaceSexFilter.selfTag) :
    (f.claim tag).1 = .claimed ∧ (f.claim tag).2.Shows tag := by
  have hnormal := normal_of_mem_tags htag
  cases f with
  | yesNo f =>
    rw [claim, YesNoFilter.claim, hnormal]
    rcases List.mem_pair.1 htag with rfl | rfl
    · rw [beq_self_eq_true, if_pos rfl, if_neg (by simpa using f.noTag_ne_yesTag.symm)]
      exact ⟨rfl, .inl ⟨rfl, rfl⟩⟩
    · rw [beq_self_eq_true, if_pos rfl]
      exact ⟨rfl, .inr ⟨rfl, rfl⟩⟩
  | patch f => cases htag
  | raceSex f =>
    obtain ⟨o, ho, hlabel⟩ := List.mem_map.1 ((List.mem_cons.1 htag).resolve_left hself)
    have hfound : (f.tagged? tag).isSome := by
      rw [RaceSexFilter.tagged?, RaceSexFilter.indexOf?, Option.isSome_map, List.findIdx?_isSome,
        List.any_eq_true]
      exact ⟨o, ho, beq_iff_eq.2 hlabel⟩
    obtain ⟨index, hindex⟩ := Option.isSome_iff_exists.1 hfound
    have hmeant : f.meant? tag = some index := by
      simp only [RaceSexFilter.meant?, hnormal, beq_eq_false_iff_ne.2 hself, Bool.false_eq_true,
        ↓reduceIte, hindex]
    rw [claim, RaceSexFilter.claim, hmeant, hnormal]
    refine ⟨?_, RaceSexFilter.isFirst_of_indexOf? hindex⟩
    simp [beq_eq_false_iff_ne.2 hself]

end Filter

namespace Sieve

/-! ## A query of a tag alone -/

/-- A token that the filter at a place takes is routed there or to a place before. -/
theorem exists_place?_le {fs : List (Filter ρ)} {token : String} {i : Nat} {f : Filter ρ}
    (hf : fs[i]? = some f) (htakes : f.takes token) :
    ∃ j g, j ≤ i ∧ fs[j]? = some g ∧ place? fs token = some j := by
  obtain ⟨hi, rfl⟩ := List.getElem?_eq_some_iff.1 hf
  have hsome : (place? fs token).isSome := by
    rw [place?, List.findIdx?_isSome, List.any_eq_true]
    exact ⟨fs[i], List.getElem_mem hi, htakes⟩
  obtain ⟨j, hj⟩ := Option.isSome_iff_exists.1 hsome
  obtain ⟨hlt, -, hmin⟩ := List.findIdx?_eq_some_iff_getElem.1 hj
  refine ⟨j, fs[j], ?_, List.getElem?_eq_getElem hlt, hj⟩
  by_contra hij
  exact hmin i (Nat.lt_of_not_le hij) htakes

/-- A query of one token that is not `self` in any spelling is claimed by the filter the token is
routed to, which then follows it. -/
theorem apply_single {s : Sieve ρ} {query token : String} {j : Nat} {g : Filter ρ}
    (htokens : s.delimiter.tokenize query = [token]) (hplace : place? s.filters token = some j)
    (hg : s.filters[j]? = some g) (hself : Tag.normal token ≠ RaceSexFilter.selfTag) :
    (s.apply query).1 = ⟨[], [⟨g.name, token⟩], []⟩ ∧
      ∃ g', (s.apply query).2.filters[j]? = some g' ∧ g'.Follows token := by
  have htakes := takes_of_place? hplace hg
  have hresolves : g.resolves token = false := by
    cases g with
    | yesNo g | patch g => rfl
    | raceSex g => exact beq_eq_false_iff_ne.2 hself
  have hreceiver : receiver? s.filters token = some g := by
    rw [receiver?, hplace, Option.bind_some, hg]
  have hrouted : s.routedTo query j = [token] := by
    rw [routedTo, htokens, List.filter_singleton, hplace, beq_self_eq_true, cond_true]
  constructor
  · rw [apply_fst, htokens]
    simp [hplace, use?, hreceiver, hresolves, Option.filter]
  · refine ⟨(g.clearTag.claim token).2, ?_, Filter.follows_claim ?_⟩
    · rw [getElem?_apply, hg, hrouted]
      rfl
    · rwa [Filter.takes_clearTag]

/-- The normal form of a normal form is itself, and because of that the tags of the filters work
where queries are cut at white space. A filter claims each tag that it gives as its own, `self` and
the empty text apart, whatever state it is in: a yes/no filter opens the leg that the tag names, and
a race/sex filter selects the first option with the tag. A query of the tag alone has no terms; the
tag is its only token and is claimed by that filter or by one before it, which then follows it. -/
theorem apply_tag {s : Sieve ρ} (hdelimiter : s.delimiter = .whitespace) {i : Nat} {f : Filter ρ}
    (hf : s.filters[i]? = some f) {tag : String} (htag : tag ∈ f.tags) (hne : tag ≠ "")
    (hself : tag ≠ RaceSexFilter.selfTag) :
    (∀ text, Tag.normal (Tag.normal text) = Tag.normal text) ∧
      (f.claim tag).1 = .claimed ∧ (f.claim tag).2.Shows tag ∧
      ∃ j g, j ≤ i ∧ s.filters[j]? = some g ∧ (s.apply tag).1 = ⟨[], [⟨g.name, tag⟩], []⟩ ∧
        ∃ g', (s.apply tag).2.filters[j]? = some g' ∧ g'.Follows tag := by
  have hnormal := Filter.normal_of_mem_tags htag
  obtain ⟨hclaimed, hshows⟩ := Filter.claim_of_mem_tags htag hself
  have htakes : f.takes tag := by
    rw [← Filter.isConsumed_claim, hclaimed]
    rfl
  have htokens : s.delimiter.tokenize tag = [tag] := by
    rw [hdelimiter, Delimiter.tokenize_of_normal hnormal hne]
  obtain ⟨j, g, hji, hg, hplace⟩ := exists_place?_le hf htakes
  refine ⟨Tag.normal_normal, hclaimed, hshows, j, g, hji, hg, ?_⟩
  exact apply_single htokens hplace hg (by rwa [hnormal])

/-- The label of an option may be the tag of a filter before. The race/sex filter still takes its
tag when it is offered it; in a query the other filter does. -/
theorem apply_tag_label :
    let unique : YesNoFilter Unit := .new "Unique" "Unique" "Not Unique" none false
    let races : List Race := [⟨3, "Not U'nique", "Not U'nique", true, false⟩,
      ⟨4, "NOT UNIQUE", "Miqo'te", true, false⟩]
    let raceSex : RaceSexFilter Unit := .new races ⟨fun _ => .ok 0, fun _ _ => .ok true⟩ none
    let s : Sieve Unit := ⟨[.yesNo unique, .raceSex raceSex], .whitespace⟩
    "notunique" ∈ raceSex.tags ∧ (raceSex.claim "notunique").1 = .claimed ∧
      (raceSex.claim "notunique").2.IsFirst (·.tag == "notunique") 1 ∧
      (s.apply "notunique").1 = ⟨[], [⟨"Unique", "notunique"⟩], []⟩ := by
  intro unique races raceSex s
  have htag : "notunique" ∈ (Filter.raceSex raceSex).tags := by decide +kernel
  have hf : s.filters[1]? = some (.raceSex raceSex) := rfl
  obtain ⟨-, hclaimed, hshows, j, g, hj, hg, happly, -⟩ :=
    apply_tag rfl hf htag (by decide) (by decide)
  have hselected : (raceSex.claim "notunique").2.selected = 1 := by decide +kernel
  have hfirst : (raceSex.claim "notunique").2.IsFirst (·.tag == "notunique")
      (raceSex.claim "notunique").2.selected := hshows
  rw [hselected] at hfirst
  refine ⟨htag, hclaimed, hfirst, ?_⟩
  have hname : (s.apply "notunique").1.claimed = [⟨"Unique", "notunique"⟩] := by decide +kernel
  rw [happly] at hname ⊢
  exact congrArg (ParsedQuery.mk [] · []) hname

end Sieve

end ItemSieve
