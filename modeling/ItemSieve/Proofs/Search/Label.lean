import ItemSieve.Proofs.Search.Refusal
import ItemSieve.Proofs.Text

/-!
# Choosing an option by a request and by a tag

A request for a race and a sex looks for the first option that its label names, and a tag for the
first one that its token means. The two part over `self` only: a request takes a label for `self`
when that is all there is but white space around it (`RaceSexFilter.saysSelf`), a tag when it has
the normal form of `self`, with white space and apostrophes left out wherever they stand. The first
implies the second (`RaceSexFilter.normal_of_saysSelf`), and not the other way round. So a request
and a tag resolve a text alike unless its normal form is `self` and it has more in it than white
space around `self`, and then only by chance (`ItemSearch.resolvesAlike_iff`).
-/

namespace ItemSieve

namespace RaceSexFilter

variable {ρ : Type}

/-! ## Labels that say `self` -/

/-- A character with a given small letter is that letter or its capital. -/
theorem eq_of_toLower {c d : Char} (h : c.toLower = d) : c = d ∨ c = Char.ofNat (d.toNat - 32) := by
  delta Char.toLower at h
  split at h
  · next hupper =>
    have hcode : d.toNat = c.toNat + 32 := by
      have hhigh : c.val.toNat ≤ 90 := hupper.2
      have hsum : (c.val + 32).toNat = (c.val.toNat + 32) % 2 ^ 32 := UInt32.toNat_add c.val 32
      rw [← h]
      exact hsum.trans (Nat.mod_eq_of_lt (by omega))
    right
    rw [hcode, Nat.add_sub_cancel, Char.ofNat_toNat]
  · exact .inl h

/-- The letters of `self` are in normal form, and so are their capitals in small letters. -/
theorem lowerChar_of_toLower {c d : Char} (hd : d ∈ selfTag.toList) (h : c.toLower = d) :
    Tag.isDropped c = false ∧ Text.lowerChar c = [d] := by
  have hall : selfTag.toList.all (fun d => [d, Char.ofNat (d.toNat - 32)].all fun c =>
      !Tag.isDropped c && Text.lowerChar c == [d]) = true := by decide +kernel
  have hc : c ∈ [d, Char.ofNat (d.toNat - 32)] := by
    rcases eq_of_toLower h with rfl | rfl
    · exact List.mem_cons_self
    · exact List.mem_cons_of_mem _ (List.mem_singleton_self _)
  simpa using List.all_eq_true.1 (List.all_eq_true.1 hall d hd) c hc

/-- A text in the letters of `self` has them as its normal form, whatever their case. -/
theorem normalChars_of_map_toLower {s ds : List Char} (hds : ∀ d ∈ ds, d ∈ selfTag.toList)
    (h : s.map Char.toLower = ds) : Tag.normalChars s = ds := by
  induction s generalizing ds with
  | nil => exact h
  | cons c s ih =>
    cases h
    obtain ⟨hkept, hlower⟩ := lowerChar_of_toLower (hds _ List.mem_cons_self) rfl
    have hrest := ih (fun d hd => hds d (List.mem_cons_of_mem _ hd)) rfl
    rw [Tag.normalChars, Text.lower] at hrest ⊢
    rw [List.filter_cons_of_pos (by simp [hkept]), List.flatMap_cons, hlower, hrest]
    rfl

/-- A label that says `self` has its normal form. -/
theorem normal_of_saysSelf {label : String} (h : saysSelf label = true) :
    Tag.normal label = selfTag := by
  have hletters : (Text.trim label.toList).map Char.toLower = selfTag.toList := by
    have h := eq_of_beq h
    rw [Text.trimmed, String.toList_ofList] at h
    exact h.trans (by decide)
  have hnormal : Tag.normalChars (Text.trim label.toList) = selfTag.toList :=
    normalChars_of_map_toLower (fun _ hd => hd) hletters
  have htrim : Tag.normalChars (Text.trim label.toList) = Tag.normalChars label.toList := by
    rw [Tag.normalChars, Tag.normalChars, Text.filter_trim fun c hc => by simp [Tag.isDropped, hc]]
  rw [Tag.normal, ← htrim, hnormal, String.ofList_toList]

/-! ## The option that a text comes to -/

/-- A request and a tag look for the same option, unless the text has the normal form of `self` and
does not say `self`. Then the request looks for a label and the tag for the character the user
plays. -/
theorem indexOf?_names_eq_meant? {f : RaceSexFilter ρ} {text : String} :
    f.indexOf? (f.names text) = f.meant? text ↔
      (Tag.normal text = selfTag → saysSelf text = true ∨ f.current? = f.tagged? selfTag) := by
  rw [indexOf?_names, meant?, find?]
  by_cases hnormal : Tag.normal text = selfTag
  · cases hself : saysSelf text with
    | true => simp [hnormal]
    | false => simp [hnormal, eq_comm]
  · cases hself : saysSelf text with
    | true => exact absurd (normal_of_saysSelf hself) hnormal
    | false => simp [hnormal]

/-- A token is consumed exactly if it means an option. -/
theorem isConsumed_claim (f : RaceSexFilter ρ) (token : String) :
    (f.claim token).1.isConsumed = (f.meant? token).isSome := by
  rw [claim]
  cases f.meant? token with
  | none => rfl
  | some index => cases Tag.normal token == selfTag <;> rfl

/-- A tag selects what its token means. -/
theorem selected_claim {f : RaceSexFilter ρ} {token : String} {index : Nat}
    (h : f.meant? token = some index) : (f.claim token).2.selected = index := by
  rw [claim, h]

end RaceSexFilter

namespace ItemSearch

/-- A request for a race and a sex by the text goes through exactly if the race/sex filter takes the
text as a tag, and then both come to the same option. -/
structure ResolvesAlike (s : ItemSearch) (f : RaceSexFilter Item) (text : String) : Prop where
  isOk : (s.selectRaceSex text).toOption.isSome = (f.claim text).1.isConsumed
  selected : ∀ t, s.selectRaceSex text = .ok t →
    ∃ g, t.sieve.get? RaceSexFilter.name = some (.raceSex g) ∧
      g.selected = (f.claim text).2.selected

/-- What a request for a race and a sex comes to while no tag is in force. -/
theorem selectRaceSex_eq {s : ItemSearch} {f : RaceSexFilter Item}
    (hget : s.sieve.get? RaceSexFilter.name = some (.raceSex f)) (hf : f.fromTag = false)
    (label : String) :
    s.selectRaceSex label =
      match f.indexOf? (f.names label) with
      | some index => .ok (s.put RaceSexFilter.name (.raceSex { f with selected := index }))
      | none => .error (.request
          (if RaceSexFilter.saysSelf label then .noCharacter else .unknownRaceSex label)) := by
  rw [selectRaceSex, request, filter, hget]
  simp only [bind, Except.bind, raceSexStep_eq, hf]
  cases f.indexOf? (f.names label) <;> rfl

/-- While no tag is in force, a request and a tag come to the same exactly if they look for the same
option. -/
theorem resolvesAlike_iff_indexOf? {s : ItemSearch} {f : RaceSexFilter Item}
    (hget : s.sieve.get? RaceSexFilter.name = some (.raceSex f)) (hf : f.fromTag = false)
    (text : String) :
    s.ResolvesAlike f text ↔ f.indexOf? (f.names text) = f.meant? text := by
  have hrequest := selectRaceSex_eq hget hf text
  have hput (index : Nat) : (s.put RaceSexFilter.name
      (.raceSex { f with selected := index })).sieve.get? RaceSexFilter.name =
        some (.raceSex { f with selected := index }) := Sieve.get?_put hget rfl
  constructor
  · rintro ⟨hok, hselected⟩
    rw [f.isConsumed_claim] at hok
    cases hnamed : f.indexOf? (f.names text) with
    | none =>
      rw [hrequest, hnamed] at hok
      exact (Option.isNone_iff_eq_none.1 (Option.isSome_eq_false_iff.1 hok.symm)).symm
    | some index =>
      rw [hnamed] at hrequest
      rw [hrequest] at hok
      obtain ⟨index', hmeant⟩ := Option.isSome_iff_exists.1 hok.symm
      obtain ⟨g, hg, hindex⟩ := hselected _ hrequest
      cases (hput index).symm.trans hg
      rw [RaceSexFilter.selected_claim hmeant] at hindex
      rw [hmeant, ← hindex]
  · intro h
    rw [h] at hrequest
    cases hmeant : f.meant? text with
    | none =>
      rw [hmeant] at hrequest
      refine ⟨by rw [hrequest, f.isConsumed_claim, hmeant]; rfl, ?_⟩
      intro t ht
      rw [hrequest] at ht
      cases ht
    | some index =>
      rw [hmeant] at hrequest
      refine ⟨by rw [hrequest, f.isConsumed_claim, hmeant]; rfl, ?_⟩
      intro t ht
      rw [hrequest] at ht
      cases ht
      exact ⟨_, hput index, (RaceSexFilter.selected_claim hmeant).symm⟩

/-- Whatever has been done with a search, as long as no tag of the race/sex filter is in force: a
request for a race and a sex and a tag of the same text come to the same, unless the text has the
normal form of `self` and more in it than white space around `self`. Such a text is the label of an
option for the request and the character the user plays for the tag, so the two come to the same
only if these are the same option, or if neither is there. -/
theorem resolvesAlike_iff (catalog : Catalog) (c : Settings) (calls : List Call)
    {f : RaceSexFilter Item}
    (hget : ((new catalog c).run calls).sieve.get? RaceSexFilter.name = some (.raceSex f))
    (hf : f.fromTag = false) (text : String) :
    ((new catalog c).run calls).ResolvesAlike f text ↔
      (Tag.normal text = RaceSexFilter.selfTag → RaceSexFilter.saysSelf text = true ∨
        f.current? = f.tagged? RaceSexFilter.selfTag) := by
  rw [resolvesAlike_iff_indexOf? hget hf, RaceSexFilter.indexOf?_names_eq_meant?]

/-- Capitals in `self` and white space around it do no harm to either path. -/
theorem resolvesAlike_spaced_self :
    let catalog : Catalog := ⟨[], [⟨4, "Miqo'te", "Miqo'te", true, true⟩], []⟩
    let settings : Settings := { Settings.default with selfRace := some 4, selfSex := some .female }
    let s := (new catalog settings).run [.search "malemiqote", .sieve .clearTags]
    ∃ f : RaceSexFilter Item, s.sieve.get? RaceSexFilter.name = some (.raceSex f) ∧
      f.fromTag = false ∧ s.ResolvesAlike f " SeLF " := by
  intro catalog settings s
  obtain ⟨f, hget, -⟩ := exists_raceSex catalog settings [.search "malemiqote", .sieve .clearTags]
  have huntagged : (s.sieve.get? RaceSexFilter.name).all (!·.fromTag) = true := by decide +kernel
  have hf : f.fromTag = false := by
    rw [hget, Option.all_some, Bool.not_eq_true'] at huntagged
    exact huntagged
  refine ⟨f, hget, hf, (resolvesAlike_iff catalog settings _ hget hf _).2 ?_⟩
  intro _
  exact .inl (by decide +kernel)

/-- A blank inside `self` parts the two: a tag takes the text for the character the user plays, and
a request looks for a label and is refused. -/
theorem not_resolvesAlike_parted_self :
    let catalog : Catalog := ⟨[], [⟨4, "Miqo'te", "Miqo'te", true, true⟩], []⟩
    let settings : Settings := { Settings.default with selfRace := some 4, selfSex := some .female }
    let s := new catalog settings
    let f : RaceSexFilter Item := .new catalog.races catalog.rules settings.character
    s.sieve.get? RaceSexFilter.name = some (.raceSex f) ∧ f.fromTag = false ∧
      (f.claim "s elf").1 = .resolved ∧
      s.selectRaceSex "s elf" = .error (.request (.unknownRaceSex "s elf")) ∧
      ¬ s.ResolvesAlike f "s elf" := by
  intro catalog settings s f
  have hget : s.sieve.get? RaceSexFilter.name = some (.raceSex f) :=
    find?_raceSex catalog settings.character
  have hclaim : (f.claim "s elf").1 = .resolved := by decide +kernel
  have hrefused : s.selectRaceSex "s elf" = .error (.request (.unknownRaceSex "s elf")) := by
    have hnamed : f.indexOf? (f.names "s elf") = none := by decide +kernel
    have hself : RaceSexFilter.saysSelf "s elf" = false := by decide +kernel
    rw [selectRaceSex_eq hget rfl, hnamed, hself]
    rfl
  refine ⟨hget, rfl, hclaim, hrefused, ?_⟩
  intro halike
  have hok := halike.isOk
  rw [hrefused, hclaim] at hok
  cases hok

end ItemSearch

end ItemSieve
