import ItemSieve.Filter.Patch
import ItemSieve.Proofs.Keys
import ItemSieve.Proofs.Patch.Arrange

/-!
# Patches chosen one after another

Texts are given to a patch filter one after another, and the row that each one means is selected
(`PatchFilter.choose`). In a table whose rows can be told apart (`Patch.Distinct`) the selection
covers the texts (`PatchFilter.Covers`): it is arranged, and it consists of the patches that one of
the texts means, by themselves or by the header of their expansion. One more text keeps this
(`PatchFilter.Covers.choose`), so it holds of a whole run of texts (`PatchFilter.Covers.foldl`). The
selection is determined by it, whatever the order and the number of the texts
(`PatchFilter.Covers.selected_eq`).
-/

namespace ItemSieve

/-- Rows are told apart by their numbers, and those that are no headers also by their names and by
their short names. -/
structure Patch.Distinct (table : List Patch) : Prop where
  ids : (table.map (·.id)).Nodup
  names : ((table.filter (!·.expansion)).map (·.name)).Nodup
  shortNames : ((table.filter (!·.expansion)).map (·.shortName)).Nodup

/-- The row is a patch that can be selected: neither a header nor the sentinel. -/
structure Patch.Offered (table : List Patch) (e : Patch) : Prop where
  mem : e ∈ table
  release : e.expansion = false
  chosen : e.isSentinel = false

namespace Patch

/-- The rows of the built-in table can be told apart. -/
theorem distinct_table : Distinct table where
  ids := by decide +kernel
  names := by decide +kernel
  shortNames := by decide +kernel

variable {table : List Patch} {e p : Patch}

/-- A patch that can be selected is among the rows that are no headers. -/
theorem Offered.mem_filter (h : Offered table e) : e ∈ table.filter (!·.expansion) :=
  List.mem_filter.2 ⟨h.mem, by rw [h.release]; rfl⟩

/-- Patches that can be selected are the same if their names are. -/
theorem Offered.eq_of_name (hd : Distinct table) (he : Offered table e) (hp : Offered table p)
    (h : e.name = p.name) : e = p :=
  eq_of_key name hd.names he.mem_filter hp.mem_filter h

/-- Patches that can be selected are the same if their short names are. -/
theorem Offered.eq_of_shortName (hd : Distinct table) (he : Offered table e)
    (hp : Offered table p) (h : e.shortName = p.shortName) : e = p :=
  eq_of_key shortName hd.shortNames he.mem_filter hp.mem_filter h

/-- A header stands for the patches of its group that can be selected. -/
theorem mem_members : e ∈ members table p ↔ Offered table e ∧ e.group = p.group := by
  simp only [members, List.mem_filter, Bool.and_eq_true, Bool.not_eq_true', beq_iff_eq]
  exact ⟨fun ⟨hmem, ⟨hr, hs⟩, hg⟩ => ⟨⟨hmem, hr, hs⟩, hg⟩,
    fun ⟨⟨hmem, hr, hs⟩, hg⟩ => ⟨hmem, ⟨hr, hs⟩, hg⟩⟩

/-- No name occurs twice in an expansion. -/
theorem nodup_members (hd : Distinct table) (p : Patch) :
    ((members table p).map (·.name)).Nodup := by
  have hmembers : members table p =
      (table.filter (!·.expansion)).filter fun q => !q.isSentinel && q.group == p.group := by
    rw [List.filter_filter, members]
    exact List.filter_congr fun q _ => by rw [Bool.and_assoc, Bool.and_comm]
  rw [hmembers]
  exact (List.filter_sublist.map _).nodup hd.names

end Patch

namespace PatchFilter

variable {ρ : Type} {f g : PatchFilter ρ} {text : String} {texts : List String} {e p : Patch}

/-! ## The row that a text means -/

/-- A text means a row of the table, and never the sentinel. -/
theorem mem_of_find? (h : f.find? text = some p) : p ∈ f.table ∧ p.isSentinel = false := by
  rcases Option.or_eq_some_iff.1 h with hname | ⟨-, hid⟩
  · have hp := List.find?_some hname
    rw [Bool.and_eq_true, Bool.not_eq_true'] at hp
    exact ⟨List.mem_of_find?_eq_some hname, hp.1⟩
  · obtain ⟨hword, hp⟩ := Option.filter_eq_some_iff.1 hid
    obtain ⟨n, -, hentry⟩ := Option.bind_eq_some_iff.1 hword
    exact ⟨List.mem_of_find?_eq_some hentry, by simpa using hp⟩

/-- Filters over the same table find the same row for a text. -/
theorem find?_congr (h : g.table = f.table) (text : String) : g.find? text = f.find? text := by
  have hentry : g.entry? = f.entry? := by
    unfold entry?
    rw [h]
  rw [find?, find?, hentry, h]

/-- The text means the patch, or the header of its expansion. -/
def Means (f : PatchFilter ρ) (text : String) (e : Patch) : Prop :=
  ∃ p, f.find? text = some p ∧ (p = e ∨ p.expansion = true ∧ p.group = e.group)

/-! ## The choice of a text -/

/-- The filter after the choice of a text, apart from what it remembers for polls. A text that means
no row changes nothing. -/
def choose (f : PatchFilter ρ) (text : String) : PatchFilter ρ :=
  { ((f.find? text).bind fun p => f.select p.id).getD f with altered := false }

/-- The selection after the choice of a row. -/
def chosen (f : PatchFilter ρ) (p : Patch) : List Patch :=
  if p.expansion then Patch.arrange (f.expand p)
  else if f.holds p.name then f.selected
  else Patch.arrange (f.selected ++ [p])

/-- To commit rows is to select them in order, apart from whether it is noted. -/
theorem commit_getD (f : PatchFilter ρ) (rows : List Patch) (b : Bool) :
    { (f.commit rows).getD f with altered := b } =
      { f with selected := Patch.arrange rows, altered := b } := by
  simp only [commit]
  by_cases h : (Patch.arrange rows == f.selected) = true
  · rw [if_pos h, eq_of_beq h, Option.getD_none]
  · rw [if_neg h, Option.getD_some]

/-- A text that means no row leaves the selection as it is. -/
theorem choose_of_none (h : f.find? text = none) : f.choose text = { f with altered := false } := by
  rw [choose, h]
  rfl

/-- A text that means a row makes the selection that its choice makes. -/
theorem choose_of_some (hd : Patch.Distinct f.table) (h : f.find? text = some p) :
    f.choose text = { f with selected := f.chosen p, altered := false } := by
  have hentry : f.entry? p.id = some p := find?_key Patch.id hd.ids (mem_of_find? h).1
  rw [choose, h, Option.bind_some, select, add, hentry, Option.bind_some, chosen]
  split
  · exact f.commit_getD _ false
  · split
    · rfl
    · exact f.commit_getD _ false

/-- The choice of a text leaves the table and the version of a record as they are. -/
theorem table_choose (hd : Patch.Distinct f.table) (text : String) :
    (f.choose text).table = f.table ∧ (f.choose text).version = f.version := by
  cases h : f.find? text with
  | none =>
    rw [choose_of_none h]
    exact ⟨rfl, rfl⟩
  | some p =>
    rw [choose_of_some hd h]
    exact ⟨rfl, rfl⟩

/-! ## What the selection covers -/

/-- The selection is arranged and consists of the patches that one of the texts means. -/
structure Covers (f : PatchFilter ρ) (texts : List String) : Prop where
  arranged : Patch.Arranged f.selected
  mem : ∀ e, e ∈ f.selected ↔ Patch.Offered f.table e ∧ ∃ text ∈ texts, f.Means text e

/-- The selection of a new filter is empty, and covers no texts. -/
theorem covers_new (table : List Patch) (version : ρ → String) : (new table version).Covers [] where
  arranged := Patch.arranged_nil
  mem _ := ⟨nofun, nofun⟩

/-- Every row of a selection that covers some texts is a patch that can be selected. -/
theorem Covers.offers (h : f.Covers texts) (he : e ∈ f.selected) : Patch.Offered f.table e :=
  ((h.mem e).1 he).1

namespace Covers

/-- No slot is empty, so nothing is dropped before an expansion is added. -/
theorem expand_eq (h : f.Covers texts) (p : Patch) :
    f.expand p = f.selected ++
      Patch.firstOfName (f.selected.map (·.name)) (Patch.members f.table p) := by
  have hkept : f.selected.filter (!·.isSentinel) = f.selected := by
    rw [List.filter_eq_self]
    intro e he
    rw [(h.offers he).chosen]
    rfl
  rw [expand, hkept, Patch.appendMissing_eq]

/-- An expansion is added in whole: a patch of it whose name is selected already is selected
itself. -/
theorem mem_expand (h : f.Covers texts) (hd : Patch.Distinct f.table) :
    e ∈ f.expand p ↔ e ∈ f.selected ∨ Patch.Offered f.table e ∧ e.group = p.group := by
  rw [h.expand_eq, List.mem_append]
  constructor
  · rintro (he | he)
    · exact .inl he
    · exact .inr (Patch.mem_members.1 (Patch.mem_of_mem_firstOfName he))
  · rintro (he | he)
    · exact .inl he
    · by_cases hname : e.name ∈ f.selected.map (·.name)
      · obtain ⟨q, hq, hqe⟩ := List.mem_map.1 hname
        exact .inl ((h.offers hq).eq_of_name hd he.1 hqe ▸ hq)
      · refine .inr (Patch.mem_firstOfName.2 ⟨hname, ?_⟩)
        exact find?_key Patch.name (Patch.nodup_members hd p) (Patch.mem_members.2 he)

/-- No name occurs twice in a selection with an expansion added. -/
theorem nodup_expand (h : f.Covers texts) (p : Patch) :
    ((f.expand p).map (·.name)).Nodup := by
  rw [h.expand_eq]
  exact Patch.nodup_append_firstOfName h.arranged.names _

/-- The choice of a header adds the patches of its expansion. -/
theorem mem_chosen_header (h : f.Covers texts) (hd : Patch.Distinct f.table)
    (hp : p.expansion = true) :
    e ∈ f.chosen p ↔ e ∈ f.selected ∨ Patch.Offered f.table e ∧ e.group = p.group := by
  have hreleases : ∀ e ∈ f.expand p, e.expansion = false := by
    intro e he
    rcases (h.mem_expand hd).1 he with he | he
    · exact (h.offers he).release
    · exact he.1.release
  rw [chosen, if_pos hp, (Patch.arrange_perm hreleases (h.nodup_expand p)).mem_iff, h.mem_expand hd]

/-- The choice of a patch adds it: if its name is selected already, it is selected itself. -/
theorem mem_chosen_release (h : f.Covers texts) (hd : Patch.Distinct f.table)
    (hp : Patch.Offered f.table p) : e ∈ f.chosen p ↔ e ∈ f.selected ∨ e = p := by
  rw [chosen, if_neg (Bool.not_eq_true _ ▸ hp.release)]
  split
  · next hholds =>
    obtain ⟨q, hq, hname⟩ := List.any_eq_true.1 hholds
    obtain rfl : q = p := (h.offers hq).eq_of_name hd hp (eq_of_beq hname)
    exact ⟨.inl, fun he => he.elim id fun he => he ▸ hq⟩
  · next hholds =>
    have hnew : p.name ∉ f.selected.map (·.name) := by simpa [holds] using hholds
    rw [(h.arranged.arrange_append hp.release hnew).mem_iff, List.mem_append, List.mem_singleton]

/-- The choice of a text adds the patches that it means. -/
theorem mem_chosen (h : f.Covers texts) (hd : Patch.Distinct f.table)
    (hp : f.find? text = some p) :
    e ∈ f.chosen p ↔ e ∈ f.selected ∨ Patch.Offered f.table e ∧ f.Means text e := by
  have hmeans : f.Means text e ↔ p = e ∨ p.expansion = true ∧ p.group = e.group := by
    rw [Means, hp]
    exact ⟨fun ⟨q, hq, h⟩ => Option.some.inj hq ▸ h, fun h => ⟨p, rfl, h⟩⟩
  obtain ⟨hmem, hsentinel⟩ := mem_of_find? hp
  rw [hmeans]
  cases hexpansion : p.expansion with
  | true =>
    rw [h.mem_chosen_header hd hexpansion]
    refine or_congr_right (and_congr_right fun he => ?_)
    have hne : p ≠ e := by
      rintro rfl
      rw [he.release] at hexpansion
      cases hexpansion
    simp [hne, eq_comm]
  | false =>
    have hoffers : Patch.Offered f.table p := ⟨hmem, hexpansion, hsentinel⟩
    rw [h.mem_chosen_release hd hoffers]
    refine or_congr_right ?_
    constructor
    · rintro rfl
      exact ⟨hoffers, .inl rfl⟩
    · rintro ⟨-, rfl | ⟨⟨⟩, -⟩⟩
      rfl

/-- The choice of a row leaves the selection arranged. -/
theorem arranged_chosen (h : f.Covers texts) (p : Patch) : Patch.Arranged (f.chosen p) := by
  unfold chosen
  split
  · exact Patch.arranged_arrange _
  · split
    · exact h.arranged
    · exact Patch.arranged_arrange _

/-- After the choice of one more text the selection covers that one, too. -/
theorem choose (h : f.Covers texts) (hd : Patch.Distinct f.table) (text : String) :
    (f.choose text).Covers (texts ++ [text]) := by
  have hmeans (e : Patch) : (∃ t ∈ texts ++ [text], f.Means t e) ↔
      (∃ t ∈ texts, f.Means t e) ∨ f.Means text e := by
    simp only [List.mem_append, List.mem_singleton, or_and_right, exists_or, exists_eq_left]
  cases hp : f.find? text with
  | none =>
    have hnone (e : Patch) : ¬ f.Means text e := by
      rintro ⟨p, hsome, -⟩
      rw [hp] at hsome
      cases hsome
    rw [choose_of_none hp]
    refine ⟨h.arranged, fun e => (h.mem e).trans (and_congr_right fun _ => ?_)⟩
    exact (or_iff_left (hnone e)).symm.trans (hmeans e).symm
  | some p =>
    rw [choose_of_some hd hp]
    refine ⟨h.arranged_chosen p, fun e => (h.mem_chosen hd hp).trans ?_⟩
    rw [h.mem, ← and_or_left]
    exact and_congr_right fun _ => (hmeans e).symm

/-- The selection covers all texts that are chosen one after another. -/
theorem foldl (h : f.Covers texts) (hd : Patch.Distinct f.table) (later : List String) :
    (later.foldl PatchFilter.choose f).Covers (texts ++ later) ∧
      (later.foldl PatchFilter.choose f).table = f.table ∧
      (later.foldl PatchFilter.choose f).version = f.version := by
  induction later generalizing f texts with
  | nil => exact ⟨by rwa [List.append_nil], rfl, rfl⟩
  | cons text later ih =>
    obtain ⟨htable, hversion⟩ := table_choose hd text
    obtain ⟨hcovers, htable', hversion'⟩ := ih (h.choose hd text) (htable.symm ▸ hd)
    rw [List.append_assoc, List.singleton_append] at hcovers
    exact ⟨hcovers, htable'.trans htable, hversion'.trans hversion⟩

/-! ## What follows from it -/

/-- The short names go down, and none occurs twice. -/
theorem pairwise_lt (h : f.Covers texts) (hd : Patch.Distinct f.table) :
    f.selected.Pairwise fun p q => q.shortName < p.shortName := by
  have hnames := List.pairwise_map.1 h.arranged.names
  refine (h.arranged.latest.and hnames).imp_of_mem ?_
  intro p q hp hq ⟨hle, hne⟩
  refine Decidable.not_not.1 fun hnlt => hne ?_
  have hshort : p.shortName = q.shortName := String.le_antisymm (String.not_lt.1 hnlt) hle
  rw [(h.offers hp).eq_of_shortName hd (h.offers hq) hshort]

/-- What a selection covers determines it. -/
theorem selected_eq (h : f.Covers texts) {texts' : List String} (h' : g.Covers texts')
    (hd : Patch.Distinct f.table) (htable : g.table = f.table)
    (htexts : ∀ text, text ∈ texts' ↔ text ∈ texts) : g.selected = f.selected := by
  have hperm : g.selected.Perm f.selected := by
    rw [List.perm_ext_iff_of_nodup h'.arranged.nodup h.arranged.nodup]
    intro e
    simp only [h.mem, h'.mem, htable, htexts, Means, find?_congr htable]
  refine hperm.eq_of_pairwise ?_ (h'.pairwise_lt (htable.symm ▸ hd)) (h.pairwise_lt hd)
  intro p q _ _ hpq hqp
  exact absurd hqp (String.lt_asymm hpq)

end Covers

end PatchFilter

end ItemSieve
