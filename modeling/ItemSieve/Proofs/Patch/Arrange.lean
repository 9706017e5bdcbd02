import Mathlib.Data.List.Nodup
import ItemSieve.Patch.Basic

/-!
# Rows in the order of a selection

`Patch.arrange` drops the headers, keeps the first row of each name and puts the latest short names
first; what it makes is arranged (`Patch.arranged_arrange`). Rows of different names, none of them a
header, only change their order (`Patch.arrange_perm`).
-/

namespace ItemSieve.Patch

/-! ## The first row of each name -/

/-- A row is kept if its name is not among those seen and it is the first one of that name. -/
theorem mem_firstOfName {seen : List String} {rows : List Patch} {p : Patch} :
    p ∈ firstOfName seen rows ↔
      p.name ∉ seen ∧ rows.find? (fun q => q.name == p.name) = some p := by
  induction rows generalizing seen with
  | nil => simp [firstOfName]
  | cons q rest ih =>
    simp only [firstOfName, List.contains_eq_mem, decide_eq_true_eq, List.find?_cons]
    by_cases hseen : q.name ∈ seen
    · rw [if_pos hseen, ih]
      refine and_congr_right fun hp => ?_
      have hne : q.name ≠ p.name := fun h => hp (h ▸ hseen)
      rw [beq_false_of_ne hne]
    · rw [if_neg hseen, List.mem_cons, ih, List.mem_cons, not_or]
      by_cases hname : q.name = p.name
      · rw [beq_iff_eq.2 hname]
        constructor
        · rintro (rfl | ⟨⟨hne, -⟩, -⟩)
          · exact ⟨hseen, rfl⟩
          · exact absurd hname.symm hne
        · rintro ⟨-, ⟨⟩⟩
          exact .inl rfl
      · rw [beq_false_of_ne hname]
        constructor
        · rintro (rfl | ⟨⟨-, hp⟩, hfind⟩)
          · exact absurd rfl hname
          · exact ⟨hp, hfind⟩
        · rintro ⟨hp, hfind⟩
          exact .inr ⟨⟨Ne.symm hname, hp⟩, hfind⟩

/-- Every row that is kept is one of the rows. -/
theorem mem_of_mem_firstOfName {seen : List String} {rows : List Patch} {p : Patch}
    (h : p ∈ firstOfName seen rows) : p ∈ rows :=
  List.mem_of_find?_eq_some (mem_firstOfName.1 h).2

/-- No name is kept twice. -/
theorem nodup_firstOfName (seen : List String) (rows : List Patch) :
    ((firstOfName seen rows).map (·.name)).Nodup := by
  induction rows generalizing seen with
  | nil => exact .nil
  | cons p rest ih =>
    rw [firstOfName]
    split
    · exact ih seen
    · refine List.nodup_cons.2 ⟨fun hmem => ?_, ih _⟩
      obtain ⟨q, hq, hname⟩ := List.mem_map.1 hmem
      exact (mem_firstOfName.1 hq).1 (hname ▸ List.mem_cons_self)

/-- Rows of different names, none of them seen, are all kept. -/
theorem firstOfName_eq_self {seen : List String} {rows : List Patch}
    (h : (rows.map (·.name)).Nodup) (hseen : ∀ p ∈ rows, p.name ∉ seen) :
    firstOfName seen rows = rows := by
  induction rows generalizing seen with
  | nil => rfl
  | cons p rest ih =>
    rw [List.map_cons, List.nodup_cons] at h
    obtain ⟨hnew, hrest⟩ := h
    have hp : seen.contains p.name = false := by simpa using hseen p List.mem_cons_self
    rw [firstOfName, hp, if_neg Bool.false_ne_true, ih hrest]
    intro q hq hmem
    rcases List.mem_cons.1 hmem with hname | hmem
    · exact hnew (hname ▸ List.mem_map_of_mem hq)
    · exact hseen q (List.mem_cons_of_mem p hq) hmem

/-- Nothing is left of rows whose names have all been seen. -/
theorem firstOfName_eq_nil {seen : List String} {rows : List Patch}
    (h : ∀ p ∈ rows, p.name ∈ seen) : firstOfName seen rows = [] := by
  refine List.eq_nil_iff_forall_not_mem.2 fun p hp => ?_
  exact (mem_firstOfName.1 hp).1 (h p (mem_of_mem_firstOfName hp))

/-- Each name of the rows has been seen, or a row of that name is kept. -/
theorem name_mem_of_mem {seen : List String} {rows : List Patch} {p : Patch} (h : p ∈ rows) :
    p.name ∈ seen ∨ p.name ∈ (firstOfName seen rows).map (·.name) := by
  by_cases hseen : p.name ∈ seen
  · exact .inl hseen
  · have hsome : (rows.find? fun q => q.name == p.name).isSome :=
      List.find?_isSome.2 ⟨p, h, beq_self_eq_true p.name⟩
    obtain ⟨q, hq⟩ := Option.isSome_iff_exists.1 hsome
    have hbeq := List.find?_some hq
    have hname : q.name = p.name := eq_of_beq hbeq
    refine .inr (List.mem_map.2 ⟨q, mem_firstOfName.2 ?_, hname⟩)
    rw [hname]
    exact ⟨hseen, hq⟩

/-- No name occurs twice when the first rows of the other names are added. -/
theorem nodup_append_firstOfName {kept : List Patch} (h : (kept.map (·.name)).Nodup)
    (rows : List Patch) :
    ((kept ++ firstOfName (kept.map (·.name)) rows).map (·.name)).Nodup := by
  rw [List.map_append, List.nodup_append]
  refine ⟨h, nodup_firstOfName _ _, ?_⟩
  intro n hn m hm hnm
  obtain ⟨q, hq, rfl⟩ := List.mem_map.1 hm
  exact (mem_firstOfName.1 hq).1 (hnm ▸ hn)

/-- The order of the names seen does not matter. -/
theorem firstOfName_congr {seen seen' : List String} (h : ∀ n, n ∈ seen ↔ n ∈ seen')
    (rows : List Patch) : firstOfName seen rows = firstOfName seen' rows := by
  induction rows generalizing seen seen' with
  | nil => rfl
  | cons p rest ih =>
    have hcons (n : String) : n ∈ p.name :: seen ↔ n ∈ p.name :: seen' := by
      rw [List.mem_cons, List.mem_cons, h]
    simp only [firstOfName, List.contains_eq_mem, h, ih h, ih hcons]

/-- What is appended are the first rows of the names that do not occur. -/
theorem appendMissing_eq (kept rows : List Patch) :
    appendMissing kept rows = kept ++ firstOfName (kept.map (·.name)) rows := by
  induction rows generalizing kept with
  | nil => exact (List.append_nil kept).symm
  | cons p rest ih =>
    have hany : kept.any (·.name == p.name) = (kept.map (·.name)).contains p.name := by
      rw [Bool.eq_iff_iff]
      simp
    have hnames (n : String) :
        n ∈ (kept ++ [p]).map (·.name) ↔ n ∈ p.name :: kept.map (·.name) := by
      simp [or_comm]
    rw [appendMissing, firstOfName, hany, ih, ih, firstOfName_congr hnames]
    split
    · rfl
    · rw [List.append_assoc, List.singleton_append]

/-! ## Arranged rows -/

/-- No headers, no name twice, and the latest short names first. -/
structure Arranged (rows : List Patch) : Prop where
  releases : ∀ p ∈ rows, p.expansion = false
  names : (rows.map (·.name)).Nodup
  latest : rows.Pairwise fun p q => q.shortName ≤ p.shortName

/-- The empty selection is arranged. -/
theorem arranged_nil : Arranged [] :=
  ⟨nofun, .nil, .nil⟩

/-- No row occurs twice among arranged ones. -/
theorem Arranged.nodup {rows : List Patch} (h : Arranged rows) : rows.Nodup :=
  List.Pairwise.of_map name (fun _ _ hne heq => hne (congrArg name heq)) h.names

/-- The later short name comes first. -/
theorem not_decide_lt_iff {p q : Patch} :
    (!decide (p.shortName < q.shortName)) = true ↔ q.shortName ≤ p.shortName := by
  rw [Bool.not_eq_true', decide_eq_false_iff_not, String.not_lt]

/-- Arranged are the rows that are no headers, the first one of each name. -/
theorem perm_arrange (rows : List Patch) :
    (arrange rows).Perm (firstOfName [] (rows.filter (!·.expansion))) :=
  List.mergeSort_perm _ _

/-- Whatever the rows, what is made of them is arranged. -/
theorem arranged_arrange (rows : List Patch) : Arranged (arrange rows) where
  releases p hp := by
    have hmem := mem_of_mem_firstOfName ((perm_arrange rows).mem_iff.1 hp)
    simpa using (List.mem_filter.1 hmem).2
  names := ((perm_arrange rows).map _).nodup_iff.2 (nodup_firstOfName [] _)
  latest := by
    refine (List.pairwise_mergeSort ?_ ?_ _).imp not_decide_lt_iff.1
    · intro p q r
      simp only [not_decide_lt_iff]
      exact fun hpq hqr => String.le_trans hqr hpq
    · intro p q
      rw [Bool.or_eq_true, not_decide_lt_iff, not_decide_lt_iff]
      exact String.le_total _ _

/-- Where there are no headers, none is dropped. -/
theorem filter_expansion_eq_self {rows : List Patch} (h : ∀ p ∈ rows, p.expansion = false) :
    rows.filter (!·.expansion) = rows := by
  rw [List.filter_eq_self]
  intro p hp
  rw [h p hp]
  rfl

/-- Rows of different names, none of them a header, are only sorted. -/
theorem arrange_eq_mergeSort {rows : List Patch} (hreleases : ∀ p ∈ rows, p.expansion = false)
    (hnames : (rows.map (·.name)).Nodup) :
    arrange rows = rows.mergeSort fun p q => !decide (p.shortName < q.shortName) := by
  have hfirst : firstOfName [] rows = rows := firstOfName_eq_self hnames fun _ _ => List.not_mem_nil
  rw [arrange, filter_expansion_eq_self hreleases, hfirst]

/-- Rows of different names, none of them a header, only change their order. -/
theorem arrange_perm {rows : List Patch} (hreleases : ∀ p ∈ rows, p.expansion = false)
    (hnames : (rows.map (·.name)).Nodup) : (arrange rows).Perm rows := by
  rw [arrange_eq_mergeSort hreleases hnames]
  exact List.mergeSort_perm _ _

namespace Arranged

variable {rows : List Patch} {p : Patch}

/-- Arranged rows are left alone. -/
theorem arrange_eq (h : Arranged rows) : arrange rows = rows := by
  rw [arrange_eq_mergeSort h.releases h.names]
  exact List.mergeSort_of_pairwise (h.latest.imp not_decide_lt_iff.2)

/-- Arranged rows stay arranged when one of them is taken out. -/
theorem eraseIdx (h : Arranged rows) (i : Nat) : Arranged (rows.eraseIdx i) :=
  have hsub : (rows.eraseIdx i).Sublist rows := List.eraseIdx_sublist rows i
  ⟨fun p hp => h.releases p (hsub.subset hp), (hsub.map _).nodup h.names, h.latest.sublist hsub⟩

/-- A row of a new name that is no header is added to arranged rows. -/
theorem arrange_append (h : Arranged rows) (hp : p.expansion = false)
    (hnew : p.name ∉ rows.map (·.name)) : (arrange (rows ++ [p])).Perm (rows ++ [p]) := by
  refine arrange_perm ?_ ?_
  · intro q hq
    rcases List.mem_append.1 hq with hq | hq
    · exact h.releases q hq
    · exact List.mem_singleton.1 hq ▸ hp
  · rw [List.map_append, List.map_singleton, ← List.concat_eq_append]
    exact List.Nodup.concat hnew h.names

end Arranged

end ItemSieve.Patch
