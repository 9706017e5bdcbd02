import ItemSieve.Proofs.Filter.Call
import ItemSieve.Proofs.Filter.Check
import ItemSieve.Proofs.Filter.Tag

/-!
# What a poll finds changed

A yes/no filter and a patch filter note for the next poll that they were edited (`Filter.flagged`);
a race/sex filter compares its selection with the one at the last poll (`Filter.moved`). What a
filter can become from one poll to the next is `Filter.Since`: every call but a poll leads there
(`Filter.since_run`), and what is noted on the way are the edits that go through on a yes/no filter
and those that alter the selection of a patch filter (`Filter.since_edit`). So a filter in which a
poll finds nothing changed lets the same records through as at the last poll, as long as no tag of a
yes/no filter comes in between (`Filter.Since.check_answer`).
-/

namespace ItemSieve.Filter

variable {ρ : Type}

/-! ## What is noted -/

/-- The filter has noted an edit for the next poll. A race/sex filter notes none. -/
def flagged : Filter ρ → Bool
  | yesNo f => f.modified
  | patch f => f.altered
  | raceSex _ => false

/-- The selection of the race/sex filter is not the one of the last poll. -/
def moved : Filter ρ → Bool
  | raceSex f => f.lastSeen != f.selected
  | _ => false

/-- A poll finds a change if an edit is noted or the selection of a race/sex filter has moved. -/
theorem takeChanged_fst (f : Filter ρ) : f.takeChanged.1 = (f.flagged || f.moved) := by
  cases f with
  | yesNo f => exact (Bool.or_false _).symm
  | patch f => exact (Bool.or_false _).symm
  | raceSex f => rfl

/-- After a poll the next one finds nothing. -/
theorem takeChanged_takeChanged (f : Filter ρ) : f.takeChanged.2.takeChanged.1 = false := by
  cases f with
  | yesNo f | patch f => rfl
  | raceSex f => exact bne_self_eq_false _

/-- The call is an edit that goes through on a yes/no filter. -/
def Call.Accepted : Call ρ → Filter ρ → Prop
  | .edit (.yesNo e), .yesNo f => (e.run f).isSome
  | _, _ => False

/-- The call is an edit that leaves a patch filter with another selection. -/
def Call.Alters : Call ρ → Filter ρ → Prop
  | .edit (.patch e), .patch f => ((e.run f).getD f).selected ≠ f.selected
  | _, _ => False

/-- The call is one of those that are noted. -/
def Call.Noted (c : Call ρ) (f : Filter ρ) : Prop :=
  c.Accepted f ∨ c.Alters f

/-- The call is a poll. -/
def Call.isPoll : Call ρ → Bool
  | takeChanged => true
  | _ => false

/-! ## From one poll to the next -/

/-- What the first filter may have become without a poll: edits are noted, and all but what can be
edited, the tag in force and the character the user plays is as it was. -/
inductive Since : Filter ρ → Filter ρ → Prop
  | yesNo (f : YesNoFilter ρ) (tag : Option Bool) : Since (yesNo f) (yesNo { f with tag })
  | edited (f : YesNoFilter ρ) (legs : Legs) (tag : Option Bool) :
      Since (yesNo f) (yesNo { f with legs, tag, modified := true })
  | patch (f : PatchFilter ρ) : Since (patch f) (patch f)
  | altered (f : PatchFilter ρ) (selected : List Patch) :
      Since (patch f) (patch { f with selected, altered := true })
  | raceSex (f : RaceSexFilter ρ) (character : Option Wearer) (selected : Nat)
      (beforeTag : Option Nat) (reported : List String) :
      Since (raceSex f) (raceSex { f with character, selected, beforeTag, reported })

theorem Since.refl (f : Filter ρ) : f.Since f := by
  cases f with
  | yesNo f => exact .yesNo f f.tag
  | patch f => exact .patch f
  | raceSex f => exact .raceSex f f.character f.selected f.beforeTag f.reported

theorem Since.trans {f g h : Filter ρ} (hfg : f.Since g) (hgh : g.Since h) : f.Since h := by
  cases hfg with
  | yesNo f tag =>
    cases hgh with
    | yesNo => exact .yesNo f _
    | edited => exact .edited f _ _
  | edited f legs tag =>
    cases hgh with
    | yesNo => exact .edited f legs _
    | edited => exact .edited f _ _
  | patch f => exact hgh
  | altered f selected =>
    cases hgh with
    | patch => exact .altered f selected
    | altered => exact .altered f _
  | raceSex f =>
    cases hgh with
    | raceSex => exact .raceSex f _ _ _ _

/-- The second filter is what the first one may have become without a poll, and nothing was noted on
the way. -/
def Unnoted (f g : Filter ρ) : Prop :=
  f.Since g ∧ g.flagged = f.flagged

theorem Unnoted.refl (f : Filter ρ) : f.Unnoted f :=
  ⟨.refl f, rfl⟩

theorem Unnoted.trans {f g h : Filter ρ} (hfg : f.Unnoted g) (hgh : g.Unnoted h) : f.Unnoted h :=
  ⟨hfg.1.trans hgh.1, hgh.2.trans hfg.2⟩

/-- Nothing that happens to a race/sex filter is noted: its poll compares selections. -/
theorem unnoted_raceSex (f : RaceSexFilter ρ) (character : Option Wearer) (selected : Nat)
    (beforeTag : Option Nat) (reported : List String) :
    (raceSex f).Unnoted (raceSex { f with character, selected, beforeTag, reported }) :=
  ⟨.raceSex f character selected beforeTag reported, rfl⟩

/-- The end of a tag is not noted. -/
theorem unnoted_clearTag (f : Filter ρ) : f.Unnoted f.clearTag := by
  cases f with
  | yesNo f => exact ⟨.yesNo f none, rfl⟩
  | patch f => exact .refl _
  | raceSex f =>
    rw [clearTag, RaceSexFilter.clearTag_eq]
    exact unnoted_raceSex f f.character _ none f.reported

/-- A tag is not noted. -/
theorem unnoted_claim (f : Filter ρ) (token : String) : f.Unnoted (f.claim token).2 := by
  cases ht : f.takes token with
  | false =>
    rw [claim_snd_of_not_takes ht]
    exact .refl f
  | true =>
    cases f with
    | yesNo f =>
      have ht : f.takes token = true := ht
      simpa [claim, f.claim_eq, ht] using ⟨.yesNo f _, rfl⟩
    | patch f => exact .refl _
    | raceSex f =>
      obtain ⟨index, hi⟩ := Option.isSome_iff_exists.1 ((f.isSome_meant? token).trans ht)
      simpa [claim, RaceSexFilter.claim, hi] using
        unnoted_raceSex f f.character index (some (f.beforeTag.getD f.selected)) f.reported

/-- A check is not noted. -/
theorem Reported.unnoted {f g : Filter ρ} : f.Reported g → f.Unnoted g := by
  rintro ⟨ms, rfl⟩
  cases f with
  | yesNo f | patch f => exact .refl _
  | raceSex f => exact unnoted_raceSex f f.character f.selected f.beforeTag (f.reported ++ ms)

/-- That the user plays another character is not noted. -/
theorem unnoted_setCharacter (f : Filter ρ) (who : Option Wearer) :
    f.Unnoted (f.setCharacter who) := by
  cases f with
  | yesNo f | patch f => exact .refl _
  | raceSex f => exact unnoted_raceSex f who f.selected f.beforeTag f.reported

/-- An edit of a race/sex filter is not noted. -/
theorem unnoted_raceSex_edit (f : RaceSexFilter ρ) (e : RaceSexFilter.Edit) :
    (raceSex f).Unnoted (raceSex ((e.run f).getD f)) := by
  cases he : e.run f with
  | none => exact .refl _
  | some g =>
    rcases RaceSexFilter.Edit.run_eq_some he with ⟨-, index, rfl⟩ | rfl
    · exact unnoted_raceSex f f.character index f.beforeTag f.reported
    · exact unnoted_clearTag (raceSex f)

/-- Where nothing was noted, the flag stands exactly if it stood before. -/
theorem Unnoted.since_iff {f g : Filter ρ} {p : Prop} (h : f.Unnoted g) (hp : ¬ p) :
    f.Since g ∧ (g.flagged = true ↔ f.flagged = true ∨ p) :=
  ⟨h.1, by rw [h.2, or_iff_left hp]⟩

/-- An edit is noted if it goes through on a yes/no filter or alters the selection of a patch
filter, and not otherwise. -/
theorem since_edit (e : Edit) (f : Filter ρ) :
    f.Since ((Call.edit e).run f) ∧
      (((Call.edit e).run f).flagged = true ↔ f.flagged = true ∨ (Call.edit e).Noted f) := by
  cases e with
  | yesNo e =>
    cases f with
    | yesNo f =>
      simp only [Call.run_yesNo, Call.Noted, Call.Accepted, Call.Alters]
      cases he : e.run f with
      | none => exact (Unnoted.refl _).since_iff (by simp)
      | some g =>
        obtain ⟨-, rfl⟩ := YesNoFilter.Edit.run_eq_some.1 he
        exact ⟨.edited f _ f.tag, by simp [flagged]⟩
    | patch f | raceSex f => exact (Unnoted.refl _).since_iff fun h => h.elim id id
  | patch e =>
    cases f with
    | patch f =>
      simp only [Call.run_patch, Call.Noted, Call.Accepted, Call.Alters]
      cases he : e.run f with
      | none => exact (Unnoted.refl _).since_iff (by simp)
      | some g =>
        obtain ⟨next, hne, rfl⟩ := PatchFilter.Edit.run_eq_some he
        exact ⟨.altered f next, by simp [flagged, hne]⟩
    | yesNo f | raceSex f => exact (Unnoted.refl _).since_iff fun h => h.elim id id
  | raceSex e =>
    cases f with
    | raceSex f =>
      rw [Call.run_raceSex]
      exact (unnoted_raceSex_edit f e).since_iff fun h => h.elim id id
    | yesNo f | patch f => exact (Unnoted.refl _).since_iff fun h => h.elim id id

/-- Without a poll a filter stays on its way to the next one, and of all calls only the edits that
go through on a yes/no filter and those that alter the selection of a patch filter are noted. -/
theorem since_run {c : Call ρ} (hc : c.isPoll = false) (f : Filter ρ) :
    f.Since (c.run f) ∧ ((c.run f).flagged = true ↔ f.flagged = true ∨ c.Noted f) := by
  cases c with
  | edit e => exact since_edit e f
  | claim token => exact (f.unnoted_claim token).since_iff fun h => h.elim id id
  | clearTag => exact f.unnoted_clearTag.since_iff fun h => h.elim id id
  | takeChanged => cases hc
  | check r => exact (f.check_after r).unnoted.since_iff fun h => h.elim id id

/-! ## From construction to the first poll -/

/-- The filter has just been made. -/
def IsNew : Filter ρ → Prop
  | yesNo f => ∃ name yesLabel noLabel read inverted, f = .new name yesLabel noLabel read inverted
  | patch f => ∃ table version, f = .new table version
  | raceSex f => ∃ races rules character, f = .new races rules character

/-- A poll of a filter that has just been made finds nothing. -/
theorem IsNew.takeChanged_fst {f : Filter ρ} (h : f.IsNew) : f.takeChanged.1 = false := by
  cases f with
  | yesNo f =>
    obtain ⟨name, yesLabel, noLabel, read, inverted, rfl⟩ := h
    rfl
  | patch f =>
    obtain ⟨table, version, rfl⟩ := h
    rfl
  | raceSex f =>
    obtain ⟨races, rules, character, rfl⟩ := h
    rfl

/-! ## What the next poll finds -/

/-- A poll sees a selection move exactly if it is another one than at the last poll. -/
theorem Since.moved_iff {f g : Filter ρ} (h : f.Since g) (hf : f.takeChanged.1 = false) :
    g.moved = true ↔ ∃ a b, f = .raceSex a ∧ g = .raceSex b ∧ b.selected ≠ a.selected := by
  rw [takeChanged_fst, Bool.or_eq_false_iff] at hf
  cases h with
  | yesNo | edited | patch | altered => simp [moved]
  | raceSex f character selected beforeTag reported =>
    have hf : f.lastSeen = f.selected := by simpa [moved] using hf.2
    rw [moved, hf, bne_iff_ne]
    constructor
    · exact fun h => ⟨f, _, rfl, rfl, h.symm⟩
    · rintro ⟨a, b, ⟨⟩, ⟨⟩, h⟩
      exact h.symm

/-- The filter is a yes/no filter with a tag in force. -/
def yesNoTagged : Filter ρ → Bool
  | yesNo f => f.tag.isSome
  | _ => false

/-- If a poll finds nothing changed since the last one, every record is answered as at that one,
provided that no tag of a yes/no filter is in force at either. -/
theorem Since.check_answer {f g : Filter ρ} (h : f.Since g) (hf : f.takeChanged.1 = false)
    (hg : g.takeChanged.1 = false) (hft : f.yesNoTagged = false) (hgt : g.yesNoTagged = false)
    (r : ρ) : (g.check r).answer = (f.check r).answer := by
  rw [takeChanged_fst, Bool.or_eq_false_iff] at hf hg
  cases h with
  | yesNo f tag =>
    have hft : f.tag = none := fromTag_yesNo.1 hft
    obtain rfl : tag = none := fromTag_yesNo.1 hgt
    simp [check, YesNoFilter.check, YesNoFilter.active, hft]
  | edited f legs tag => cases hg.1
  | patch f => rfl
  | altered f selected => cases hg.1
  | raceSex f character selected beforeTag reported =>
    -- Both selections are the one that the last poll has seen.
    have hf : f.lastSeen = f.selected := by simpa [moved] using hf.2
    have hg : f.lastSeen = selected := by simpa [moved] using hg.2
    obtain rfl : selected = f.selected := hg.symm.trans hf
    simp only [check, RaceSexFilter.check_answer]
    rfl

end ItemSieve.Filter
