import ItemSieve.Proofs.Json.Codec
import ItemSieve.Proofs.Text
import ItemSieve.Settings

/-!
# Settings and their document

All settings are read back from the document that stores them (`Settings.load_save`). A value that
is accepted for a key changes that setting only (`Settings.accepted_of_set`), which then shows the
value in its canonical form (`Settings.canonical_of_set`); given again, the canonical form is
accepted and changes nothing (`Settings.set_get`).
-/

namespace ItemSieve

/-- A sex is read back from its name. -/
theorem Sex.lawful_codec : Sex.codec.Lawful :=
  Json.Codec.lawful_choice (by decide) fun s => by cases s <;> decide

namespace Settings

/-! ## The document -/

open Json.Codec in
/-- Settings are read back from what is written of them, in any layout. -/
theorem lawful_codec : codec.Lawful :=
  lawful_record
    (.cons lawful_text.field <| .cons lawful_flag.field <|
      .cons (lawful_letter.optional nofun).field <| .cons (lawful_word.optional nofun).field <|
      .cons (Sex.lawful_codec.optional nofun).field <|
      .cons (lawful_text.optional nofun).field .nil)
    (by decide) fun _ => rfl

/-- The trimmed value `v` is accepted for a key: what the setting shows then, and the settings with
only that one changed. -/
inductive Accepted (c : Settings) (v : String) : Key → String → Settings → Prop where
  | site (h : Text.lowercase v ∈ sites) :
      Accepted c v .dataSite (Text.lowercase v) { c with dataSite := Text.lowercase v }
  | enabled (h : v = "true") : Accepted c v .forceBrowser "true" { c with forceBrowser := true }
  | disabled (h : v = "false") : Accepted c v .forceBrowser "false" { c with forceBrowser := false }
  | whitespace (h : v = "" ∨ v = "whitespace") :
      Accepted c v .delimiter "whitespace" { c with delimiter := none }
  | char {ch : Char} (h : v = .singleton ch) :
      Accepted c v .delimiter (.singleton ch) { c with delimiter := some ch }
  | race {race : RaceId} (h : Text.word? v = some race) :
      Accepted c v .selfRace (toString race) { c with selfRace := some race }
  | noRace (h : v = "") : Accepted c v .selfRace "" { c with selfRace := none }
  | sex {sex : Sex} (h : Sex.ofText v = .ok sex) :
      Accepted c v .selfSex sex.name { c with selfSex := some sex }
  | noSex (h : v = "") : Accepted c v .selfSex "" { c with selfSex := none }
  | path (h : v ≠ "") : Accepted c v .catalog v { c with catalog := some v }
  | noPath (h : v = "") : Accepted c v .catalog "" { c with catalog := none }

variable {α : Type} {c d : Settings} {k : Key} {v value : String}

/-- The setting shows what was accepted. -/
theorem Accepted.get_eq {shown : String} (h : Accepted c v k shown d) : d.get k = shown := by
  cases h <;> rfl

/-- What is accepted for a setting that may be absent is the empty text, which clears it, or what is
read. -/
theorem clearable_eq_ok {read : String → Except SettingError α} {a : Option α}
    (h : clearable v read = .ok a) :
    v = "" ∧ a = none ∨ v ≠ "" ∧ ∃ b, read v = .ok b ∧ a = some b := by
  unfold clearable at h
  split at h
  · next hv =>
    cases h
    exact .inl ⟨String.isEmpty_iff.1 hv, rfl⟩
  · next hv =>
    refine .inr ⟨fun heq => hv (String.isEmpty_iff.2 heq), ?_⟩
    cases hread : read v with
    | error e => rw [hread] at h; cases h
    | ok b => rw [hread] at h; cases h; exact ⟨b, rfl, rfl⟩

/-- A text that is not empty is read. -/
theorem clearable_of_ne (h : v ≠ "") (read : String → Except SettingError α) :
    clearable v read = (read v).map some := by
  rw [clearable, if_neg fun hv => h (String.isEmpty_iff.1 hv)]

/-- Of two steps that come to a result both have gone through. -/
theorem exists_of_bind_eq_ok {ε β : Type} {r : Except ε α} {f : α → Except ε β} {b : β}
    (h : r >>= f = .ok b) : ∃ a, r = .ok a ∧ f a = .ok b := by
  cases r with
  | error e => cases h
  | ok a => exact ⟨a, rfl, h⟩

/-- An accepted value changes the setting of its key only. -/
theorem accepted_of_set (h : c.set k value = .ok d) :
    Accepted c (Text.trimmed value) k (d.get k) d := by
  simp only [set] at h
  generalize Text.trimmed value = v at h ⊢
  suffices ∃ shown, Accepted c v k shown d by
    obtain ⟨shown, hshown⟩ := this
    rwa [hshown.get_eq]
  cases k with
  | dataSite =>
    have hsite : Text.lowercase v ∈ sites → Accepted c v .dataSite _ _ := .site
    generalize Text.lowercase v = site at h hsite
    simp only at h
    split at h
    · next hmem =>
      cases h
      exact ⟨_, hsite (List.contains_iff_mem.1 hmem)⟩
    · cases h
  | forceBrowser =>
    simp only at h
    split at h
    · next hv =>
      cases h
      exact ⟨_, .enabled (eq_of_beq hv)⟩
    · split at h
      · next hv =>
        cases h
        exact ⟨_, .disabled (eq_of_beq hv)⟩
      · cases h
  | delimiter =>
    simp only at h
    split at h
    · next hv =>
      cases h
      exact ⟨_, .whitespace (.inr (eq_of_beq hv))⟩
    · split at h
      · next hv =>
        cases h
        exact ⟨_, .whitespace (.inl (String.toList_eq_nil_iff.1 hv))⟩
      · next ch hv =>
        cases h
        refine ⟨_, .char (String.toList_inj.1 ?_)⟩
        rw [hv, String.toList_singleton]
      · cases h
  | selfRace =>
    obtain ⟨race, hread, hd⟩ := exists_of_bind_eq_ok h
    cases hd
    obtain ⟨rfl, rfl⟩ | ⟨-, race, hrace, rfl⟩ := clearable_eq_ok hread
    · exact ⟨_, .noRace rfl⟩
    · split at hrace
      · next hword =>
        cases hrace
        exact ⟨_, .race hword⟩
      · cases hrace
  | selfSex =>
    obtain ⟨sex, hread, hd⟩ := exists_of_bind_eq_ok h
    cases hd
    obtain ⟨rfl, rfl⟩ | ⟨-, sex, hsex, rfl⟩ := clearable_eq_ok hread
    · exact ⟨_, .noSex rfl⟩
    · exact ⟨_, .sex hsex⟩
  | catalog =>
    obtain ⟨path, hread, hd⟩ := exists_of_bind_eq_ok h
    cases hd
    obtain ⟨rfl, rfl⟩ | ⟨hne, path, hpath, rfl⟩ := clearable_eq_ok hread
    · exact ⟨_, .noPath rfl⟩
    · cases hpath
      exact ⟨_, .path hne⟩

/-- Whatever is accepted is set. -/
theorem Accepted.set_eq {shown : String} (h : Accepted c (Text.trimmed value) k shown d) :
    c.set k value = .ok d := by
  unfold set
  generalize Text.trimmed value = v at h ⊢
  cases h with
  | site h => simp only [List.contains_iff_mem.2 h, ↓reduceIte]
  | enabled h => subst h; rfl
  | disabled h => subst h; rfl
  | whitespace h => rcases h with rfl | rfl <;> rfl
  | @char ch h =>
    have hlist : v.toList = [ch] := h ▸ String.toList_singleton ch
    have hne : v ≠ "whitespace" := by
      rintro rfl
      cases hlist
    simp only [beq_false_of_ne hne, hlist, Bool.false_eq_true, ↓reduceIte]
  | race hword =>
    have hne : v ≠ "" := by rintro rfl; cases hword
    simp only [clearable_of_ne hne, hword]
    rfl
  | sex hsex =>
    have hne : v ≠ "" := by
      have hempty : Sex.ofText "" = .error (.unknownSex "") := by decide
      rintro rfl
      rw [hempty] at hsex
      cases hsex
    simp only [clearable_of_ne hne, hsex]
    rfl
  | path hne =>
    simp only [clearable_of_ne hne]
    rfl
  | noRace h | noSex h | noPath h => subst h; rfl

/-- The names of the sites are in their canonical form. -/
theorem lowercase_trimmed_of_mem : ∀ site ∈ sites, Text.lowercase (Text.trimmed site) = site := by
  decide

/-- The name of a sex is read as that sex, trimmed or not. -/
theorem ofText_trimmed_name (sex : Sex) : Sex.ofText (Text.trimmed sex.name) = .ok sex := by
  cases sex <;> decide

/-- There is nothing to trim of a number. -/
theorem trimmed_toString (n : UInt32) : Text.trimmed (toString n) = toString n :=
  (Text.isTrim_repr n.toNat).trimmed_eq

/-! ## Canonical settings -/

/-- The setting has a value that can be given to it, in the form in which it would be stored. -/
def Canonical (c : Settings) : Key → Prop
  | .dataSite => c.dataSite ∈ sites
  | .delimiter => ∀ ch ∈ c.delimiter, Text.isSpace ch = false
  | .catalog => ∀ path ∈ c.catalog, path ≠ "" ∧ Text.trimmed path = path
  | .forceBrowser | .selfRace | .selfSex => True

/-- The default settings are canonical. -/
theorem canonical_default : ∀ k, Canonical .default k
  | .dataSite => List.mem_cons_self
  | .delimiter => nofun
  | .catalog => nofun
  | .forceBrowser | .selfRace | .selfSex => trivial

/-- What was accepted is canonical. -/
theorem Accepted.canonical {shown : String} (h : Accepted c v k shown d)
    (hv : Text.trimmed v = v) : d.Canonical k := by
  cases h with
  | site h => exact h
  | enabled | disabled | race | noRace | sex | noSex => trivial
  | whitespace | noPath => exact nofun
  | char h =>
    subst h
    intro ch hch
    cases hch
    exact Text.trimmed_singleton_iff.1 hv
  | path h =>
    intro path hpath
    cases hpath
    exact ⟨h, hv⟩

/-- An accepted value leaves the other settings as canonical as they were. -/
theorem Accepted.canonical_iff_of_ne {shown : String} {other : Key} (h : Accepted c v k shown d)
    (hne : other ≠ k) : d.Canonical other ↔ c.Canonical other := by
  cases h <;> cases other <;> first | exact absurd rfl hne | exact Iff.rfl

/-- An accepted value leaves what the other settings show. -/
theorem Accepted.get_of_ne {shown : String} {other : Key} (h : Accepted c v k shown d)
    (hne : other ≠ k) : d.get other = c.get other := by
  cases h <;> cases other <;> first | exact absurd rfl hne | rfl

/-- A setting that was given a value has it in its canonical form. -/
theorem canonical_of_set (h : c.set k value = .ok d) : d.Canonical k :=
  (accepted_of_set h).canonical (Text.trimmed_trimmed value)

theorem trimmed_empty : Text.trimmed "" = "" :=
  rfl

/-- What a canonical setting shows is accepted for it. -/
theorem Canonical.accepted (h : c.Canonical k) :
    Accepted c (Text.trimmed (c.get k)) k (c.get k) c := by
  obtain ⟨dataSite, forceBrowser, delimiter, selfRace, selfSex, catalog⟩ := c
  cases k with
  | dataSite =>
    have hsite : Text.lowercase (Text.trimmed dataSite) = dataSite :=
      lowercase_trimmed_of_mem dataSite h
    have hmem : Text.lowercase (Text.trimmed dataSite) ∈ sites := hsite.symm ▸ h
    simp only [get]
    generalize Text.trimmed dataSite = v at hsite hmem ⊢
    subst hsite
    exact .site hmem
  | forceBrowser =>
    cases forceBrowser with
    | false =>
      have htrim : Text.trimmed "false" = "false" := by decide
      exact .disabled htrim
    | true =>
      have htrim : Text.trimmed "true" = "true" := by decide
      exact .enabled htrim
  | delimiter =>
    cases delimiter with
    | none =>
      have htrim : Text.trimmed "whitespace" = "whitespace" := by decide
      exact .whitespace (.inr htrim)
    | some ch => exact .char (Text.trimmed_singleton_iff.2 (h ch rfl))
  | selfRace =>
    cases selfRace with
    | none => exact .noRace trimmed_empty
    | some race =>
      have hread : Text.word? (Text.trimmed (toString race)) = some race := by
        rw [trimmed_toString, Text.word?_toString]
      exact .race hread
  | selfSex =>
    cases selfSex with
    | none => exact .noSex trimmed_empty
    | some sex => exact .sex (ofText_trimmed_name sex)
  | catalog =>
    cases catalog with
    | none => exact .noPath trimmed_empty
    | some path =>
      obtain ⟨hne, htrim⟩ := h path rfl
      simp only [get, Option.getD_some, htrim]
      exact .path hne

/-- What a canonical setting shows is accepted for it, and changes nothing. -/
theorem Canonical.set_get (h : c.Canonical k) : c.set k (c.get k) = .ok c :=
  h.accepted.set_eq

/-- What an accepted setting shows is accepted for it again, and changes nothing. -/
theorem set_get (h : c.set k value = .ok d) : d.set k (d.get k) = .ok d :=
  (canonical_of_set h).set_get

/-! ## Keys spelled by texts -/

/-- A key is read back from its name. -/
theorem Key.ofName_name (k : Key) : Key.ofName k.name = .ok k := by
  cases k <;> rfl

/-- A text that is read as a key is its name. -/
theorem Key.name_of_ofName {s : String} {k : Key} (h : Key.ofName s = .ok k) : k.name = s := by
  unfold ofName at h
  split at h
  · next hfind =>
    cases h
    have hname := List.find?_some hfind
    exact eq_of_beq hname
  · cases h

/-- To show a setting by the name of its key is to show it. -/
theorem getNamed_name (c : Settings) (k : Key) : c.getNamed k.name = .ok (c.get k) := by
  rw [getNamed, Key.ofName_name]
  rfl

/-- To set a setting by the name of its key is to set it. -/
theorem setNamed_name (c : Settings) (k : Key) (value : String) :
    c.setNamed k.name value = c.set k value := by
  rw [setNamed, Key.ofName_name]
  rfl

end Settings

end ItemSieve
