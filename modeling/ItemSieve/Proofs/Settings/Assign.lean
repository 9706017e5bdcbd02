import ItemSieve.Proofs.Settings
import ItemSieve.Site

/-!
# Settings that are changed in place

`Settings.assign` changes the settings where they are kept: it reads the value, throws if it refuses
it, and only then writes. It comes to the same as `Settings.setNamed`, which gives back changed
settings or none (`Settings.run_assign`), so a refused value leaves no trace.

Settings reached from the default ones by values given in place, whether accepted or refused, are
canonical (`Settings.canonical_afterAssigns`): every one of them can be shown, and given again what
it shows (`Settings.assign_atomic_local_canonical`).
-/

namespace ItemSieve.Settings

/-! ## The values -/

/-- The site that a text names. -/
def siteName (v : String) : Except SettingError String :=
  let site := Text.lowercase v
  if sites.contains site then .ok site else .error (.unknownSite v)

/-- The truth value that a text spells. -/
def truthValue (v : String) : Except SettingError Bool :=
  if v == "true" then .ok true
  else if v == "false" then .ok false
  else .error (.notTruthValue v)

/-- The character at which a text asks to cut queries. -/
def cut (v : String) : Except SettingError (Option Char) :=
  if v == "whitespace" then .ok none
  else
    match v.toList with
    | [] => .ok none
    | [ch] => .ok (some ch)
    | _ => .error (.notOneCharacter v)

/-- The number of a race that a text spells. -/
def raceNumber (v : String) : Except SettingError RaceId :=
  match Text.word? v with
  | some n => .ok n
  | none => .error (.notNumericRace v)

section Set

variable (c : Settings) (value : String)

/-- The site is set to the one that the value names. -/
theorem set_dataSite : c.set .dataSite value =
    (siteName (Text.trimmed value)).map ({ c with dataSite := · }) := by
  simp only [set, siteName]
  generalize Text.lowercase (Text.trimmed value) = site
  split <;> rfl

/-- The choice of the browser is set to the truth value that the value spells. -/
theorem set_forceBrowser : c.set .forceBrowser value =
    (truthValue (Text.trimmed value)).map ({ c with forceBrowser := · }) := by
  simp only [set, truthValue]
  split
  · rfl
  · split <;> rfl

/-- The delimiter is set to what the value asks to cut at. -/
theorem set_delimiter : c.set .delimiter value =
    (cut (Text.trimmed value)).map ({ c with delimiter := · }) := by
  simp only [set, cut]
  split
  · rfl
  · cases (Text.trimmed value).toList with
    | nil => rfl
    | cons ch rest => cases rest <;> rfl

/-- To read a value and go on with it in any case is to map what was read. -/
theorem bind_ok_eq_map {α β : Type} (read : Except SettingError α) (f : α → β) :
    (read >>= fun a => .ok (f a)) = read.map f := by
  cases read <;> rfl

/-- The race is set to the number that the value spells, and an empty value clears it. -/
theorem set_selfRace : c.set .selfRace value =
    (clearable (Text.trimmed value) raceNumber).map ({ c with selfRace := · }) :=
  bind_ok_eq_map _ _

/-- The sex is set to the one that the value names, and an empty value clears it. -/
theorem set_selfSex : c.set .selfSex value =
    (clearable (Text.trimmed value) Sex.ofText).map ({ c with selfSex := · }) :=
  bind_ok_eq_map _ _

/-- The catalog is set to the trimmed value, and an empty value clears it. -/
theorem set_catalog : c.set .catalog value =
    (clearable (Text.trimmed value) .ok).map ({ c with catalog := · }) :=
  bind_ok_eq_map _ _

end Set

/-! ## One change in place -/

/-- Writes a value that was read. -/
def store {α : Type} (read : Except SettingError α) (write : Settings → α → Settings) :
    EStateM SettingError Settings Unit := do
  let a ← MonadExcept.ofExcept read
  modify (write · a)

/-- Changes a setting where the settings are kept, to a trimmed value. -/
def put (k : Key) (v : String) : EStateM SettingError Settings Unit :=
  match k with
  | .dataSite => store (siteName v) ({ · with dataSite := · })
  | .forceBrowser => store (truthValue v) ({ · with forceBrowser := · })
  | .delimiter => store (cut v) ({ · with delimiter := · })
  | .selfRace => store (clearable v raceNumber) ({ · with selfRace := · })
  | .selfSex => store (clearable v Sex.ofText) ({ · with selfSex := · })
  | .catalog => store (clearable v .ok) ({ · with catalog := · })

/-- Changes the setting whose key a text spells, where the settings are kept. -/
def assign (key value : String) : EStateM SettingError Settings Unit := do
  let k ← MonadExcept.ofExcept (Key.ofName key)
  put k (Text.trimmed value)

/-- What a change in place leaves of the settings `c` if `result` is made from them. -/
def outcome (c : Settings) (result : Except SettingError Settings) :
    EStateM.Result SettingError Settings Unit :=
  match result with
  | .ok d => .ok () d
  | .error e => .error e c

/-- A value that is refused when it is read is not written. -/
theorem run_store {α : Type} (read : Except SettingError α) (write : Settings → α → Settings)
    (c : Settings) : (store read write).run c = outcome c (read.map (write c)) := by
  cases read <;> rfl

/-- A change of one setting in place leaves what `set` makes of the settings. -/
theorem run_put (c : Settings) (k : Key) (value : String) :
    (put k (Text.trimmed value)).run c = outcome c (c.set k value) := by
  cases k with
  | dataSite => rw [set_dataSite, put, run_store]
  | forceBrowser => rw [set_forceBrowser, put, run_store]
  | delimiter => rw [set_delimiter, put, run_store]
  | selfRace => rw [set_selfRace, put, run_store]
  | selfSex => rw [set_selfSex, put, run_store]
  | catalog => rw [set_catalog, put, run_store]

/-- A setting is changed in place exactly as settings are made from others. -/
theorem run_assign (c : Settings) (key value : String) :
    (assign key value).run c = outcome c (c.setNamed key value) := by
  unfold assign setNamed
  cases Key.ofName key with
  | error e => rfl
  | ok k => exact run_put c k value

variable {c d : Settings} {result : Except SettingError Settings}

/-- A change in place that fails leaves the settings as they were. -/
theorem eq_of_outcome_error {e : SettingError} (h : outcome c result = .error e d) : d = c := by
  cases result <;> cases h
  rfl

/-- A change in place that goes through leaves the settings that were made. -/
theorem of_outcome_ok (h : outcome c result = .ok () d) : result = .ok d := by
  cases result <;> cases h
  rfl

/-- What an accepted value leaves of the settings with other keys. -/
theorem getNamed_of_setNamed {key other value : String} (h : c.setNamed key value = .ok d)
    (hne : other ≠ key) : d.getNamed other = c.getNamed other := by
  cases hother : Key.ofName other with
  | error e => rw [getNamed, getNamed, hother]; rfl
  | ok q =>
    obtain ⟨k, hkey, hset⟩ := exists_of_bind_eq_ok h
    obtain rfl := Key.name_of_ofName hother
    obtain rfl := Key.name_of_ofName hkey
    have hq : q ≠ k := fun heq => hne (congrArg Key.name heq)
    rw [getNamed_name, getNamed_name, (accepted_of_set hset).get_of_ne hq]

/-! ## Many changes in place -/

/-- What is kept after a value was given to a setting, whether it was accepted or refused. -/
def afterAssign (c : Settings) (key value : String) : Settings :=
  match (assign key value).run c with
  | .ok () d => d
  | .error _ d => d

/-- What is kept after values were given to settings, one after another. -/
def afterAssigns (c : Settings) (changes : List (String × String)) : Settings :=
  changes.foldl (fun c (key, value) => c.afterAssign key value) c

/-- After a change in place there are the new settings, or the old ones if it was refused. -/
theorem afterAssign_eq (c : Settings) (key value : String) :
    c.afterAssign key value = (c.setNamed key value).toOption.getD c := by
  rw [afterAssign, run_assign]
  cases c.setNamed key value <;> rfl

/-- A value leaves canonical settings canonical, whether it is accepted or refused. -/
theorem canonical_afterAssign (h : ∀ k, c.Canonical k) (key value : String) :
    ∀ k, (c.afterAssign key value).Canonical k := by
  rw [afterAssign_eq]
  cases hset : c.setNamed key value with
  | error e => exact h
  | ok d =>
    intro q
    obtain ⟨k, -, hset⟩ := exists_of_bind_eq_ok hset
    by_cases hq : q = k
    · exact hq ▸ canonical_of_set hset
    · exact ((accepted_of_set hset).canonical_iff_of_ne hq).2 (h q)

/-- Values given one after another leave the settings canonical. -/
theorem canonical_afterAssigns (h : ∀ k, c.Canonical k) (changes : List (String × String)) :
    ∀ k, (c.afterAssigns changes).Canonical k := by
  induction changes generalizing c with
  | nil => exact h
  | cons change changes ih => exact ih (canonical_afterAssign h change.1 change.2)

/-! ## What canonical settings are good for -/

/-- The site of canonical settings is one on which items can be opened. -/
theorem exists_ofSettings (h : c.Canonical .dataSite) :
    ∃ site, DataSite.ofSettings c = .ok site := by
  have hsite : c.dataSite = "teamcraft" ∨ c.dataSite = "garland" := by
    simpa [Canonical, sites] using h
  rcases hsite with hsite | hsite
  · exact ⟨.teamcraft c.forceBrowser, by rw [DataSite.ofSettings, hsite]; rfl⟩
  · exact ⟨.garland, by rw [DataSite.ofSettings, hsite]; rfl⟩

/-- Queries are cut exactly at the character that canonical settings show. -/
theorem queryDelimiter_eq (h : c.Canonical .delimiter) :
    c.queryDelimiter = (c.delimiter.map Delimiter.char).getD .whitespace := by
  unfold queryDelimiter
  cases hc : c.delimiter with
  | none => rfl
  | some ch => simp only [h ch hc]; rfl

/-- A value given in place does what making settings from others does. A refused one leaves all
settings as they are, and an accepted one those with other keys, whatever the settings were.
Settings reached from the default ones by any values for any keys, accepted or refused, show all
their values; what a setting shows is accepted for it and changes nothing; queries are cut at the
character that is shown, which is not white space, and at white space if none is set; items can be
opened on the site. -/
theorem assign_atomic_local_canonical (c : Settings) (key value : String) :
    (assign key value).run c = outcome c (c.setNamed key value) ∧
      (∀ e d, (assign key value).run c = .error e d → d = c) ∧
      (∀ d, (assign key value).run c = .ok () d →
        ∀ other, other ≠ key → d.getNamed other = c.getNamed other) ∧
      ∀ changes : List (String × String),
        let reached := default.afterAssigns changes
        (∀ k ∈ Key.all, ∃ shown, reached.getNamed k.name = .ok shown ∧
          (assign k.name shown).run reached = .ok () reached) ∧
        (∀ ch, reached.delimiter = some ch → Text.isSpace ch = false ∧
          reached.queryDelimiter = .char ch ∧
          reached.getNamed Key.delimiter.name = .ok (.singleton ch)) ∧
        (reached.delimiter = none → reached.queryDelimiter = .whitespace) ∧
        ∃ site, DataSite.ofSettings reached = .ok site := by
  refine ⟨run_assign c key value, ?_, ?_, ?_⟩
  · intro e d h
    rw [run_assign] at h
    exact eq_of_outcome_error h
  · intro d h other hne
    rw [run_assign] at h
    exact getNamed_of_setNamed (of_outcome_ok h) hne
  · intro changes reached
    have hc : ∀ k, reached.Canonical k := canonical_afterAssigns canonical_default changes
    refine ⟨?_, ?_, ?_, exists_ofSettings (hc .dataSite)⟩
    · intro k _
      refine ⟨reached.get k, getNamed_name reached k, ?_⟩
      rw [run_assign, setNamed_name, (hc k).set_get]
      rfl
    · intro ch hch
      refine ⟨hc .delimiter ch hch, ?_, ?_⟩
      · rw [queryDelimiter_eq (hc .delimiter), hch]
        rfl
      · rw [getNamed_name, get, hch]
        rfl
    · intro hnone
      rw [queryDelimiter_eq (hc .delimiter), hnone]
      rfl

/-- White space around a character is dropped; two characters are refused. -/
example :
    (default.afterAssigns [("delimiter", " ; "), ("delimiter", ";;")]).delimiter = some ';' := by
  decide

end ItemSieve.Settings
