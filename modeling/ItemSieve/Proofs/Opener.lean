import ItemSieve.Site

/-!
# An opener over a run of calls

An opener of the site with the desktop application asks that application first, and remembers when
it could be reached neither directly nor through its protocol handler. What the ways to open an item
come to is said once, in `Fallback.run_tried`: the attempts that are made, case by case. From it
follow what one call makes of the memory (`Opener.localFailed_opened`), what a run of calls makes of
it (`Opener.run_eq`), and what the next call after any run does (`Opener.openItem_run`). Between the
calls the outside world may change in any way.
-/

namespace ItemSieve

namespace Attempt

/-- The desktop application was asked. -/
def isProbe : Attempt → Bool
  | probe .. => true
  | launch .. => false

/-- The attempt worked. -/
def succeeded : Attempt → Bool
  | probe _ answered => answered
  | launch _ started => started

end Attempt

namespace DataSite

/-- The target is one that the protocol handler of the desktop application takes. -/
def IsHandled (target : String) : Prop :=
  "teamcraft://".toList <+: target.toList

theorem handlerOf_eq (id : UInt32) : handlerOf id = "teamcraft://db/en/item/" ++ toString id :=
  rfl

theorem pageOf_eq (id : UInt32) :
    pageOf id = "https://ffxivteamcraft.com/db/en/item/" ++ toString id :=
  rfl

/-- The address of an item for the desktop application is one that its handler takes. -/
theorem isHandled_handlerOf (id : UInt32) : IsHandled (handlerOf id) := by
  have hscheme : "teamcraft://".toList <+: "teamcraft://db/en/item/".toList := by decide
  rw [IsHandled, handlerOf_eq, String.toList_append]
  exact hscheme.trans (List.prefix_append _ _)

/-- A page is one for the browser, whatever follows its address. -/
theorem not_isHandled_pageOf (id : UInt32) (rest : String) : ¬ IsHandled (pageOf id ++ rest) := by
  have hscheme : ¬ "teamcraft://".toList <+: "https://ffxivteamcraft.com/db/en/item/".toList := by
    decide
  rw [IsHandled, pageOf_eq, String.append_assoc, String.toList_append]
  intro h
  exact hscheme (List.prefix_of_prefix_length_le h (List.prefix_append _ _) (by decide))

/-- The address of an item at the site is never one for the handler. -/
theorem not_isHandled_itemUrl (forceBrowser : Bool) (i : Item) :
    ¬ IsHandled ((teamcraft forceBrowser).itemUrl i) := by
  have hurl : (teamcraft forceBrowser).itemUrl i = pageOf i.id ++ ("/" ++ slug i.name) :=
    String.append_assoc
  rw [hurl]
  exact not_isHandled_pageOf i.id _

end DataSite

open DataSite

/-! ## The ways to open an item -/

/-- A launch fails with the reason of the refusal, and the attempt is noted in any case. -/
theorem Surroundings.launch_eq (w : Surroundings) (target : String) :
    w.launch target = (match w.refusal target with
      | some reason => .error (.viewer reason)
      | none => .ok (), .launch target (w.refusal target).isNone) := by
  unfold launch
  cases w.refusal target <;> rfl

/-- What the ways to open an item come to: the one that was gone, whether the desktop application
has failed to be reached by now, and what was attempted. -/
inductive Tried (w : Surroundings) (failed : Bool) (id : UInt32) :
    Route → Bool → List Attempt → Prop where
  | shown (hrunning : w.running = true) : Tried w failed id .localApp failed [.probe id true]
  | handled (hrunning : w.running = false) (hinstalled : w.installed = true)
      (hhandler : w.refusal (handlerOf id) = none) :
      Tried w failed id .protocolHandler failed [.probe id false, .launch (handlerOf id) true]
  | refused (hrunning : w.running = false) (hinstalled : w.installed = true) {reason : String}
      (hhandler : w.refusal (handlerOf id) = some reason) :
      Tried w failed id .browser true [.probe id false, .launch (handlerOf id) false,
        .launch (pageOf id) (w.refusal (pageOf id)).isNone]
  | missing (hrunning : w.running = false) (hinstalled : w.installed = false) :
      Tried w failed id .browser true [.probe id false,
        .launch (pageOf id) (w.refusal (pageOf id)).isNone]

/-- What the ways to open an item come to is one of the four cases, whatever the outside world. -/
theorem Fallback.run_tried (w : Surroundings) (failed : Bool) (id : UInt32) :
    Tried w failed id (run w failed id).route (run w failed id).localFailed
      (run w failed id).attempts := by
  cases hrunning : w.running with
  | true => simpa [run, hrunning] using Tried.shown hrunning
  | false =>
    cases hinstalled : w.installed with
    | false =>
      simpa [run, page, hrunning, hinstalled, w.launch_eq] using Tried.missing hrunning hinstalled
    | true =>
      cases hhandler : w.refusal (handlerOf id) with
      | none =>
        simpa [run, hrunning, hinstalled, w.launch_eq, hhandler] using
          Tried.handled hrunning hinstalled hhandler
      | some reason =>
        simpa [run, page, hrunning, hinstalled, w.launch_eq, hhandler] using
          Tried.refused hrunning hinstalled hhandler

namespace Tried

variable {w : Surroundings} {failed now : Bool} {id : UInt32} {route : Route}
  {attempts : List Attempt}

/-- The desktop application is asked once, and nothing is launched if it answers. -/
theorem exists_launches (h : Tried w failed id route now attempts) :
    ∃ launches, attempts = .probe id w.running :: launches ∧
      (∀ a ∈ launches, a.isProbe = false) ∧ (w.running = true → launches = []) := by
  cases h with
  | shown hrunning => exact ⟨[], by rw [hrunning], nofun, fun _ => rfl⟩
  | handled hrunning | refused hrunning | missing hrunning =>
    exact ⟨_, by rw [hrunning], by simp [Attempt.isProbe], by simp [hrunning]⟩

/-- A page is launched only after everything else has failed. -/
theorem page_last (h : Tried w failed id route now attempts) {before after : List Attempt}
    {target : String} {started : Bool}
    (hsplit : attempts = before ++ .launch target started :: after) (hpage : ¬ IsHandled target) :
    target = pageOf id ∧ .probe id false ∈ before ∧
      (w.installed = false ∨ .launch (handlerOf id) false ∈ before) := by
  have hhandler := isHandled_handlerOf id
  cases h with
  | shown => rcases before with _ | ⟨a, _ | ⟨b, before⟩⟩ <;> cases hsplit
  | handled =>
    rcases before with _ | ⟨a, _ | ⟨b, before⟩⟩
    · cases hsplit
    · cases hsplit
      exact absurd hhandler hpage
    · simp at hsplit
  | refused =>
    rcases before with _ | ⟨a, _ | ⟨b, _ | ⟨d, before⟩⟩⟩
    · cases hsplit
    · cases hsplit
      exact absurd hhandler hpage
    · cases hsplit
      exact ⟨rfl, .head _, .inr (.tail _ (.head _))⟩
    · simp at hsplit
  | missing _ hinstalled =>
    rcases before with _ | ⟨a, _ | ⟨b, before⟩⟩
    · cases hsplit
    · cases hsplit
      exact ⟨rfl, .head _, .inl hinstalled⟩
    · simp at hsplit

/-- Nothing is attempted once something has worked. -/
theorem succeeded_last (h : Tried w failed id route now attempts) :
    ∀ a ∈ attempts.dropLast, a.succeeded = false := by
  cases h <;> simp [Attempt.succeeded]

end Tried

/-- If only the last attempt can have worked, at most one has. -/
theorem countP_succeeded_le_one {attempts : List Attempt}
    (h : ∀ a ∈ attempts.dropLast, a.succeeded = false) : attempts.countP (·.succeeded) ≤ 1 := by
  rcases List.eq_nil_or_concat attempts with rfl | ⟨before, last, rfl⟩
  · exact Nat.zero_le 1
  · rw [List.concat_eq_append] at h ⊢
    rw [List.dropLast_concat] at h
    have hbefore : before.countP (·.succeeded) = 0 := by
      rw [List.countP_eq_zero]
      intro a ha
      simp [h a ha]
    calc (before ++ [last]).countP (·.succeeded)
        = [last].countP (·.succeeded) := by rw [List.countP_append, hbefore, Nat.zero_add]
      _ ≤ 1 := List.countP_le_length

namespace Opener

/-! ## One call -/

/-- An item to be opened, and the outside world as it is then. -/
structure Call where
  surroundings : Surroundings
  item : Item

/-- What comes of the call. -/
def Call.opened (c : Call) (o : Opener) : Opened :=
  o.openItem c.surroundings c.item

/-- The opener after the call. -/
def Call.run (c : Call) (o : Opener) : Opener :=
  { o with localFailed := (c.opened o).localFailed }

/-- The desktop application cannot be reached: it does not answer, and its protocol handler is not
there or cannot be launched. -/
def Call.unreached (c : Call) : Bool :=
  !c.surroundings.running &&
    (!c.surroundings.installed || (c.surroundings.refusal (handlerOf c.item.id)).isSome)

/-- The opener after some calls. -/
def run (o : Opener) (calls : List Call) : Opener :=
  calls.foldl (fun o c => c.run o) o

/-- While the desktop application has not failed to be reached, the ways to open an item are tried
in the background. -/
theorem opened_of_reached (c : Call) :
    let f := Fallback.run c.surroundings false c.item.id
    c.opened ⟨.teamcraft false, false⟩ = ⟨.ok .background, f.localFailed, f.attempts, f.log⟩ :=
  rfl

/-- Once it has, the address of the item is launched. -/
theorem opened_of_failed (c : Call) :
    let url := (DataSite.teamcraft false).itemUrl c.item
    c.opened ⟨.teamcraft false, true⟩ =
      ⟨match c.surroundings.refusal url with
        | some reason => .error (.viewer reason)
        | none => .ok .launched, true,
        [.launch url (c.surroundings.refusal url).isNone], []⟩ := by
  simp only [Call.opened, openItem, Bool.or_true, ↓reduceIte, launchUrl, Surroundings.launch_eq]
  cases c.surroundings.refusal _ <;> rfl

/-- What a call does while the desktop application has not failed to be reached: it tries the ways
to open the item in turn, each of them when those before it have failed. So it asks the application
once, launches nothing if that works, and launches a page only after everything else has failed. -/
structure Call.TriesAll (c : Call) (opened : Opened) : Prop where
  result : opened.result = .ok .background
  tried : ∃ route, Tried c.surroundings false c.item.id route opened.localFailed opened.attempts
  probe : ∃ launches, opened.attempts = .probe c.item.id c.surroundings.running :: launches ∧
    (∀ a ∈ launches, a.isProbe = false) ∧ (c.surroundings.running = true → launches = [])
  page : ∀ before target started after,
    opened.attempts = before ++ .launch target started :: after → ¬ IsHandled target →
      target = pageOf c.item.id ∧ .probe c.item.id false ∈ before ∧
        (c.surroundings.installed = false ∨ .launch (handlerOf c.item.id) false ∈ before)

/-- What a call does from then on: it launches the address of the item, which is none for the
desktop application, and nothing else. -/
structure Call.Launches (c : Call) (url : String) (opened : Opened) : Prop where
  result : opened.result = match c.surroundings.refusal url with
    | some reason => .error (.viewer reason)
    | none => .ok .launched
  attempts : opened.attempts = [.launch url (c.surroundings.refusal url).isNone]
  not_isHandled : ¬ IsHandled url

/-- An opener that has not failed to reach the desktop application tries every way in turn. -/
theorem triesAll_opened (c : Call) : c.TriesAll (c.opened ⟨.teamcraft false, false⟩) :=
  have h := Fallback.run_tried c.surroundings false c.item.id
  ⟨rfl, ⟨_, h⟩, h.exists_launches, fun _ _ _ _ hsplit hpage => h.page_last hsplit hpage⟩

/-- An opener that has failed to reach it launches the address of the item. -/
theorem launches_opened (c : Call) :
    c.Launches ((DataSite.teamcraft false).itemUrl c.item)
      (c.opened ⟨.teamcraft false, true⟩) := by
  rw [opened_of_failed]
  exact ⟨rfl, rfl, not_isHandled_itemUrl false c.item⟩

/-- Only the last attempt of a call can work. -/
theorem succeeded_last (c : Call) (failed : Bool) :
    ∀ a ∈ (c.opened ⟨.teamcraft false, failed⟩).attempts.dropLast, a.succeeded = false := by
  cases failed with
  | true =>
    rw [opened_of_failed]
    exact nofun
  | false => exact (Fallback.run_tried c.surroundings false c.item.id).succeeded_last

/-- A call sets the memory if the desktop application cannot be reached, and never clears it. -/
theorem localFailed_opened (c : Call) (failed : Bool) :
    (c.opened ⟨.teamcraft false, failed⟩).localFailed = (failed || c.unreached) := by
  cases failed with
  | true => rw [opened_of_failed, Bool.true_or]
  | false =>
    have h := Fallback.run_tried c.surroundings false c.item.id
    rw [opened_of_reached, Call.unreached]
    generalize Fallback.run c.surroundings false c.item.id = f at h
    obtain ⟨route, now, attempts, log⟩ := f
    cases h <;> simp [*]

/-! ## A run of calls -/

/-- After a run of calls the desktop application has failed to be reached if it had before, or if it
could not be reached at one of the calls. -/
theorem run_eq (calls : List Call) (failed : Bool) :
    (Opener.mk (.teamcraft false) failed).run calls =
      ⟨.teamcraft false, failed || calls.any Call.unreached⟩ := by
  induction calls generalizing failed with
  | nil => rw [List.any_nil, Bool.or_false]; rfl
  | cons c calls ih =>
    calc (Opener.mk (.teamcraft false) failed).run (c :: calls)
        = (Opener.mk (.teamcraft false) (failed || c.unreached)).run calls := by
          rw [← localFailed_opened]; rfl
      _ = _ := by rw [ih, List.any_cons, Bool.or_assoc]

/-- An opener that asks the desktop application first, after any calls and at the next one: it has
failed to reach the application exactly if one of the calls could not reach it, and the next call
sets that for good if it cannot; until then the next call tries the ways to open the item in turn,
the application, its protocol handler and the page, each when those before it have failed, and
afterwards it launches the address of the item; and nothing is attempted behind the one attempt that
works. -/
theorem openItem_run (calls : List Call) (c : Call) :
    let o := (new (.teamcraft false)).run calls
    (new (.teamcraft false)).localFailed = false ∧
      o.localFailed = calls.any Call.unreached ∧
      (c.run o).localFailed = (o.localFailed || c.unreached) ∧
      (o.localFailed = false → c.TriesAll (c.opened o)) ∧
      (o.localFailed = true → c.Launches ((DataSite.teamcraft false).itemUrl c.item) (c.opened o)) ∧
      (∀ a ∈ (c.opened o).attempts.dropLast, a.succeeded = false) ∧
      (c.opened o).attempts.countP (·.succeeded) ≤ 1 := by
  intro o
  have ho : o = ⟨.teamcraft false, calls.any Call.unreached⟩ := by
    rw [← Bool.false_or (calls.any _)]
    exact run_eq calls false
  clear_value o
  subst ho
  generalize calls.any Call.unreached = failed
  refine ⟨rfl, rfl, localFailed_opened c failed, ?_, ?_, succeeded_last c failed,
    countP_succeeded_le_one (succeeded_last c failed)⟩
  · rintro rfl
    exact triesAll_opened c
  · rintro rfl
    exact launches_opened c

end Opener

end ItemSieve
