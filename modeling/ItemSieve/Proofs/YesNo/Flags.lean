import ItemSieve.Proofs.Filter.Call

/-!
# The flags of a yes/no filter

What a yes/no filter is set to can also be kept in flags that are written in place
(`YesNoFilter.Flags`): the two legs of the user, whether a tag is in force, and the two legs of the
tag. The legs of a tag that has ended stay behind, and nothing in the flags themselves keeps both
legs of a tag from being open or shut. All the same the flags keep to the filter
(`YesNoFilter.Flags.Keeps`) whatever happens to both: each call is answered alike
(`YesNoFilter.Flags.Keeps.call`), and so is a run of calls (`YesNoFilter.Flags.Keeps.run`).
-/

namespace ItemSieve.YesNoFilter

variable {ρ : Type}

/-! ## Calls -/

/-- What can happen to a yes/no filter. -/
inductive Call where
  | edit (e : Edit)
  | claim (token : String)
  | clearTag
  | takeChanged
  deriving DecidableEq, Repr

/-- The filter after a call. -/
def Call.run (f : YesNoFilter ρ) : Call → YesNoFilter ρ
  | edit e => (e.run f).getD f
  | claim token => (f.claim token).2
  | clearTag => f.clearTag
  | takeChanged => f.takeChanged.2

/-- The filter after some calls. -/
def run (f : YesNoFilter ρ) (calls : List Call) : YesNoFilter ρ :=
  calls.foldl Call.run f

/-- What a call answers. -/
inductive Answer where
  /-- The edit was made, or turned away. -/
  | edited (accepted : Bool)
  | claimed (claim : Tag.Claim)
  | cleared
  /-- The user has set something since the last poll. -/
  | polled (changed : Bool)
  deriving DecidableEq, Repr

/-- What the filter answers to a call. -/
def Call.answer (f : YesNoFilter ρ) : Call → Answer
  | edit e => .edited (e.run f).isSome
  | claim token => .claimed (f.claim token).1
  | clearTag => .cleared
  | takeChanged => .polled f.takeChanged.1

/-- What the filter answers over some calls. -/
def answers (f : YesNoFilter ρ) : List Call → List Answer
  | [] => []
  | c :: rest => c.answer f :: (c.run f).answers rest

/-- No call gives the filter another name. -/
theorem Call.name_run (f : YesNoFilter ρ) (c : Call) : (c.run f).name = f.name := by
  cases c with
  | edit e =>
    cases he : e.run f with
    | none => rw [run, he, Option.getD_none]
    | some g =>
      obtain ⟨-, rfl⟩ := Edit.run_eq_some.1 he
      rw [run, he, Option.getD_some]
  | claim token =>
    simp only [run, YesNoFilter.claim]
    split
    · rfl
    · split <;> rfl
  | clearTag | takeChanged => rfl

/-! ## Calls in place -/

/-- What a yes/no filter is set to, in flags. -/
structure Flags where
  /-- The user has opened the leg for records with the attribute. -/
  showYes : Bool
  /-- The user has opened the leg for records without the attribute. -/
  showNo : Bool
  /-- A tag is in force. -/
  usingTag : Bool
  /-- The latest tag opened the leg for records with the attribute. -/
  taggedYes : Bool
  /-- The latest tag opened the leg for records without the attribute. -/
  taggedNo : Bool
  /-- The user has set something since the last poll. -/
  modified : Bool
  deriving DecidableEq, Repr

namespace Flags

/-- The flags that let everything through. -/
def new : Flags :=
  ⟨true, true, false, false, false, false⟩

/-- The user's legs. -/
def legs (s : Flags) : Legs :=
  ⟨s.showYes, s.showNo⟩

/-- The legs in force. -/
def active (s : Flags) : Legs :=
  if s.usingTag then ⟨s.taggedYes, s.taggedNo⟩ else s.legs

/-- A tag is in force, or the user has shut a leg. -/
def isSet (s : Flags) : Bool :=
  s.usingTag || !s.showYes || !s.showNo

/-- What an edit writes. A leg that is shut opens the other one. -/
def write : Edit → StateM Flags Unit
  | .setYes value => do
    modify ({ · with showYes := value })
    if !value then modify ({ · with showNo := true })
  | .setNo value => do
    modify ({ · with showNo := value })
    if !value then modify ({ · with showYes := true })
  | .reset => do
    modify ({ · with showYes := true })
    modify ({ · with showNo := true })

/-- Makes an edit, unless a tag is in force. -/
def edit (e : Edit) : StateM Flags Bool := do
  if (← get).usingTag then return false
  write e
  modify ({ · with modified := true })
  return true

/-- Takes the token if it is one of the two tags. -/
def claim (yesTag noTag token : String) : StateM Flags Tag.Claim := do
  if Tag.normal token == noTag then
    modify ({ · with taggedYes := false })
    modify ({ · with taggedNo := true })
  else if Tag.normal token == yesTag then
    modify ({ · with taggedYes := true })
    modify ({ · with taggedNo := false })
  else return .rejected
  modify ({ · with usingTag := true })
  return .claimed

/-- Makes a call in place. -/
def call (yesTag noTag : String) : Call → StateM Flags Answer
  | .edit e => return .edited (← edit e)
  | .claim token => return .claimed (← claim yesTag noTag token)
  | .clearTag => do
    modify ({ · with usingTag := false })
    return .cleared
  | .takeChanged => do
    let changed := (← get).modified
    modify ({ · with modified := false })
    return .polled changed

/-- Makes some calls in place. -/
def calls (yesTag noTag : String) (cs : List Call) : StateM Flags (List Answer) :=
  cs.mapM (call yesTag noTag)

/-! ## The flags and the filter -/

/-- The flags say what the filter is set to. As long as a tag is in force, it leaves one leg open
and the other one shut. -/
structure Keeps (s : Flags) (f : YesNoFilter ρ) : Prop where
  legs : f.legs = s.legs
  tag : f.tag = if s.usingTag then some s.taggedYes else none
  one : s.usingTag = true → s.taggedNo = !s.taggedYes
  modified : f.modified = s.modified

/-- The flags of a new filter. -/
theorem keeps_new (name yesLabel noLabel : String) (read : Option (ρ → Bool)) (inverted : Bool) :
    Flags.new.Keeps (YesNoFilter.new name yesLabel noLabel read inverted) :=
  ⟨rfl, rfl, nofun, rfl⟩

/-- Under a tag an edit in place writes nothing. -/
theorem run_edit_of_usingTag {s : Flags} (h : s.usingTag = true) (e : Edit) :
    (edit e).run s = (false, s) := by
  obtain ⟨showYes, showNo, usingTag, taggedYes, taggedNo, modified⟩ := s
  cases h
  rfl

/-- Without a tag an edit in place makes of the user's legs what the edit makes of them. -/
theorem run_edit {s : Flags} (h : s.usingTag = false) (e : Edit) :
    (edit e).run s = (true, { s with
      showYes := (e.change s.legs).yes, showNo := (e.change s.legs).no, modified := true }) := by
  obtain ⟨showYes, showNo, usingTag, taggedYes, taggedNo, modified⟩ := s
  cases h
  cases e with
  | setYes value | setNo value => cases value <;> rfl
  | reset => rfl

/-- A tag that is taken in place leaves the leg open that it names. -/
theorem run_claim (yesTag noTag token : String) (s : Flags) :
    (claim yesTag noTag token).run s =
      if Tag.normal token == noTag then
        (.claimed, { s with usingTag := true, taggedYes := false, taggedNo := true })
      else if Tag.normal token == yesTag then
        (.claimed, { s with usingTag := true, taggedYes := true, taggedNo := false })
      else (.rejected, s) := by
  unfold claim
  cases Tag.normal token == noTag with
  | true => rfl
  | false =>
    cases Tag.normal token == yesTag with
    | true => rfl
    | false => rfl

namespace Keeps

variable {s : Flags} {f : YesNoFilter ρ}

/-- A tag is in force for the flags exactly if it is for the filter. -/
theorem isSome_tag (h : s.Keeps f) : f.tag.isSome = s.usingTag := by
  rw [h.tag]
  cases s.usingTag <;> rfl

/-- Under a tag one of its legs is open and the other one is shut. -/
theorem taggedYes_eq (h : s.Keeps f) (htag : s.usingTag = true) : s.taggedYes = !s.taggedNo := by
  rw [h.one htag, Bool.not_not]

/-- The flags and the filter have the same legs in force. -/
theorem active_eq (h : s.Keeps f) : s.active = f.active := by
  rw [Flags.active, YesNoFilter.active, h.tag]
  cases htag : s.usingTag with
  | false => exact h.legs.symm
  | true =>
    have hone := h.one htag
    simp [Legs.only, hone]

/-- The flags are set exactly if the filter is. -/
theorem isSet_eq (h : s.Keeps f) : s.isSet = f.isSet := by
  rw [Flags.isSet, YesNoFilter.isSet, h.isSome_tag, h.legs, Flags.legs]
  cases s.usingTag <;> cases s.showYes <;> cases s.showNo <;> rfl

/-- A call in place is answered as the filter answers it, and the flags keep to the filter. -/
theorem call (h : s.Keeps f) (c : Call) :
    ((Flags.call f.yesTag f.noTag c).run s).1 = c.answer f ∧
      ((Flags.call f.yesTag f.noTag c).run s).2.Keeps (c.run f) := by
  cases c with
  | edit e =>
    have hcall : (Flags.call f.yesTag f.noTag (.edit e)).run s =
        (.edited ((edit e).run s).1, ((edit e).run s).2) := rfl
    rw [hcall]
    cases htag : s.usingTag with
    | true =>
      have hnone : e.run f = none := by
        rw [Edit.run_eq, YesNoFilter.edit, h.tag, htag]
        rfl
      rw [run_edit_of_usingTag htag, Call.answer, Call.run, hnone]
      exact ⟨rfl, h⟩
    | false =>
      have hsome : e.run f = some { f with legs := e.change f.legs, modified := true } := by
        rw [Edit.run_eq, YesNoFilter.edit, h.tag, htag]
        rfl
      rw [run_edit htag, Call.answer, Call.run, hsome, h.legs]
      exact ⟨rfl, rfl, h.tag, h.one, rfl⟩
  | claim token =>
    have hcall : (Flags.call f.yesTag f.noTag (.claim token)).run s =
        (.claimed ((Flags.claim f.yesTag f.noTag token).run s).1,
          ((Flags.claim f.yesTag f.noTag token).run s).2) := rfl
    rw [hcall, run_claim, Call.answer, Call.run, YesNoFilter.claim]
    cases Tag.normal token == f.noTag with
    | true => exact ⟨rfl, h.legs, rfl, fun _ => rfl, h.modified⟩
    | false =>
      cases Tag.normal token == f.yesTag with
      | true => exact ⟨rfl, h.legs, rfl, fun _ => rfl, h.modified⟩
      | false => exact ⟨rfl, h⟩
  | clearTag =>
    exact ⟨rfl, h.legs, rfl, fun htag => absurd htag Bool.false_ne_true, h.modified⟩
  | takeChanged => exact ⟨congrArg Answer.polled h.modified.symm, h.legs, h.tag, h.one, rfl⟩

/-- Calls in place are answered as the filter answers them, and the flags keep to the filter. -/
theorem run (h : s.Keeps f) (cs : List Call) :
    ((calls f.yesTag f.noTag cs).run s).1 = f.answers cs ∧
      ((calls f.yesTag f.noTag cs).run s).2.Keeps (f.run cs) := by
  unfold calls
  induction cs generalizing s f with
  | nil => exact ⟨rfl, h⟩
  | cons c rest ih =>
    obtain ⟨hanswer, hkeeps⟩ := h.call c
    obtain ⟨hanswers, hlast⟩ := ih hkeeps
    have htags : (c.run f).yesTag = f.yesTag ∧ (c.run f).noTag = f.noTag := by
      simp only [yesTag, noTag, Call.name_run, and_self]
    rw [htags.1, htags.2] at hanswers hlast
    rw [List.mapM_cons]
    exact ⟨congr (congrArg List.cons hanswer) hanswers, hlast⟩

end Keeps

end Flags

end ItemSieve.YesNoFilter
