import ItemSieve.Command.Option
import ItemSieve.Text.Numeral

/-!
# Invocations

An `Invocation` is what the arguments of a command line ask for: a subcommand with its words and
options, and the catalog it is about. `Invocation.ofArguments` reads it.
-/

namespace ItemSieve.Command

/-- A request to search. -/
structure SearchRequest where
  words : List String
  only : List String
  exclude : List String
  patches : List String
  raceSex : Option String
  limit : Option Nat
  deriving DecidableEq, Repr

/-- What is to be done. -/
inductive Subcommand where
  | search (request : SearchRequest)
  | filters
  | patches
  | openItem (id : UInt32)
  | config (key value : Option String)
  deriving DecidableEq, Repr

/-- A subcommand and the catalog it is about, if the command line names one. -/
structure Invocation where
  catalog : Option String
  subcommand : Subcommand
  deriving DecidableEq, Repr

/-- The catalog that the common options name. It is not the empty text. -/
def catalogOf (pieces : List Piece) : Except UsageError (Option String) := do
  let _ ← valueOf .verbose pieces
  match ← valueOf .catalog pieces with
  | some "" => .error (.badValue .catalog "")
  | path => .ok path

/-- The number of items to list, below `2 ^ 64`. -/
def limitOf (pieces : List Piece) : Except UsageError (Option Nat) := do
  match ← valueOf .limit pieces with
  | none => .ok none
  | some value =>
    match Text.natural? value.toList with
    | some n => if n < UInt64.size then .ok (some n) else .error (.badValue .limit value)
    | none => .error (.badValue .limit value)

/-- The number of an item. Zero may be written with a minus sign. -/
def itemOf (s : String) : Except UsageError UInt32 :=
  match Text.word? s, s.toList with
  | some id, _ => .ok id
  | none, '-' :: rest => if Text.digits? rest == some 0 then .ok 0 else .error (.badItem s)
  | none, _ => .error (.badItem s)

/-- The kinds of subcommand. -/
inductive Verb where
  | search
  | filters
  | patches
  | openItem
  | config
  deriving DecidableEq, Repr

namespace Verb

/-- The subcommand of the given name. Some have a letter for a second name. -/
def ofName : String → Except UsageError Verb
  | "search" | "s" => .ok search
  | "filters" | "f" => .ok filters
  | "patches" => .ok patches
  | "open" | "o" => .ok openItem
  | "config" => .ok config
  | name => .error (.unknownSubcommand name)

/-- The options that may stand behind a subcommand. -/
def flags : Verb → List Flag
  | search => Flag.ofSearch
  | _ => Flag.common

/-- The subcommand with the given pieces behind its name. -/
def complete (v : Verb) (name : String) (pieces : List Piece) : Except UsageError Subcommand :=
  match v, wordsOf pieces with
  | search, words => do
    .ok (.search {
      words
      only := valuesOf .only pieces
      exclude := valuesOf .exclude pieces
      patches := valuesOf .patch pieces
      raceSex := ← valueOf .raceSex pieces
      limit := ← limitOf pieces })
  | filters, [] => .ok .filters
  | patches, [] => .ok .patches
  | openItem, [id] => do .ok (.openItem (← itemOf id))
  | config, [] => .ok (.config none none)
  | config, [key] => .ok (.config (some key) none)
  | config, [key, value] => .ok (.config (some key) (some value))
  | _, _ => .error (.wordCount name)

end Verb

/-- What a command line asks for. A catalog named behind the subcommand counts more than one named
before it. -/
def Invocation.ofArguments (args : List String) : Except UsageError Invocation := do
  let (before, rest) ← readPieces Flag.common true none args
  match rest with
  | [] => .error .noSubcommand
  | name :: rest => do
    let verb ← Verb.ofName name
    let (pieces, _) ← readPieces verb.flags false none rest
    let outer ← catalogOf before
    let inner ← catalogOf pieces
    .ok ⟨inner.or outer, ← verb.complete name pieces⟩

end ItemSieve.Command
