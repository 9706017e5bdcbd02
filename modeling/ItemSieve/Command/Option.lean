/-!
# Command line options

The arguments of a command line are options, their values, and words. An option is written
`--name value`, `--name=value`, `-n value` or `-nvalue`; short switches may share a dash, and behind
the argument `--` all arguments are words. `readPieces` puts the arguments together into pieces.
-/

namespace ItemSieve.Command

/-- The options. -/
inductive Flag where
  | catalog
  | verbose
  | only
  | exclude
  | patch
  | raceSex
  | limit
  deriving DecidableEq, Repr

/-- How an option is used. -/
inductive Usage where
  /-- Without a value, and at most once. -/
  | switch
  /-- With a value, and at most once. -/
  | single
  /-- With a value, any number of times. -/
  | repeatable
  deriving DecidableEq, Repr

namespace Flag

/-- The name of an option, without its two dashes. -/
def long : Flag → String
  | catalog => "catalog"
  | verbose => "verbose"
  | only => "only"
  | exclude => "exclude"
  | patch => "patch"
  | raceSex => "race-sex"
  | limit => "limit"

/-- The letter that stands for an option behind a single dash. -/
def short : Flag → Option Char
  | catalog => some 'c'
  | verbose => some 'v'
  | patch => some 'p'
  | raceSex => some 'r'
  | limit => some 'l'
  | only | exclude => none

/-- How an option is used. -/
def usage : Flag → Usage
  | verbose => .switch
  | catalog | raceSex | limit => .single
  | only | exclude | patch => .repeatable

/-- The options of every subcommand, which may also stand before it. -/
def common : List Flag :=
  [catalog, verbose]

/-- The options of a search. -/
def ofSearch : List Flag :=
  common ++ [only, exclude, patch, raceSex, limit]

end Flag

/-- Why a command line asks for nothing that can be done. -/
inductive UsageError where
  | unknownOption (name : String)
  | missingValue (flag : Flag)
  | needlessValue (flag : Flag)
  | repeated (flag : Flag)
  | badValue (flag : Flag) (value : String)
  | badItem (value : String)
  | noSubcommand
  | unknownSubcommand (name : String)
  | wordCount (subcommand : String)
  deriving DecidableEq, Repr

/-- The wording of a usage error. -/
def UsageError.message : UsageError → String
  | unknownOption name => s!"unknown option {name}"
  | missingValue flag => s!"--{flag.long} needs a value"
  | needlessValue flag => s!"--{flag.long} takes no value"
  | repeated flag => s!"--{flag.long} is given more than once"
  | badValue flag value => s!"--{flag.long} cannot be {value}"
  | badItem value => s!"{value} is not the number of an item"
  | noSubcommand => "no subcommand is given"
  | unknownSubcommand name => s!"unknown subcommand {name}"
  | wordCount subcommand => s!"wrong number of arguments for {subcommand}"

/-! ## The form of a single argument -/

/-- An argument by its form. -/
inductive Argument where
  /-- The end of the options. -/
  | escape
  /-- A long option, perhaps with its value. -/
  | long (name : String) (value : Option String)
  /-- Short options behind one dash, the last perhaps with its value. -/
  | short (letters : List Char)
  /-- Anything else, a single dash included. -/
  | word (text : String)
  deriving DecidableEq, Repr

/-- The form of an argument. -/
def Argument.ofText (s : String) : Argument :=
  match s.toList with
  | ['-', '-'] => .escape
  | '-' :: '-' :: rest =>
    let name := rest.takeWhile (· != '=')
    match rest.dropWhile (· != '=') with
    | [] => .long (.ofList name) none
    | _ :: value => .long (.ofList name) (some (.ofList value))
  | '-' :: c :: rest => .short (c :: rest)
  | _ => .word s

/-! ## Pieces -/

/-- A piece of the command line: a word, or an option with its value. A switch has the empty
value. -/
inductive Piece where
  | word (text : String)
  | option (flag : Flag) (value : String)
  deriving DecidableEq, Repr

/-- The options behind one dash, and the option whose value is the next argument. -/
def readShort (known : List Flag) :
    List Char → Except UsageError (List Piece × Option Flag)
  | [] => .ok ([], none)
  | c :: rest =>
    match known.find? (·.short == some c) with
    | none => .error (.unknownOption (.singleton c))
    | some flag =>
      match flag.usage, rest with
      | .switch, rest => do
        let (pieces, pending) ← readShort known rest
        .ok (.option flag "" :: pieces, pending)
      | _, [] => .ok ([], some flag)
      | _, '=' :: value => .ok ([.option flag (.ofList value)], none)
      | _, value => .ok ([.option flag (.ofList value)], none)

/-- A long option, and the option whose value is the next argument. -/
def readLong (known : List Flag) (name : String) (value : Option String) :
    Except UsageError (List Piece × Option Flag) :=
  match known.find? (·.long == name) with
  | none => .error (.unknownOption name)
  | some flag =>
    match flag.usage, value with
    | .switch, none => .ok ([.option flag ""], none)
    | .switch, some _ => .error (.needlessValue flag)
    | _, none => .ok ([], some flag)
    | _, some v => .ok ([.option flag v], none)

/-- The pieces of a list of arguments, `pending` being the option whose value comes first. With
`untilWord` they end before the first word, and the arguments from there on are returned. -/
def readPieces (known : List Flag) (untilWord : Bool) :
    (pending : Option Flag) → List String → Except UsageError (List Piece × List String)
  | some flag, [] => .error (.missingValue flag)
  | none, [] => .ok ([], [])
  | some flag, arg :: rest =>
    match Argument.ofText arg with
    | .word value => do
      let (pieces, left) ← readPieces known untilWord none rest
      .ok (.option flag value :: pieces, left)
    | _ => .error (.missingValue flag)
  | none, arg :: rest =>
    match Argument.ofText arg with
    | .escape => if untilWord then .error .noSubcommand else .ok (rest.map .word, [])
    | .long name value => do
      let (now, pending) ← readLong known name value
      let (pieces, left) ← readPieces known untilWord pending rest
      .ok (now ++ pieces, left)
    | .short letters => do
      let (now, pending) ← readShort known letters
      let (pieces, left) ← readPieces known untilWord pending rest
      .ok (now ++ pieces, left)
    | .word text =>
      if untilWord then .ok ([], arg :: rest)
      else do
        let (pieces, left) ← readPieces known untilWord none rest
        .ok (.word text :: pieces, left)

/-- The words in order. -/
def wordsOf (pieces : List Piece) : List String :=
  pieces.filterMap fun
    | .word text => some text
    | .option .. => none

/-- The values of an option in order. -/
def valuesOf (flag : Flag) (pieces : List Piece) : List String :=
  pieces.filterMap fun
    | .word _ => none
    | .option other value => if other == flag then some value else none

/-- The value of an option that is given at most once. -/
def valueOf (flag : Flag) (pieces : List Piece) : Except UsageError (Option String) :=
  match valuesOf flag pieces with
  | [] => .ok none
  | [value] => .ok (some value)
  | _ => .error (.repeated flag)

end ItemSieve.Command
