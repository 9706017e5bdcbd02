import ItemSieve.Command.Invocation
import ItemSieve.Proofs.Keys
import ItemSieve.Proofs.Text

/-!
# Command lines that ask for a search

Every search can be asked for: the arguments `SearchRequest.arguments` give each option as
`--name=value` and put the words behind `--`, and they are read as that very search
(`Command.SearchRequest.ofArguments_arguments`), whatever its words and values look like.
-/

namespace ItemSieve.Command

/-! ## Options with their values -/

/-- The argument that gives an option a value. -/
def Flag.given (flag : Flag) (value : String) : String :=
  "--" ++ flag.long ++ "=" ++ value

/-- The name of a long option ends at the first equals sign. -/
theorem ofText_eq_long {s : String} {name value : List Char}
    (hs : s.toList = '-' :: '-' :: (name ++ '=' :: value))
    (hname : ∀ c ∈ name, (c != '=') = true) :
    Argument.ofText s = .long (.ofList name) (some (.ofList value)) := by
  have htake : (name ++ '=' :: value).takeWhile (· != '=') = name := by
    rw [List.takeWhile_append_of_pos hname, List.takeWhile_cons_of_neg (by simp), List.append_nil]
  have hdrop : (name ++ '=' :: value).dropWhile (· != '=') = '=' :: value := by
    rw [List.dropWhile_append_of_pos hname, List.dropWhile_cons_of_neg (by simp)]
  have hne : name ++ '=' :: value ≠ [] := by simp
  rw [Argument.ofText, hs]
  generalize name ++ '=' :: value = rest at htake hdrop hne
  cases rest with
  | nil => exact absurd rfl hne
  | cons c rest => simp only [htake, hdrop]

/-- An option given with a value is a long option, whatever the value looks like. -/
theorem ofText_given (flag : Flag) (value : String) :
    Argument.ofText (flag.given value) = .long flag.long (some value) := by
  have hall : flag.long.toList.all (· != '=') = true := by
    cases flag <;> decide
  have hname := List.all_eq_true.1 hall
  have hlist : (flag.given value).toList =
      '-' :: '-' :: (flag.long.toList ++ '=' :: value.toList) := by
    simp only [Flag.given, String.toList_append, List.append_assoc]
    rfl
  rw [ofText_eq_long hlist hname, String.ofList_toList, String.ofList_toList]

variable {known : List Flag}

/-- An option that takes a value and may stand here is read with the value given. -/
theorem readLong_given (hknown : (known.map Flag.long).Nodup) {flag : Flag} (hflag : flag ∈ known)
    (husage : flag.usage ≠ .switch) (value : String) :
    readLong known flag.long (some value) = .ok ([.option flag value], none) := by
  rw [readLong, find?_key Flag.long hknown hflag]
  cases hu : flag.usage with
  | switch => exact absurd hu husage
  | single | repeatable => simp only [hu]

/-- The arguments that give some options their values. -/
def givenAll (options : List (Flag × String)) : List String :=
  options.map fun (flag, value) => flag.given value

/-- The pieces that some options with their values are. -/
def piecesOf (options : List (Flag × String)) : List Piece :=
  options.map fun (flag, value) => .option flag value

/-- Options that are given with their values are read as they are. -/
theorem readPieces_givenAll (hknown : (known.map Flag.long).Nodup) (untilWord : Bool)
    {options : List (Flag × String)} (hoptions : ∀ o ∈ options, o.1 ∈ known ∧ o.1.usage ≠ .switch)
    (rest : List String) :
    readPieces known untilWord none (givenAll options ++ rest) =
      (readPieces known untilWord none rest).map fun (pieces, left) =>
        (piecesOf options ++ pieces, left) := by
  induction options with
  | nil =>
    rw [givenAll, List.map_nil, List.nil_append]
    cases readPieces known untilWord none rest <;> rfl
  | cons o options ih =>
    obtain ⟨hflag, husage⟩ := hoptions o List.mem_cons_self
    rw [givenAll, List.map_cons, ← givenAll, List.cons_append, readPieces, ofText_given]
    simp only [readLong_given hknown hflag husage, bind, Except.bind,
      ih fun p hp => hoptions p (List.mem_cons_of_mem o hp)]
    cases readPieces known untilWord none rest <;> rfl

namespace SearchRequest

/-! ## The arguments of a search -/

/-- The options of a search with their values. -/
def options (q : SearchRequest) : List (Flag × String) :=
  q.only.map (.only, ·) ++ q.exclude.map (.exclude, ·) ++ q.patches.map (.patch, ·) ++
    q.raceSex.toList.map (.raceSex, ·) ++ q.limit.toList.map fun n => (.limit, toString n)

/-- Arguments that ask for the search, over the catalog if one is named. -/
def arguments (q : SearchRequest) (catalog : Option String) : List String :=
  givenAll (catalog.toList.map (.catalog, ·)) ++ "search" ::
    (givenAll q.options ++ "--" :: q.words)

/-- What stands behind the subcommand. -/
def pieces (q : SearchRequest) : List Piece :=
  piecesOf q.options ++ q.words.map .word

/-- The values of an option of the search. -/
def values (q : SearchRequest) : Flag → List String
  | .only => q.only
  | .exclude => q.exclude
  | .patch => q.patches
  | .raceSex => q.raceSex.toList
  | .limit => q.limit.toList.map toString
  | .catalog | .verbose => []

variable (q : SearchRequest)

/-- The options of a search are among the five that may stand behind the subcommand. -/
theorem mem_options {o : Flag × String} (h : o ∈ q.options) :
    o.1 ∈ [Flag.only, .exclude, .patch, .raceSex, .limit] := by
  simp only [options, List.mem_append, List.mem_map] at h
  obtain (((⟨v, -, rfl⟩ | ⟨v, -, rfl⟩) | ⟨v, -, rfl⟩) | ⟨v, -, rfl⟩) | ⟨n, -, rfl⟩ := h <;> simp

/-- The arguments behind the subcommand are read as the options and the words of the search. -/
theorem readPieces_arguments :
    readPieces Flag.ofSearch false none (givenAll q.options ++ "--" :: q.words) =
      .ok (q.pieces, []) := by
  have hflags : ∀ flag ∈ [Flag.only, .exclude, .patch, .raceSex, .limit],
      flag ∈ Flag.ofSearch ∧ flag.usage ≠ .switch := by decide
  rw [readPieces_givenAll (by decide) false fun o ho => hflags o.1 (q.mem_options ho)]
  rfl

/-- The words among the pieces are those of the search. -/
theorem wordsOf_pieces : wordsOf q.pieces = q.words := by
  simp [wordsOf, pieces, piecesOf, List.filterMap_map]

/-- The values among the pieces that stand for an option are those of the search. -/
theorem valuesOf_pieces (flag : Flag) : valuesOf flag q.pieces = q.values flag := by
  cases flag <;> simp [valuesOf, pieces, piecesOf, options, values, List.filterMap_map]

/-- An option that occurs once at most has the value that it is given, if any. -/
theorem valueOf_eq {flag : Flag} {pieces : List Piece} {value : Option String}
    (h : valuesOf flag pieces = value.toList) : valueOf flag pieces = .ok value := by
  rw [valueOf, h]
  cases value <;> rfl

/-- A limit that fits a machine word is read back from the pieces. -/
theorem limitOf_pieces (h : ∀ n ∈ q.limit, n < UInt64.size) : limitOf q.pieces = .ok q.limit := by
  have hvalue : valueOf .limit q.pieces = .ok (q.limit.map toString) := by
    refine valueOf_eq ((q.valuesOf_pieces .limit).trans ?_)
    cases hlimit : q.limit <;> simp [values, hlimit]
  rw [limitOf, hvalue]
  cases hlimit : q.limit with
  | none => rfl
  | some n =>
    have hread : Text.natural? (toString n).toList = some n := Text.natural?_repr n
    simp only [Option.map_some, bind, Except.bind, hread, if_pos (h n hlimit)]

/-- The pieces behind the subcommand make up the search. -/
theorem complete_pieces (h : ∀ n ∈ q.limit, n < UInt64.size) (name : String) :
    Verb.complete .search name q.pieces = .ok (.search q) := by
  have hraceSex : valueOf .raceSex q.pieces = .ok q.raceSex :=
    valueOf_eq (q.valuesOf_pieces .raceSex)
  simp only [Verb.complete, hraceSex, q.limitOf_pieces h, wordsOf_pieces, valuesOf_pieces, values,
    bind, Except.bind]

/-- Options name the catalog that is their value, unless it is the empty text. -/
theorem catalogOf_eq {pieces : List Piece} {catalog : Option String}
    (hverbose : valuesOf .verbose pieces = [])
    (hcatalog : valuesOf .catalog pieces = catalog.toList) (h : catalog ≠ some "") :
    catalogOf pieces = .ok catalog := by
  have hv : valueOf .verbose pieces = .ok none := valueOf_eq hverbose
  have hc : valueOf .catalog pieces = .ok catalog := valueOf_eq hcatalog
  simp only [catalogOf, hv, hc, bind, Except.bind]

/-- The arguments of a search are read as the search. -/
theorem ofArguments_arguments {catalog : Option String} (hcatalog : catalog ≠ some "")
    (hlimit : ∀ n ∈ q.limit, n < UInt64.size) :
    Invocation.ofArguments (q.arguments catalog) = .ok ⟨catalog, .search q⟩ := by
  have hcommon : ∀ o ∈ catalog.toList.map (Flag.catalog, ·),
      o.1 ∈ Flag.common ∧ o.1.usage ≠ .switch := by
    rintro o ho
    obtain ⟨path, -, rfl⟩ := List.mem_map.1 ho
    exact ⟨List.mem_cons_self, nofun⟩
  have hbefore : readPieces Flag.common true none (q.arguments catalog) =
      .ok (piecesOf (catalog.toList.map (.catalog, ·)),
        "search" :: (givenAll q.options ++ "--" :: q.words)) := by
    have hword : Argument.ofText "search" = .word "search" := by decide
    rw [arguments, readPieces_givenAll (by decide) true hcommon, readPieces, hword]
    simp only [Except.map, List.append_nil, ↓reduceIte]
  have houter : catalogOf (piecesOf (catalog.toList.map (.catalog, ·))) = .ok catalog := by
    refine catalogOf_eq ?_ ?_ hcatalog <;> cases catalog <;> rfl
  have hinner : catalogOf q.pieces = .ok none :=
    catalogOf_eq (q.valuesOf_pieces .verbose) (q.valuesOf_pieces .catalog) nofun
  have hverb : Verb.ofName "search" = .ok .search := rfl
  have hpieces : readPieces Verb.search.flags false none
      (givenAll q.options ++ "--" :: q.words) = .ok (q.pieces, []) := q.readPieces_arguments
  simp only [Invocation.ofArguments, hbefore, hverb, hpieces, houter, hinner,
    q.complete_pieces hlimit, bind, Except.bind, Option.none_or]

end SearchRequest

end ItemSieve.Command
