import ItemSieve.Filter.Basic
import ItemSieve.Query

/-!
# The sieve

A `Sieve` is an ordered list of filters. A parse pass (`Sieve.apply`) offers each token of a query
to the filters in order, and the first one that takes it keeps it. A record passes when every filter
that is set lets it through and every plain term of the query finds it; filters that are not set are
not asked.
-/

namespace ItemSieve

/-- The filters on the records in `ρ`, and the cut of queries. -/
structure Sieve (ρ : Type) where
  filters : List (Filter ρ)
  delimiter : Delimiter

namespace Sieve

variable {ρ : Type}

/-! ## Filters by name -/

/-- The first filter of the given name, in any case, is this one. -/
def answersTo (name : String) (f : Filter ρ) : Bool :=
  Text.sameAscii f.name name

/-- The place of the first filter of the given name. -/
def index? (s : Sieve ρ) (name : String) : Option Nat :=
  s.filters.findIdx? (answersTo name)

/-- The first filter of the given name. -/
def get? (s : Sieve ρ) (name : String) : Option (Filter ρ) :=
  s.filters.find? (answersTo name)

/-- Puts a filter in place of the first one of the given name. -/
def put (s : Sieve ρ) (name : String) (f : Filter ρ) : Sieve ρ :=
  { s with filters := replace s.filters }
where
  replace : List (Filter ρ) → List (Filter ρ)
    | [] => []
    | g :: rest => if answersTo name g then f :: rest else g :: replace rest

/-- The filters that narrow the result. -/
def active (s : Sieve ρ) : List (Filter ρ) :=
  s.filters.filter (·.isSet)

/-- Some filter narrows the result. -/
def anySet (s : Sieve ρ) : Bool :=
  s.filters.any (·.isSet)

/-! ## The parse pass -/

/-- Ends every tag in force. -/
def clearTags (s : Sieve ρ) : Sieve ρ :=
  { s with filters := s.filters.map (·.clearTag) }

/-- Offers a token to the filters in order, up to the first that takes it. With the filters comes
the name of the one that took the token and its answer. -/
def offer (token : String) : List (Filter ρ) → List (Filter ρ) × Option (String × Tag.Claim)
  | [] => ([], none)
  | f :: rest =>
    let (claim, f') := f.claim token
    if claim.isConsumed then (f' :: rest, some (f.name, claim))
    else (offer token rest).map (f' :: ·) id

/-- Offers the tokens one after another. -/
def route (filters : List (Filter ρ)) : List String → List (Filter ρ) × ParsedQuery
  | [] => (filters, .empty)
  | token :: rest =>
    let (filters, taker) := offer token filters
    let (filters, q) := route filters rest
    match taker with
    | none => (filters, { q with terms := token :: q.terms })
    | some (name, .resolved) => (filters, { q with resolved := ⟨name, token⟩ :: q.resolved })
    | some (name, _) => (filters, { q with claimed := ⟨name, token⟩ :: q.claimed })

/-- Runs a parse pass over a query, which first ends the tags of the query before. -/
def apply (s : Sieve ρ) (query : String) : ParsedQuery × Sieve ρ :=
  let (filters, q) := route s.clearTags.filters (s.delimiter.tokenize query)
  (q, { s with filters })

/-! ## Checks -/

/-- Asks the filters that are set in order, up to the first that holds the record back. -/
def checkAll (r : ρ) : List (Filter ρ) → Checked (List (Filter ρ)) Bool
  | [] => ⟨true, [], []⟩
  | f :: rest =>
    if f.isSet then
      let c := f.check r
      if c.answer then
        let d := checkAll r rest
        ⟨d.answer, c.after :: d.after, c.log ++ d.log⟩
      else ⟨false, c.after :: rest, c.log⟩
    else
      let d := checkAll r rest
      ⟨d.answer, f :: d.after, d.log⟩

/-- A record passes the filters and is found by every plain term of the query, `finds` telling which
terms find it. -/
def admits (s : Sieve ρ) (finds : ρ → String → Bool) (q : ParsedQuery) (r : ρ) :
    Checked (Sieve ρ) Bool :=
  let c := checkAll r s.filters
  ⟨c.answer && q.terms.all (finds r), { s with filters := c.after }, c.log⟩

/-- The records that pass, in order. -/
def evaluate (s : Sieve ρ) (finds : ρ → String → Bool) (q : ParsedQuery) :
    List ρ → Checked (Sieve ρ) (List ρ)
  | [] => ⟨[], s, []⟩
  | r :: rest =>
    let c := s.admits finds q r
    let d := c.after.evaluate finds q rest
    ⟨if c.answer then r :: d.answer else d.answer, d.after, c.log ++ d.log⟩

/-! ## Polls -/

/-- Whether any filter has changed since the last poll. -/
def takeChanged (s : Sieve ρ) : Bool × Sieve ρ :=
  let polled := s.filters.map (·.takeChanged)
  (polled.any (·.1), { s with filters := polled.map (·.2) })

end Sieve

end ItemSieve
