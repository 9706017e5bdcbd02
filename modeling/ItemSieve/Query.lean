import ItemSieve.Text.Space

/-!
# Queries

A query is a text that a `Delimiter` cuts into tokens. A `ParsedQuery` is what a parse pass makes of
the tokens: the tags that filters took, and plain terms.
-/

namespace ItemSieve

/-- Where a query is cut. -/
inductive Delimiter where
  | whitespace
  | char (c : Char)
  deriving DecidableEq, Repr

namespace Delimiter

/-- The tokens of a list of characters: trimmed, and never empty. -/
def split (d : Delimiter) (s : List Char) : List (List Char) :=
  match d with
  | whitespace => Text.words s
  | char c => Text.fields c s

/-- The tokens of a query, in order. -/
def tokenize (d : Delimiter) (query : String) : List String :=
  (d.split query.toList).map .ofList

/-- What words are joined with so that they stay apart. -/
def mark : Delimiter → Char
  | whitespace => ' '
  | char c => c

/-- The words as one query. -/
def join (d : Delimiter) (words : List String) : String :=
  (String.singleton d.mark).intercalate words

end Delimiter

/-- A token that a filter took. -/
structure TagUse where
  filter : String
  token : String
  deriving DecidableEq, Repr

/-- A query after its parse pass. Each list keeps the order of the query. -/
structure ParsedQuery where
  /-- The tokens that no filter took. -/
  terms : List String
  /-- The tokens that are tags themselves. -/
  claimed : List TagUse
  /-- The tokens that stand for a tag. -/
  resolved : List TagUse
  deriving DecidableEq, Repr

namespace ParsedQuery

/-- The query without tokens. -/
def empty : ParsedQuery :=
  ⟨[], [], []⟩

/-- The query of plain terms. -/
def ofTerms (terms : List String) : ParsedQuery :=
  { empty with terms }

/-- There are plain terms. -/
def hasTerms (q : ParsedQuery) : Bool :=
  !q.terms.isEmpty

/-- The filter of the given name took a token. -/
def wasClaimedBy (q : ParsedQuery) (filter : String) : Bool :=
  (q.claimed ++ q.resolved).any (·.filter == filter)

end ParsedQuery

end ItemSieve
