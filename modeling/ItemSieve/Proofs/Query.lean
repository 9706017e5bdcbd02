import ItemSieve.Proofs.Text
import ItemSieve.Query

/-!
# The tokens of a query

A delimiter cuts a text at some of its characters (`Delimiter.cuts`). What is split between two
texts with a cut in the middle is split in each of them (`Delimiter.split_append`), and a text
without a cut is a single token or none (`Delimiter.split_of_uncut`); all else follows by going
through a text from cut to cut (`Delimiter.cutInduction`). The tokens are trimmed, hold no cut and
stand in the query one behind the other, with nothing but cuts and white space around them, and to
join words is to put their tokens in a row (`Delimiter.tokenize_join`).
-/

namespace ItemSieve.Delimiter

/-- The delimiter cuts at the character. -/
def cuts : Delimiter → Char → Bool
  | whitespace => Text.isSpace
  | char c => (· == c)

variable (d : Delimiter)

/-- A delimiter cuts at the mark that it joins words with. -/
theorem cuts_mark : d.cuts d.mark = true := by
  cases d with
  | whitespace => decide
  | char c => exact beq_self_eq_true c

/-- A token of a query: a text with a character in it, without white space at its ends and without
a cut. -/
structure IsToken (t : List Char) : Prop where
  ne_nil : t ≠ []
  trim : Text.IsTrim t
  uncut : ∀ c ∈ t, d.cuts c = false

/-- The text holds no part of a token: there are only cuts and white space in it. -/
def IsGap (s : List Char) : Prop :=
  ∀ c ∈ s, d.cuts c = true ∨ Text.isSpace c = true

/-- The tokens stand in the text in order and without an overlap, with gaps before, between and
behind them. -/
inductive Gapped : List (List Char) → List Char → Prop
  | gap {s : List Char} : d.IsGap s → Gapped [] s
  | token {before t rest : List Char} {tokens : List (List Char)} :
      d.IsGap before → Gapped tokens rest → Gapped (t :: tokens) (before ++ (t ++ rest))

/-! ## From cut to cut -/

/-- What holds of the texts without a cut, and of two texts with a cut in the middle when it holds
of both, holds of every text. -/
@[elab_as_elim]
theorem cutInduction {motive : List Char → Prop}
    (uncut : ∀ s, (∀ c ∈ s, d.cuts c = false) → motive s)
    (cut : ∀ s m t, d.cuts m = true → motive s → motive t → motive (s ++ m :: t))
    (s : List Char) : motive s := by
  -- The induction is on what is left of the text behind a stretch without a cut.
  have h : ∀ before, (∀ c ∈ before, d.cuts c = false) → motive (before ++ s) := by
    induction s with
    | nil =>
      intro before hbefore
      rw [List.append_nil]
      exact uncut before hbefore
    | cons c s ih =>
      intro before hbefore
      cases hc : d.cuts c with
      | true => exact cut before c s hc (uncut before hbefore) (ih [] nofun)
      | false =>
        rw [List.append_cons]
        refine ih _ ?_
        intro c' hc'
        rcases List.mem_append.1 hc' with hc' | hc'
        · exact hbefore c' hc'
        · rw [List.mem_singleton.1 hc', hc]
  exact h [] nofun

/-- A cut parts the tokens before it from those behind it. -/
theorem split_append {m : Char} (hm : d.cuts m = true) (s t : List Char) :
    d.split (s ++ m :: t) = d.split s ++ d.split t := by
  cases d with
  | whitespace => exact Text.words_append hm s t
  | char c =>
    have hsplit : (s ++ m :: t).splitOnP (· == c) = s.splitOnP (· == c) ++ t.splitOnP (· == c) :=
      List.splitOnP_append_cons s t hm
    simp only [split, Text.fields, hsplit, List.map_append, List.filter_append]

/-- A text without a cut is a token when it is trimmed, unless nothing is left of it then. -/
theorem split_of_uncut {s : List Char} (h : ∀ c ∈ s, d.cuts c = false) :
    d.split s = [Text.trim s].filter (!·.isEmpty) := by
  cases d with
  | whitespace =>
    have htrim : Text.IsTrim s :=
      ⟨fun c hc => h c (List.mem_of_mem_head? hc), fun c hc => h c (List.mem_of_mem_getLast? hc)⟩
    have hsplit : s.splitOnP Text.isSpace = [s] := List.splitOnP_eq_singleton h
    rw [split, Text.words, hsplit, htrim.trim_eq]
  | char c =>
    have hsplit : s.splitOnP (· == c) = [s] := List.splitOnP_eq_singleton h
    rw [split, Text.fields, hsplit, List.map_singleton]

/-! ## What the tokens are -/

variable {d}

/-- Whatever a text is split into is a token. -/
theorem isToken_of_mem_split {s t : List Char} (ht : t ∈ d.split s) : d.IsToken t := by
  induction s using d.cutInduction with
  | uncut s h =>
    rw [d.split_of_uncut h] at ht
    obtain ⟨heq, hne⟩ := List.mem_filter.1 ht
    obtain rfl := List.mem_singleton.1 heq
    obtain ⟨before, after, hs, -, -⟩ := Text.exists_trim s
    refine ⟨by simpa using hne, Text.isTrim_trim s, ?_⟩
    intro c hc
    refine h c ?_
    rw [hs]
    exact List.mem_append_right _ (List.mem_append_left _ hc)
  | cut s m s' hm ihs iht =>
    rw [d.split_append hm] at ht
    exact (List.mem_append.1 ht).elim ihs iht

/-- A token is split into itself. -/
theorem IsToken.split_eq {t : List Char} (h : d.IsToken t) : d.split t = [t] := by
  rw [d.split_of_uncut h.uncut, h.trim.trim_eq]
  simp [h.ne_nil]

/-- Two gaps in a row are a gap. -/
theorem IsGap.append {s t : List Char} (hs : d.IsGap s) (ht : d.IsGap t) : d.IsGap (s ++ t) :=
  fun c hc => (List.mem_append.1 hc).elim (hs c) (ht c)

/-- A gap may be put before tokens in their text. -/
theorem Gapped.behind {s gap : List Char} {tokens : List (List Char)} (hgap : d.IsGap gap)
    (h : d.Gapped tokens s) : d.Gapped tokens (gap ++ s) := by
  cases h with
  | gap hs => exact .gap (hgap.append hs)
  | token hbefore h =>
    rw [← List.append_assoc]
    exact .token (hgap.append hbefore) h

/-- Tokens of two texts stand in order in the two texts put together. -/
theorem Gapped.append {s s' : List Char} {tokens tokens' : List (List Char)}
    (h : d.Gapped tokens s) (h' : d.Gapped tokens' s') :
    d.Gapped (tokens ++ tokens') (s ++ s') := by
  induction h with
  | gap hs => exact h'.behind hs
  | token hbefore _ ih =>
    rw [List.append_assoc, List.append_assoc]
    exact .token hbefore ih

/-- A text is split into tokens that stand in it, in order, with gaps around them. -/
theorem gapped_split (s : List Char) : d.Gapped (d.split s) s := by
  induction s using d.cutInduction with
  | uncut s h =>
    obtain ⟨before, after, hs, hbefore, hafter⟩ := Text.exists_trim s
    have hbefore : d.IsGap before := fun c hc => .inr (hbefore c hc)
    have hafter : d.IsGap after := fun c hc => .inr (hafter c hc)
    rw [d.split_of_uncut h]
    by_cases hne : Text.trim s = []
    · rw [hne, List.nil_append] at hs
      rw [hne, hs]
      exact .gap (hbefore.append hafter)
    · have hkept : [Text.trim s].filter (!·.isEmpty) = [Text.trim s] := by simp [hne]
      rw [hkept]
      nth_rewrite 2 [hs]
      exact .token hbefore (.gap hafter)
  | cut s m t hm ihs iht =>
    have hgap : d.IsGap [m] := by
      intro c hc
      rw [List.mem_singleton.1 hc]
      exact .inl hm
    rw [d.split_append hm]
    exact ihs.append (iht.behind hgap)

/-! ## Joined words -/

/-- The tokens of joined words are those of the words. -/
theorem split_intercalate (words : List (List Char)) :
    d.split ([d.mark].intercalate words) = words.flatMap d.split := by
  induction words with
  | nil =>
    have huncut : ∀ c ∈ [], d.cuts c = false := fun c hc => absurd hc List.not_mem_nil
    rw [List.intercalate_nil, d.split_of_uncut huncut]
    rfl
  | cons w words ih =>
    cases words with
    | nil => rw [List.intercalate_singleton, List.flatMap_singleton]
    | cons w' words =>
      rw [List.intercalate_cons_cons, List.append_assoc, List.singleton_append,
        d.split_append d.cuts_mark, ih, List.flatMap_cons (x := w)]

/-- Words are joined by the mark of the delimiter. -/
theorem toList_join (d : Delimiter) (words : List String) :
    (d.join words).toList = [d.mark].intercalate (words.map (·.toList)) := by
  rw [join, String.toList_intercalate, String.toList_singleton]

/-- The tokens of a query are what its characters are split into. -/
theorem map_toList_tokenize (d : Delimiter) (query : String) :
    (d.tokenize query).map (·.toList) = d.split query.toList := by
  rw [tokenize, List.map_map]
  exact List.map_id'' (fun _ => String.toList_ofList) _

/-- The tokens of joined words are those of the words, in a row. -/
theorem tokenize_join_eq (d : Delimiter) (words : List String) :
    d.tokenize (d.join words) = words.flatMap d.tokenize := by
  rw [tokenize, toList_join, split_intercalate, List.flatMap_map, List.map_flatMap]
  rfl

/-- The tokens of joined words are the tokens of the words, one word after another, so no token is
merged with another one, cut in two or lost. Each token of a query is a trimmed text without a cut
and has a character in it; the tokens stand in the query in order and without an overlap, with
nothing but cuts and white space around them; and joined again they are the tokens of what is
joined. -/
theorem tokenize_join (d : Delimiter) (words : List String) (query : String) :
    d.tokenize (d.join words) = words.flatMap d.tokenize ∧
      (∀ token ∈ d.tokenize query, d.IsToken token.toList) ∧
      d.Gapped ((d.tokenize query).map (·.toList)) query.toList ∧
      d.tokenize (d.join (d.tokenize query)) = d.tokenize query := by
  have htoken : ∀ token ∈ d.tokenize query, d.IsToken token.toList := by
    intro token ht
    refine isToken_of_mem_split (s := query.toList) ?_
    rw [← map_toList_tokenize]
    exact List.mem_map_of_mem ht
  refine ⟨d.tokenize_join_eq words, htoken, ?_, ?_⟩
  · rw [map_toList_tokenize]
    exact gapped_split query.toList
  · have halone : ∀ token ∈ d.tokenize query, d.tokenize token = [token] := by
      intro token ht
      rw [tokenize, (htoken token ht).split_eq, List.map_singleton, String.ofList_toList]
    rw [tokenize_join_eq, List.flatMap_congr halone, List.flatMap_singleton']

/-- Words with empty ones, cuts and white space at their ends among them. -/
example : (char ',').tokenize ((char ',').join ["not unique,", "", " ,iron sword"]) =
    ["not unique", "iron sword"] := by
  decide +kernel

end ItemSieve.Delimiter
