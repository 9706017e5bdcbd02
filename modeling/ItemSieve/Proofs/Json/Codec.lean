import Mathlib.Data.List.Forall2
import ItemSieve.Json.Codec
import ItemSieve.Proofs.Json.Lexeme
import ItemSieve.Proofs.Json.Number
import ItemSieve.Proofs.Keys

/-!
# Codecs read what they write

A codec is lawful (`Json.Codec.Lawful`) if it reads back every value from the text it writes, in any
layout of white space and whatever follows that does not go on a number. The codecs of scalars are
lawful, and those of optional values, lists and records are if the codecs inside are. A lawful codec
decodes the documents that it prints (`Json.Codec.Lawful.decode_print`).
-/

namespace ItemSieve.Json

/-! ## The first character of a written value -/

/-- The layout puts nothing but white space between lexemes. -/
structure Layout.IsBlank (layout : Layout) : Prop where
  newline : ∀ depth, Blank (layout.newline depth)
  gap : Blank layout.gap

/-- The layout without white space puts none anywhere. -/
theorem Layout.isBlank_compact : Layout.compact.IsBlank where
  newline _ := blank_nil
  gap := blank_nil

/-- A text that starts like a value: with no white space and no closing bracket. -/
def Starts (t : List Char) : Prop :=
  ∃ c rest, t = c :: rest ∧ isBlank c = false ∧ c ≠ ']'

theorem Starts.length_pos {t : List Char} (h : Starts t) : 0 < t.length := by
  obtain ⟨c, s, rfl, -⟩ := h
  exact Nat.succ_pos s.length

/-- How a text starts does not hang on what follows it. -/
theorem Starts.append {t : List Char} (h : Starts t) (rest : List Char) : Starts (t ++ rest) := by
  obtain ⟨c, s, rfl, hc⟩ := h
  exact ⟨c, s ++ rest, rfl, hc⟩

/-- White space before the start of a value is skipped, and nothing else. -/
theorem Starts.skipBlank_append {t ws : List Char} (h : Starts t) (hws : Blank ws) :
    skipBlank (ws ++ t) = t := by
  obtain ⟨c, s, rfl, hc, -⟩ := h
  rw [Json.skipBlank_append hws, skipBlank_cons hc]

/-- A number is written with a digit in front. -/
theorem write_number (layout : Layout) (depth n : Nat) :
    ∃ d ds, write layout depth (number n) = d :: ds ∧ d.isDigit := by
  rw [write, Nat.toList_repr]
  cases h : Nat.toDigits 10 n with
  | nil => exact absurd h Nat.toDigits_ne_nil
  | cons d ds =>
    have hd : d ∈ Nat.toDigits 10 n := h ▸ List.mem_cons_self
    exact ⟨d, ds, rfl, Nat.isDigit_of_mem_toDigits (by decide) (by decide) hd⟩

/-- A written value starts like one, and only `null` starts with the letter `n`. -/
theorem write_start (layout : Layout) (depth : Nat) (v : Json) :
    Starts (write layout depth v) ∧ (v ≠ null → (write layout depth v).head? ≠ some 'n') := by
  have hstart (c : Char) (s : List Char) (hc : isBlank c = false ∧ c ≠ ']') : Starts (c :: s) :=
    ⟨c, s, rfl, hc⟩
  cases v with
  | null => exact ⟨hstart _ _ (by decide), fun h => absurd rfl h⟩
  | flag b => cases b <;> exact ⟨hstart _ _ (by decide), fun _ => by simp [write]⟩
  | number n =>
    obtain ⟨d, ds, hw, hd⟩ := write_number layout depth n
    have hne (c : Char) (hc : c.isDigit = false) : d ≠ c := by
      rintro rfl
      rw [hc] at hd
      cases hd
    rw [hw]
    refine ⟨hstart d ds ⟨?_, hne ']' rfl⟩, fun _ => by simpa using hne 'n' rfl⟩
    simp [isBlank, hne ' ' rfl, hne '\n' rfl, hne '\t' rfl, hne '\r' rfl]
  | text s => exact ⟨hstart _ _ (by decide), fun _ => by simp [write, quote]⟩
  | array items =>
    cases items <;> rw [write] <;> exact ⟨hstart _ _ (by decide), fun _ => by simp⟩
  | object members =>
    cases members <;> rw [write] <;> exact ⟨hstart _ _ (by decide), fun _ => by simp⟩

/-- Behind white space a written value comes first. -/
theorem skipBlank_write {ws : List Char} (hws : Blank ws) (layout : Layout) (depth : Nat) (v : Json)
    (rest : List Char) :
    skipBlank (ws ++ (write layout depth v ++ rest)) = write layout depth v ++ rest :=
  ((write_start layout depth v).1.append rest).skipBlank_append hws

/-! ## Scalars -/

variable {α σ : Type}

/-- Behind white space the reader reads the value from the text and leaves what follows. -/
def Reader.Reads (read : Reader α) (t : List Char) (a : α) : Prop :=
  ∀ ws rest fuel, Blank ws → Ends rest → (ws ++ (t ++ rest)).length < fuel →
    read fuel (ws ++ (t ++ rest)) = .ok (a, rest)

namespace Codec

/-- The codec reads what it writes. -/
def Lawful (c : Codec α) : Prop :=
  ∀ layout : Layout, layout.IsBlank → ∀ depth a,
    Reader.Reads c.read (write layout depth (c.encode a)) a

/-- A machine word is read back from its digits. -/
theorem lawful_word : word.Lawful := by
  intro layout _ depth n ws rest fuel hws hrest _
  have hn : n.toNat < UInt32.size := n.toNat_lt_size
  have hread :
      readNumber (write layout depth (number n.toNat) ++ rest) = .ok (some n.toNat, rest) :=
    readNumber_repr (Nat.lt_trans hn (by decide)) hrest
  obtain ⟨d, ds, hw, hd⟩ := write_number layout depth n.toNat
  simp only [word, skipBlank_write hws]
  rw [hw, List.cons_append] at hread ⊢
  simp [hd, hread, bind, Except.bind, hn]

/-- A text is read back from its quotation. -/
theorem lawful_text : text.Lawful := by
  intro layout _ depth s ws rest fuel hws _ hfuel
  obtain ⟨t, ht, hread⟩ := exists_quote_append s rest
  simp only [text, skipBlank_write hws]
  simp only [text, write, ht, List.length_append, List.length_cons] at hfuel ⊢
  rw [hread fuel (by omega)]
  simp [bind, Except.bind]

/-- A truth value is read back from its name. -/
theorem lawful_flag : flag.Lawful := by
  intro layout _ depth b ws rest fuel hws _ _
  simp only [flag, skipBlank_write hws]
  cases b with
  | true => simp [write, expect, bind, Except.bind]
  | false => simp [write, expect, bind, Except.bind]

/-- A character is read back from the text that it makes. -/
theorem lawful_letter : letter.Lawful := by
  intro layout hlayout depth c ws rest fuel hws hrest hfuel
  have hread := lawful_text layout hlayout depth (.singleton c) ws rest fuel hws hrest hfuel
  simp only [letter, text] at hread ⊢
  rw [hread]
  simp [bind, Except.bind]

/-- Values whose names differ are read back from their names. -/
theorem lawful_choice {name : α → String} {all : List α} (hnames : (all.map name).Nodup)
    (hall : ∀ a, a ∈ all) : (choice name all).Lawful := by
  intro layout _ depth a ws rest fuel hws _ hfuel
  obtain ⟨t, ht, hread⟩ := exists_quote_append (name a) rest
  have hfind : all.find? (fun b => name b == name a) = some a := find?_key name hnames (hall a)
  simp only [choice, skipBlank_write hws]
  simp only [choice, write, ht, List.length_append, List.length_cons] at hfuel ⊢
  simp only [choice.named, hread fuel (by omega), bind, Except.bind, String.ofList_toList, hfind]

/-- A value may be left out if it is never written as `null`. -/
theorem Lawful.optional {c : Codec α} (h : c.Lawful) (hnull : ∀ a, c.encode a ≠ null) :
    (optional c).Lawful := by
  intro layout hlayout depth a ws rest fuel hws hrest hfuel
  simp only [Codec.optional, skipBlank_write hws]
  cases a with
  | none => simp [write, expect, bind, Except.bind]
  | some a =>
    have hread := h layout hlayout depth a [] rest fuel blank_nil hrest
      (by simp [Codec.optional] at hfuel ⊢; omega)
    have hn := (write_start layout depth (c.encode a)).2 (hnull a)
    simp only [List.nil_append] at hread ⊢
    split
    · next s heq =>
      exfalso
      obtain ⟨e, t, ht, -⟩ := (write_start layout depth (c.encode a)).1
      rw [ht] at hn heq
      cases heq
      exact hn rfl
    · simp only [hread, bind, Except.bind]

end Codec

/-! ## Parts with commas between them -/

/-- The comma in front of a part that is not the first one. -/
def comma (first : Bool) : List Char :=
  if first then [] else [',']

/-- The parts of an array or object, each but the first behind a comma. -/
def parts : (first : Bool) → List (List Char) → List Char
  | _, [] => []
  | first, t :: ts => comma first ++ (t ++ parts false ts)

/-- An element of an array, behind the white space in front of it. -/
def element (layout : Layout) (depth : Nat) (v : Json) : List Char :=
  layout.newline depth ++ write layout depth v

/-- Every element of an array takes a character at least. -/
theorem length_element_pos (layout : Layout) (depth : Nat) (v : Json) :
    0 < (element layout depth v).length := by
  have := (write_start layout depth v).1.length_pos
  rw [element, List.length_append]
  omega

/-- A member of an object, behind the white space in front of it. -/
def member (layout : Layout) (depth : Nat) (m : String × Json) : List Char :=
  layout.newline depth ++ (quote m.1 ++ ':' :: (layout.gap ++ write layout depth m.2))

/-- Every member of an object takes a character at least. -/
theorem length_member_pos (layout : Layout) (depth : Nat) (m : String × Json) :
    0 < (member layout depth m).length := by
  rw [member, List.length_append, List.length_append, List.length_cons]
  omega

/-- The items of an array are written as its elements, with commas between them. -/
theorem writeItems_eq (layout : Layout) (depth : Nat) (vs : List Json) :
    writeItems layout depth vs = parts true (vs.map (element layout depth)) := by
  cases vs with
  | nil => rfl
  | cons v vs =>
    induction vs generalizing v with
    | nil => simp [writeItems, parts, comma, element]
    | cons w vs ih => simp [writeItems, parts, comma, element, ih]

/-- The members of an object are written one behind the other, with commas between them. -/
theorem writeMembers_eq (layout : Layout) (depth : Nat) (ms : List (String × Json)) :
    writeMembers layout depth ms = parts true (ms.map (member layout depth)) := by
  cases ms with
  | nil => rfl
  | cons m ms =>
    induction ms generalizing m with
    | nil => simp [writeMembers, parts, comma, member]
    | cons m' ms ih => simp [writeMembers, parts, comma, member, ih]

/-- An array is its elements between brackets. -/
theorem write_array {layout : Layout} (h : layout.IsBlank) (depth : Nat) (vs : List Json) :
    ∃ ws, Blank ws ∧ ∀ rest, write layout depth (array vs) ++ rest =
      '[' :: (parts true (vs.map (element layout (depth + 1))) ++ (ws ++ ']' :: rest)) := by
  cases vs with
  | nil => exact ⟨[], blank_nil, fun rest => rfl⟩
  | cons v vs =>
    refine ⟨layout.newline depth, h.newline depth, fun rest => ?_⟩
    simp [write, writeItems_eq]

/-- An object is its members between brackets. -/
theorem write_object {layout : Layout} (h : layout.IsBlank) (depth : Nat)
    (ms : List (String × Json)) :
    ∃ ws, Blank ws ∧ ∀ rest, write layout depth (object ms) ++ rest =
      '\x7b' :: (parts true (ms.map (member layout (depth + 1))) ++ (ws ++ '\x7d' :: rest)) := by
  cases ms with
  | nil => exact ⟨[], blank_nil, fun rest => rfl⟩
  | cons m ms =>
    refine ⟨layout.newline depth, h.newline depth, fun rest => ?_⟩
    simp [write, writeMembers_eq]

/-- No number goes on with what is behind a part. -/
theorem ends_parts (ts : List (List Char)) {ws : List Char} (hws : Blank ws) {close : Char}
    (hclose : close = ']' ∨ close = '\x7d') (rest : List Char) :
    Ends (parts false ts ++ (ws ++ close :: rest)) := by
  have hcons (c : Char) (s : List Char)
      (h : c.isDigit = false ∧ c ≠ '.' ∧ c ≠ 'e' ∧ c ≠ 'E') : Ends (c :: s) := by
    intro d hd
    cases hd
    exact h
  cases ts with
  | cons t ts => exact hcons ',' _ (by decide)
  | nil =>
    cases ws with
    | nil => rcases hclose with rfl | rfl <;> exact hcons _ _ (by decide)
    | cons c ws =>
      have hc : isBlank c = true := hws c List.mem_cons_self
      simp only [isBlank, Bool.or_eq_true, beq_iff_eq] at hc
      rcases hc with ((rfl | rfl) | rfl) | rfl <;> exact hcons _ _ (by decide)

namespace Codec

/-! ## Lists -/

/-- The next value of an array is found behind its comma. -/
theorem nextItem_comma {first : Bool} {ws t : List Char} (hws : Blank ws) (ht : Starts t) :
    nextItem first (comma first ++ (ws ++ t)) = .ok (some t) := by
  have hskip := ht.skipBlank_append hws
  obtain ⟨c, s, rfl, -, hc⟩ := ht
  cases first with
  | true => simp [nextItem, comma, hskip, hc]
  | false =>
    have hblank : isBlank ',' = false := rfl
    have hne : (',' == ']') = false := rfl
    simp only [nextItem, comma, Bool.false_eq_true, ↓reduceIte, List.cons_append, List.nil_append,
      skipBlank_cons hblank, hskip, hne, beq_self_eq_true]
    split
    · next heq => cases heq
    · next heq => cases heq; exact absurd rfl hc
    · rfl

/-- At the closing bracket there is no other value. -/
theorem nextItem_close {first : Bool} {ws : List Char} (hws : Blank ws) (rest : List Char) :
    nextItem first (ws ++ ']' :: rest) = .ok none := by
  have hclose : isBlank ']' = false := rfl
  simp [nextItem, skipBlank_append hws, skipBlank_cons hclose]

/-- An element is read, and then those behind it. -/
theorem Lawful.readItems_cons {c : Codec α} (h : c.Lawful) {layout : Layout}
    (hlayout : layout.IsBlank) (depth : Nat) (a : α) (first : Bool) {fuel : Nat} {s : List Char}
    (hs : Ends s) (hfuel : (element layout depth (c.encode a) ++ s).length < fuel + 1) :
    readItems c.read (fuel + 1) first
        (comma first ++ (element layout depth (c.encode a) ++ s)) =
      (readItems c.read fuel false s).map fun p => (a :: p.1, p.2) := by
  have hstart : Starts (write layout depth (c.encode a) ++ s) :=
    (write_start layout depth (c.encode a)).1.append s
  rw [element, List.append_assoc] at hfuel ⊢
  have hread := h layout hlayout depth a [] s (fuel + 1) blank_nil hs
    (by rw [List.length_append] at hfuel; exact Nat.lt_of_le_of_lt (Nat.le_add_left _ _) hfuel)
  rw [List.nil_append] at hread
  simp only [readItems, nextItem_comma (hlayout.newline depth) hstart, hread, bind, Except.bind]
  cases readItems c.read fuel false s <;> rfl

/-- The elements of an array are read up to its closing bracket. -/
theorem Lawful.readItems_parts {c : Codec α} (h : c.Lawful) {layout : Layout}
    (hlayout : layout.IsBlank) (depth : Nat) {ws : List Char} (hws : Blank ws) (rest : List Char)
    (as : List α) (first : Bool) {fuel : Nat}
    (hfuel : (parts first ((as.map c.encode).map (element layout depth)) ++
      (ws ++ ']' :: rest)).length < fuel) :
    readItems c.read fuel first (parts first ((as.map c.encode).map (element layout depth)) ++
      (ws ++ ']' :: rest)) = .ok (as, rest) := by
  have hclose : isBlank ']' = false := rfl
  induction as generalizing first fuel with
  | nil =>
    obtain ⟨n, rfl⟩ := Nat.exists_eq_add_one_of_ne_zero (Nat.ne_zero_of_lt hfuel)
    simp only [List.map_nil, parts, List.nil_append, readItems, nextItem_close hws,
      punctuation_append hws hclose, bind, Except.bind]
  | cons a as ih =>
    obtain ⟨n, rfl⟩ := Nat.exists_eq_add_one_of_ne_zero (Nat.ne_zero_of_lt hfuel)
    have hends := ends_parts ((as.map c.encode).map (element layout depth)) hws (.inl rfl) rest
    have hpos := length_element_pos layout depth (c.encode a)
    simp only [List.map_cons, parts, List.append_assoc, List.length_append] at hfuel ⊢
    have hn : (parts false ((as.map c.encode).map (element layout depth)) ++
        (ws ++ ']' :: rest)).length < n := by
      simp only [List.length_append]
      omega
    rw [h.readItems_cons hlayout depth a first hends (by simp only [List.length_append]; omega),
      ih false hn]
    rfl

/-- A list is read back if its elements are. -/
theorem Lawful.list {c : Codec α} (h : c.Lawful) : (list c).Lawful := by
  intro layout hlayout depth as ws rest fuel hws _ hfuel
  obtain ⟨ws', hws', hwrite⟩ := write_array hlayout depth (as.map c.encode)
  simp only [Codec.list, skipBlank_write hws]
  simp only [Codec.list, hwrite, List.length_append, List.length_cons] at hfuel ⊢
  exact h.readItems_parts hlayout (depth + 1) hws' rest as true
    (by simp only [List.length_append, List.length_cons]; omega)

end Codec

/-! ## Records -/

/-- The field is read back from the record it is written from: reading it stores in another record
what `put` takes over from the first one. -/
def Field.Lawful (f : Field σ) (put : σ → σ → σ) : Prop :=
  ∀ layout : Layout, layout.IsBlank → ∀ depth a r,
    Reader.Reads (f.read r) (write layout depth (f.encode a)) (put a r)

/-- A field is read back, and stored in its place, if its value is. -/
theorem Codec.Lawful.field {c : Codec α} (h : c.Lawful) {name : String} {get : σ → α}
    {set : α → σ → σ} : (Field.of name c get set).Lawful fun a r => set (get a) r := by
  intro layout hlayout depth a r ws rest fuel hws hrest hfuel
  have hread := h layout hlayout depth (get a) ws rest fuel hws hrest hfuel
  simp only [Field.of, hread, bind, Except.bind]

/-- A field that is demanded is read back like one that is not. -/
theorem Field.Lawful.demanded {f : Field σ} {put : σ → σ → σ} (h : f.Lawful put) :
    f.demanded.Lawful put :=
  h

namespace Codec

/-- The next name is found behind its comma and its opening quote. -/
theorem nextName_comma {first : Bool} {ws : List Char} (hws : Blank ws) (s : List Char) :
    nextName first (comma first ++ (ws ++ '"' :: s)) = .ok (some s) := by
  have hquote : isBlank '"' = false := rfl
  cases first with
  | true => simp [nextName, comma, skipBlank_append hws, skipBlank_cons hquote]
  | false =>
    have hcomma : isBlank ',' = false := rfl
    simp [nextName, comma, skipBlank_cons hcomma, punctuation_append hws hquote, bind, Except.bind]

/-- At the closing bracket there is no other name. -/
theorem nextName_close {first : Bool} {ws : List Char} (hws : Blank ws) (rest : List Char) :
    nextName first (ws ++ '\x7d' :: rest) = .ok none := by
  have hclose : isBlank '\x7d' = false := rfl
  simp [nextName, skipBlank_append hws, skipBlank_cons hclose]

/-- The member of a field that has not been read yet is read, and then those behind it. -/
theorem readMembers_cons {fields : List (Field σ)} {f : Field σ} {put : σ → σ → σ}
    (hf : f.Lawful put) (hfind : fields.find? (fun g => g.name == f.name) = some f)
    {layout : Layout} (hlayout : layout.IsBlank) (depth : Nat) (a r : σ) (first : Bool)
    {seen : List String}
    (hseen : f.name ∉ seen) {fuel : Nat} {s : List Char} (hs : Ends s)
    (hfuel : (member layout depth (f.name, f.encode a) ++ s).length < fuel + 1) :
    readMembers fields (fuel + 1) first seen r
        (comma first ++ (member layout depth (f.name, f.encode a) ++ s)) =
      readMembers fields fuel false (f.name :: seen) (put a r) s := by
  have hcolon : isBlank ':' = false := rfl
  obtain ⟨t, ht, hname⟩ := exists_quote_append f.name
    (':' :: (layout.gap ++ (write layout depth (f.encode a) ++ s)))
  have hlength := congrArg List.length ht
  simp only [member, List.append_assoc, List.cons_append] at hfuel ⊢
  simp only [List.length_append, List.length_cons] at hfuel hlength
  have hread := hf layout hlayout depth a r layout.gap s (fuel + 1) hlayout.gap hs
    (by simp only [List.length_append]; omega)
  have hpunctuation (u : List Char) : punctuation ':' (':' :: u) = .ok u :=
    punctuation_append blank_nil hcolon u
  simp only [readMembers, ht, nextName_comma (hlayout.newline depth), hname (fuel + 1) (by omega),
    String.ofList_toList, hfind, List.contains_eq_mem, hseen, decide_false, Bool.false_eq_true,
    ↓reduceIte, hpunctuation, hread, bind, Except.bind]

/-- The members of an object are read up to its closing bracket, if they are the fields that have
not been read yet. -/
theorem readMembers_parts {fields : List (Field σ)} {layout : Layout} (hlayout : layout.IsBlank)
    (depth : Nat) (a : σ) {ws : List Char} (hws : Blank ws) (rest : List Char)
    {todo : List (Field σ)} {puts : List (σ → σ → σ)} (h : List.Forall₂ Field.Lawful todo puts)
    (hnames : (todo.map (·.name)).Nodup)
    (hfind : ∀ f ∈ todo, fields.find? (fun g => g.name == f.name) = some f) (first : Bool)
    {seen : List String} (hseen : ∀ f ∈ todo, f.name ∉ seen)
    (hrequired : ∀ f ∈ fields, f.name ∈ seen ∨ f ∈ todo) (r : σ) {fuel : Nat}
    (hfuel : (parts first ((todo.map fun f => (f.name, f.encode a)).map (member layout depth)) ++
      (ws ++ '\x7d' :: rest)).length < fuel) :
    readMembers fields fuel first seen r
      (parts first ((todo.map fun f => (f.name, f.encode a)).map (member layout depth)) ++
        (ws ++ '\x7d' :: rest)) = .ok (puts.foldl (fun r put => put a r) r, rest) := by
  obtain ⟨n, rfl⟩ := Nat.exists_eq_add_one_of_ne_zero (Nat.ne_zero_of_lt hfuel)
  induction h generalizing first seen r n with
  | nil =>
    have hclose : isBlank '\x7d' = false := rfl
    have hall : (fields.any fun f => f.required && !seen.contains f.name) = false := by
      rw [List.any_eq_false]
      intro f hf
      have hmem : f.name ∈ seen := (hrequired f hf).resolve_right List.not_mem_nil
      simp [hmem]
    simp only [List.map_nil, parts, List.nil_append, readMembers, nextName_close hws, hall,
      punctuation_append hws hclose, bind, Except.bind, Bool.false_eq_true, ↓reduceIte,
      List.foldl_nil]
  | @cons f put todo puts hf _ ih =>
    rw [List.map_cons, List.nodup_cons] at hnames
    have hends := ends_parts ((todo.map fun f => (f.name, f.encode a)).map (member layout depth))
      hws (.inr rfl) rest
    have hpos := length_member_pos layout depth (f.name, f.encode a)
    simp only [List.map_cons, parts, List.append_assoc, List.length_append] at hfuel ⊢
    rw [readMembers_cons hf (hfind f List.mem_cons_self) hlayout depth a r first
      (hseen f List.mem_cons_self) hends (by simp only [List.length_append]; omega)]
    obtain ⟨n, rfl⟩ : ∃ m, n = m + 1 := ⟨n - 1, by omega⟩
    refine ih hnames.2 (fun g hg => hfind g (List.mem_cons_of_mem f hg)) false ?_ ?_ (put a r) n
      (by simp only [List.length_append]; omega)
    · intro g hg hmem
      rcases List.mem_cons.1 hmem with hname | hmem
      · exact hnames.1 (hname ▸ List.mem_map_of_mem hg)
      · exact hseen g (List.mem_cons_of_mem f hg) hmem
    · intro g hg
      rcases hrequired g hg with hmem | hmem
      · exact .inl (List.mem_cons_of_mem _ hmem)
      · rcases List.mem_cons.1 hmem with rfl | hmem
        · exact .inl List.mem_cons_self
        · exact .inr hmem

/-- A record is read back if its fields are, if they have different names, and if nothing of the
blank record is left once all fields are stored. -/
theorem lawful_record {blank : σ} {fields : List (Field σ)} {puts : List (σ → σ → σ)}
    (h : List.Forall₂ Field.Lawful fields puts) (hnames : (fields.map (·.name)).Nodup)
    (hblank : ∀ a, puts.foldl (fun r put => put a r) blank = a) : (record blank fields).Lawful := by
  intro layout hlayout depth a ws rest fuel hws _ hfuel
  obtain ⟨ws', hws', hwrite⟩ :=
    write_object hlayout depth (fields.map fun f => (f.name, f.encode a))
  simp only [record, skipBlank_write hws]
  simp only [record, hwrite, List.length_append, List.length_cons] at hfuel ⊢
  rw [readMembers_parts hlayout (depth + 1) a hws' rest h hnames
    (fun f hf => find?_key Field.name hnames hf) true (fun f _ => List.not_mem_nil)
    (fun f hf => .inr hf) blank
    (by simp only [List.length_append, List.length_cons]; omega), hblank]

/-! ## Documents -/

/-- A lawful codec decodes what it prints. -/
theorem Lawful.decode_print {c : Codec α} (h : c.Lawful) {layout : Layout}
    (hlayout : layout.IsBlank) (a : α) : c.decode (c.print layout a) = .ok a := by
  have hread := h layout hlayout 0 a [] [] ((write layout 0 (c.encode a)).length + 1) blank_nil
    ends_nil (by simp)
  rw [List.nil_append, List.append_nil] at hread
  simp only [decode, print, render, String.toList_ofList, hread, bind, Except.bind]
  rfl

end Codec

end ItemSieve.Json
