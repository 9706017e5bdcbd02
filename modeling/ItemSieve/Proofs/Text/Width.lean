import ItemSieve.Text.Width

/-!
# Cutting a text to a width

A text takes as many columns as its characters do by themselves (`Text.total`) if none of them joins
another one. Sets of characters over which all texts are like that are `Text.Additive`. The lone
characters are such a set (`Text.additive_isLone`), and printable ASCII, precomposed Latin letters,
kana, ideographs and fullwidth forms are lone (`Text.isLone_of_inRanges`). Over an additive set
`fitting` finds the longest start that fits, with the marks behind its last letter
(`Text.Additive.isLongestStart_fitting`), so cutting shows as much of a text as there is room for,
and cutting again changes nothing (`Text.truncate_longest`).
-/

namespace ItemSieve.Text

/-! ## Additive sets of characters -/

/-- The columns of the characters of a text, each of them shown by itself. -/
def total : List Char → Nat
  | [] => 0
  | c :: rest => (columns c).getD 0 + total rest

@[simp] theorem total_nil : total [] = 0 := rfl

@[simp] theorem total_cons (c : Char) (s : List Char) :
    total (c :: s) = (columns c).getD 0 + total s := rfl

@[simp] theorem total_append (s t : List Char) : total (s ++ t) = total s + total t := by
  induction s with
  | nil => rw [List.nil_append, total_nil, Nat.zero_add]
  | cons c s ih => rw [List.cons_append, total_cons, total_cons, ih, Nat.add_assoc]

/-- The texts over a set of characters take the columns of their characters. -/
def Additive (A : Char → Prop) : Prop :=
  ∀ s : List Char, (∀ c ∈ s, A c) → width s = total s

/-- The character has columns of its own. It makes nothing with the character before it and asks for
no style of it. -/
structure IsLone (c : Char) : Prop where
  columns : (Text.columns c).isSome
  start : Start.ofChar c = .plain
  style : Style.ofChar? c = none

/-- A lone character in front of others is shown by itself. -/
theorem IsLone.extend {c : Char} (h : IsLone c) (n : Int) :
    Reading.extend c ⟨n, .plain, []⟩ = ⟨n + (Text.columns c).getD 0, .plain, []⟩ := by
  obtain ⟨k, hk⟩ := Option.isSome_iff_exists.1 h.columns
  simp [Reading.extend, h.style, Reading.unstyled, Reading.put, Start.join?, h.start, hk]

/-- Lone characters are read as plain text of all their columns, with nothing left open. -/
theorem foldr_extend {s : List Char} (h : ∀ c ∈ s, IsLone c) :
    s.foldr Reading.extend .empty = ⟨total s, .plain, []⟩ := by
  induction s with
  | nil => rfl
  | cons c rest ih =>
    have hrest : rest.foldr Reading.extend .empty = ⟨total rest, .plain, []⟩ :=
      ih fun d hd => h d (List.mem_cons_of_mem c hd)
    rw [List.foldr_cons, hrest, (h c List.mem_cons_self).extend, total_cons]
    congr 1
    omega

/-- The characters that stand alone are an additive set. -/
theorem additive_isLone : Additive IsLone := by
  intro s hs
  rw [width, foldr_extend hs]
  exact Int.toNat_natCast _

/-! ## Blocks of lone characters -/

/-- The code points of control characters, of variation selectors, and of the characters that are
shown as one with some character before them. -/
def jointRanges : List CodeRange :=
  [(0, 0x1F), (0x7F, 0x9F), (0x5DC, 0x5DC), (0x1A10, 0x1A10), (0xA4FC, 0xA4FD), (0xFE01, 0xFE01),
    (0xFE0E, 0xFE0F), (0x10C03, 0x10C03), (0x16D67, 0x16D68), (0x1F1E6, 0x1F1FF),
    (0x1F3FB, 0x1F3FF)] ++ alefRanges ++ emojiRanges ++ subscriptRanges ++ consonantRanges

/-- Printable ASCII, precomposed Latin letters, the combining acute accent, the ellipsis, kana,
ideographs, Hangul syllables and fullwidth forms. -/
def loneBlocks : List CodeRange :=
  [(0x20, 0x7E), (0xC0, 0x24F), (0x301, 0x301), (0x1E00, 0x1EFF), (0x2026, 0x2026),
    (0x3000, 0x30FF), (0x3400, 0x4DBF), (0x4E00, 0x9FFF), (0xAC00, 0xD7A3), (0xF900, 0xFAFF),
    (0xFF01, 0xFF60), (0xFFE0, 0xFFE6)]

/-- The code point of the character is in none of the ranges. -/
def Apart (ranges : List CodeRange) (c : Char) : Prop :=
  ∀ r ∈ ranges, c.toNat < r.1 ∨ r.2 < c.toNat

section
variable {ranges : List CodeRange} {c : Char}

/-- A character apart from the ranges is in none of them. -/
theorem Apart.inRanges_eq_false (h : Apart ranges c) : inRanges ranges c = false := by
  unfold inRanges
  split
  · next r hfind =>
    have hlast := List.find?_some hfind
    rw [decide_eq_true_iff] at hlast
    have hapart := h r (List.mem_of_find?_eq_some hfind)
    rw [decide_eq_false_iff_not]
    omega
  · rfl

/-- A character apart from the ranges has none of their code points. -/
theorem Apart.toNat_ne (h : Apart ranges c) {n : Nat} (hn : ∃ r ∈ ranges, r.1 ≤ n ∧ n ≤ r.2) :
    c.toNat ≠ n := by
  obtain ⟨r, hr, hlow, hhigh⟩ := hn
  have hapart := h r hr
  omega

/-- A character apart from the ranges is none of those in them. -/
theorem Apart.ne (h : Apart ranges c) {d : Char}
    (hd : ∃ r ∈ ranges, r.1 ≤ d.toNat ∧ d.toNat ≤ r.2) : c ≠ d := by
  rintro rfl
  exact h.toNat_ne hd rfl

end

/-- A character apart from these makes nothing with the one before it. -/
theorem Apart.ofChar_eq_plain {c : Char} (h : Apart jointRanges c) : Start.ofChar c = .plain := by
  have halef : Apart alefRanges c := fun r hr => h r (by simp [jointRanges, hr])
  have hemoji : Apart emojiRanges c := fun r hr => h r (by simp [jointRanges, hr])
  have hsubscript : Apart subscriptRanges c := fun r hr => h r (by simp [jointRanges, hr])
  have hconsonant : Apart consonantRanges c := fun r hr => h r (by simp [jointRanges, hr])
  have hflag : isFlagLetter c = false := by
    have hapart := h (0x1F1E6, 0x1F1FF) (by decide)
    simp only [isFlagLetter, Bool.and_eq_false_iff, decide_eq_false_iff_not]
    omega
  have htone : isSkinTone c = false := by
    have hapart := h (0x1F3FB, 0x1F3FF) (by decide)
    simp only [isSkinTone, Bool.and_eq_false_iff, decide_eq_false_iff_not]
    omega
  have hend : Ending.ofChar? c = none := by
    have hlamed : c ≠ '\u05DC' := h.ne (by decide)
    have hya : c ≠ '\u1A10' := h.ne (by decide)
    have htone : c ≠ '\uA4FC' ∧ c ≠ '\uA4FD' := ⟨h.ne (by decide), h.ne (by decide)⟩
    have horkhon : c.toNat ≠ 0x10C03 := h.toNat_ne (by decide)
    simp [Ending.ofChar?, isConsonant, hsubscript.inRanges_eq_false, hconsonant.inRanges_eq_false,
      hlamed, hya, htone, horkhon]
  have hline : c ≠ '\n' := h.ne (by decide)
  have hsignE : c.toNat ≠ 0x16D67 := h.toNat_ne (by decide)
  have hsignAi : c.toNat ≠ 0x16D68 := h.toNat_ne (by decide)
  simp [Start.ofChar, isAlef, isEmoji, halef.inRanges_eq_false, hemoji.inRanges_eq_false, hend,
    hline, hsignE, hsignAi, hflag, htone]

/-- The columns of a character that is no control character. -/
theorem columns_eq {c : Char} (hlow : 0x20 ≤ c.toNat) (hhigh : c.toNat < 0x7F ∨ 0xA0 ≤ c.toNat) :
    columns c = some (if c = '\u17D8' then 3 else if inRanges blankRanges c then 0
      else if inRanges wideRanges c then 2 else 1) := by
  have hcontrol : (c.toNat < 0x20 || 0x7F ≤ c.toNat && c.toNat < 0xA0) = false := by
    simp only [Bool.or_eq_false_iff, Bool.and_eq_false_iff, decide_eq_false_iff_not]
    omega
  rw [columns, hcontrol, if_neg Bool.false_ne_true]
  simp only [beq_iff_eq, apply_ite some]

/-- A character is lone unless its code point is one of these. -/
theorem Apart.isLone {c : Char} (h : Apart jointRanges c) : IsLone c where
  columns := by
    have hlow := h (0, 0x1F) (by decide)
    have hhigh := h (0x7F, 0x9F) (by decide)
    rw [columns_eq (by omega) (by omega)]
    rfl
  start := h.ofChar_eq_plain
  style := by
    have hemoji : c ≠ '\uFE0F' := h.ne (by decide)
    have htext : c ≠ '\uFE0E' := h.ne (by decide)
    have hfullwidth : c ≠ '\uFE01' := h.ne (by decide)
    simp [Style.ofChar?, hemoji, htext, hfullwidth]

/-- No block of lone characters meets a range of joint ones. -/
theorem apart_loneBlocks :
    ∀ b ∈ loneBlocks, ∀ r ∈ jointRanges, b.2 < r.1 ∨ r.2 < b.1 := by
  decide +kernel

/-- The characters of the blocks are lone. -/
theorem isLone_of_inRanges {c : Char} (h : inRanges loneBlocks c = true) : IsLone c := by
  unfold inRanges at h
  split at h
  · next b hfind =>
    have hhigh := List.find?_some hfind
    rw [decide_eq_true_iff] at h hhigh
    refine Apart.isLone ?_
    intro r hr
    have hapart := apart_loneBlocks b (List.mem_of_find?_eq_some hfind) r hr
    omega
  · cases h

/-- A text that is checked to be in the blocks is made of lone characters. -/
theorem isLone_of_all {s : List Char} (h : s.all (inRanges loneBlocks) = true) :
    ∀ c ∈ s, IsLone c := by
  intro c hc
  exact isLone_of_inRanges (List.all_eq_true.1 h c hc)

/-- The ellipsis is a lone character. -/
theorem isLone_ellipsis : IsLone '…' :=
  isLone_of_inRanges (by decide +kernel)

/-- Printable ASCII characters have one column. -/
theorem columns_ascii {c : Char} (hlow : 0x20 ≤ c.toNat) (hhigh : c.toNat ≤ 0x7E) :
    columns c = some 1 := by
  have htables : ∀ r ∈ blankRanges ++ wideRanges, 0x7E < r.1 ∨ r.2 < 0x20 := by decide +kernel
  have hblank : Apart blankRanges c := by
    intro r hr
    have hapart := htables r (List.mem_append_left _ hr)
    omega
  have hwide : Apart wideRanges c := by
    intro r hr
    have hapart := htables r (List.mem_append_right _ hr)
    omega
  have hbeyyal : c ≠ '\u17D8' := by
    rintro rfl
    simp only [Char.reduceToNat] at hhigh
    omega
  rw [columns_eq hlow (by omega), if_neg hbeyyal, hblank.inRanges_eq_false,
    hwide.inRanges_eq_false]
  rfl

/-- Printable ASCII is made of lone characters. -/
theorem isLone_ascii {c : Char} (hlow : 0x20 ≤ c.toNat) (hhigh : c.toNat ≤ 0x7E) : IsLone c := by
  refine isLone_of_inRanges ?_
  simp [inRanges, loneBlocks, hlow, hhigh]

/-- A digit is printable ASCII. -/
theorem ascii_of_isDigit {c : Char} (h : c.isDigit = true) : 0x20 ≤ c.toNat ∧ c.toNat ≤ 0x7E := by
  obtain ⟨hlow, hhigh⟩ := Char.isDigit_iff_toNat.1 h
  simp only [Char.reduceToNat] at hlow hhigh
  omega

/-! ## Fields of characters of one column -/

/-- Characters of one column each take as many columns as there are of them. -/
theorem total_eq_length {s : List Char} (h : ∀ c ∈ s, columns c = some 1) : total s = s.length := by
  induction s with
  | nil => rfl
  | cons c rest ih =>
    have hrest := ih fun d hd => h d (List.mem_cons_of_mem c hd)
    rw [total_cons, hrest, h c List.mem_cons_self, Option.getD_some, List.length_cons, Nat.add_comm]

/-- A blank takes one column. -/
theorem columns_blank : columns ' ' = some 1 :=
  columns_ascii (by decide) (by decide)

/-- Blanks take as many columns as there are. -/
theorem total_blanks (n : Nat) : total (List.replicate n ' ') = n := by
  rw [total_eq_length, List.length_replicate]
  intro c hc
  rw [List.eq_of_mem_replicate hc]
  exact columns_blank

/-- A text of such characters that does not exceed its field fills it when it is padded. -/
theorem total_padLeft {size : Nat} {s : List Char} (h : ∀ c ∈ s, columns c = some 1)
    (hsize : s.length ≤ size) : total (padLeft size s) = size := by
  rw [padLeft, total_append, total_blanks, total_eq_length h]
  omega

/-- A text of narrow characters takes the size that it is padded to. -/
theorem total_padRight {size : Nat} {s : List Char} (h : ∀ c ∈ s, columns c = some 1)
    (hsize : s.length ≤ size) : total (padRight size s) = size := by
  rw [padRight, total_append, total_blanks, total_eq_length h]
  omega

/-! ## The longest start that fits -/

/-- The longest start of a text that fits into `room` columns. -/
structure IsLongestStart (room : Nat) (s start : List Char) : Prop where
  isStart : start <+: s
  fits : width start ≤ room
  longest : ∀ t, t <+: s → width t ≤ room → t <+: start

/-- There is only one. -/
theorem IsLongestStart.eq {room : Nat} {s t u : List Char} (ht : IsLongestStart room s t)
    (hu : IsLongestStart room s u) : t = u := by
  have htu : t <+: u := hu.longest t ht.isStart ht.fits
  have hut : u <+: t := ht.longest u hu.isStart hu.fits
  exact htu.eq_of_length_le hut.length_le

/-- What fits of a text is a start of it. -/
theorem fitting_isStart (room : Nat) (s : List Char) : fitting room s <+: s := by
  induction s generalizing room with
  | nil => exact List.prefix_rfl
  | cons c rest ih =>
    rw [fitting]
    split
    · exact List.cons_prefix_cons.2 ⟨rfl, ih _⟩
    · exact List.nil_prefix

/-- What fits takes no more columns than there are. -/
theorem total_fitting_le (room : Nat) (s : List Char) : total (fitting room s) ≤ room := by
  induction s generalizing room with
  | nil => exact Nat.zero_le room
  | cons c rest ih =>
    rw [fitting]
    split
    · next hfits =>
      have hrest := ih (room - (columns c).getD 0)
      rw [total_cons]
      omega
    · exact Nat.zero_le room

/-- A start that fits is not cut: none of its characters exceeds what those before it leave. -/
theorem start_fitting {room : Nat} {s t : List Char} (ht : t <+: s) (hfits : total t ≤ room) :
    t <+: fitting room s := by
  -- On the text, with the room that the characters passed leave.
  induction s generalizing room t with
  | nil => exact ht
  | cons c rest ih =>
    cases t with
    | nil => exact List.nil_prefix
    | cons d t =>
      obtain ⟨rfl, hrest⟩ := List.cons_prefix_cons.1 ht
      rw [total_cons] at hfits
      have hneed : (columns d).getD 0 ≤ room := by omega
      have hleft : total t ≤ room - (columns d).getD 0 := by omega
      rw [fitting, if_pos hneed]
      exact List.cons_prefix_cons.2 ⟨rfl, ih hrest hleft⟩

section
variable {A : Char → Prop} {s : List Char}

/-- Over an additive set the starts of a text are measured by their characters. -/
theorem Additive.width_start (hA : Additive A) (hs : ∀ c ∈ s, A c) {t : List Char} (ht : t <+: s) :
    width t = total t :=
  hA t fun c hc => hs c (ht.subset hc)

/-- Over an additive set, what fits is the longest start that does. -/
theorem Additive.isLongestStart_fitting (hA : Additive A) (hs : ∀ c ∈ s, A c) (room : Nat) :
    IsLongestStart room s (fitting room s) where
  isStart := fitting_isStart room s
  fits := by
    rw [hA.width_start hs (fitting_isStart room s)]
    exact total_fitting_le room s
  longest := by
    intro t ht hfits
    rw [hA.width_start hs ht] at hfits
    exact start_fitting ht hfits

/-! ## Cutting -/

/-- What there is to be seen of a text in so many columns: all of it if it fits, and otherwise the
longest start that leaves a column, with an ellipsis behind it. -/
structure Shows (limit : Nat) (s shown : List Char) : Prop where
  whole : width s ≤ limit → shown = s
  cut : limit < width s → ∃ start, shown = start ++ ['…'] ∧ IsLongestStart (limit - 1) s start

/-- Over an additive set, a cut text shows all there is to be seen in so many columns. -/
theorem Additive.shows_truncate (hA : Additive A) (hs : ∀ c ∈ s, A c) (limit : Nat) :
    Shows limit s (truncate limit s) where
  whole := fun hfits => if_pos hfits
  cut := fun hexceeds =>
    ⟨fitting (limit - 1) s, if_neg (Nat.not_le.2 hexceeds), hA.isLongestStart_fitting hs _⟩

/-- Cutting brings in no character but the ellipsis. -/
theorem mem_truncate (hdots : A '…') (hs : ∀ c ∈ s, A c) (limit : Nat) :
    ∀ c ∈ truncate limit s, A c := by
  intro c hc
  unfold truncate at hc
  split at hc
  · exact hs c hc
  · rcases List.mem_append.1 hc with hstart | hend
    · exact hs c ((fitting_isStart _ s).subset hstart)
    · rw [List.mem_singleton.1 hend]
      exact hdots

/-- Over an additive set with the ellipsis, a cut text keeps to its columns, or to one if there are
none. -/
theorem Additive.width_truncate_le (hA : Additive A) (hdots : A '…') (hs : ∀ c ∈ s, A c)
    (limit : Nat) : width (truncate limit s) ≤ max limit 1 := by
  by_cases hfits : width s ≤ limit
  · rw [truncate, if_pos hfits]
    omega
  · have hdot : total ['…'] = 1 := by decide +kernel
    have hstart := total_fitting_le (limit - 1) s
    rw [hA _ (mem_truncate hdots hs limit), truncate, if_neg hfits, total_append, hdot]
    omega

/-- Over an additive set of characters with the ellipsis a text that is cut to `limit` columns takes
no more than these, or one column if there are none. A text that fits is left alone; of any other
one there remains the longest start that leaves a column, with the ellipsis in it; and to cut once
more to the same columns changes nothing. -/
theorem truncate_longest (hA : Additive A) (hdots : A '…') (hs : ∀ c ∈ s, A c) (limit : Nat) :
    width (truncate limit s) ≤ max limit 1 ∧
      (width s ≤ limit → truncate limit s = s) ∧
      (limit < width s → ∃ start, truncate limit s = start ++ ['…'] ∧
        IsLongestStart (limit - 1) s start) ∧
      (1 ≤ limit → truncate limit (truncate limit s) = truncate limit s) := by
  have hle := hA.width_truncate_le hdots hs limit
  have hshows := hA.shows_truncate hs limit
  refine ⟨hle, hshows.whole, hshows.cut, ?_⟩
  intro hlimit
  have hfits : width (truncate limit s) ≤ limit := by omega
  exact if_pos hfits

end

/-- The accent stays with its letter, and the ideograph, for which one column is left, goes with all
that is behind it. -/
theorem truncate_longest_accent :
    let s := "e\u0301剣\u0301x".toList
    (∀ c ∈ s, IsLone c) ∧ width s = 4 ∧ truncate 3 s = "e\u0301…".toList ∧
      width (truncate 3 s) ≤ max 3 1 ∧ IsLongestStart (3 - 1) s "e\u0301".toList ∧
      truncate 3 (truncate 3 s) = truncate 3 s := by
  intro s
  have hs : ∀ c ∈ s, IsLone c := isLone_of_all (by decide +kernel)
  have hwidth : width s = 4 := by decide +kernel
  have hfitting : fitting 2 s = "e\u0301".toList := by decide +kernel
  obtain ⟨hle, -, hlongest, hagain⟩ := truncate_longest additive_isLone isLone_ellipsis hs 3
  obtain ⟨start, hcut, hstart⟩ := hlongest (by omega)
  have heq : start = "e\u0301".toList :=
    (hstart.eq (additive_isLone.isLongestStart_fitting hs 2)).trans hfitting
  rw [heq] at hcut hstart
  exact ⟨hs, hwidth, hcut, hle, hstart, hagain (by decide)⟩

end ItemSieve.Text
