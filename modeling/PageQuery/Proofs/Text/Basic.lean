import Mathlib.Data.String.Basic
import Mathlib.Data.List.TakeWhile
import PageQuery.Text.Basic
/-!
Places in a text, blanks around it, and its lines.

A text in memory is UTF-8, so a place in it is a byte index, and a cut inside a character or beyond
the end is refused. `byteIndex` takes a character index to its byte index, and `slice?` cuts between
two byte indices. `slice?_byteIndex` says that byte indices of character indices are never refused and
cut out just the characters between them.

Trimming keeps pieces: what is left of a contiguous piece of a text is a contiguous piece of what is
left of the text (`isInfix_trimChars`), so it is not longer.

`sum_length_lines` says that the lines with a line feed behind each are one character longer than the
text. So a place given by a line and a column, `placeAt`, never lies beyond the end
(`placeAt_lines_le`). `pieces_append` says how the pieces of two texts are put together, and
`lines_take_placeAt` what the text before a place is.
-/

namespace PageQuery.Text

open String (utf8Len)

/-! ## 1. Places -/

/-- The byte index of a character index. One beyond the end is at the end. -/
def byteIndex (cs : List Char) (n : Nat) : Nat := utf8Len (cs.take n)

/-- A byte index at which a text can be cut. -/
def IsBoundary (cs : List Char) (b : Nat) : Prop :=
  String.Pos.Raw.IsValid (String.ofList cs) ⟨b⟩

instance (cs : List Char) (b : Nat) : Decidable (IsBoundary cs b) :=
  inferInstanceAs (Decidable (String.Pos.Raw.IsValid (String.ofList cs) ⟨b⟩))

@[simp] theorem byteIndex_zero (cs : List Char) : byteIndex cs 0 = 0 := by
  simp [byteIndex]

@[simp] theorem byteIndex_length (cs : List Char) : byteIndex cs cs.length = utf8Len cs := by
  simp [byteIndex]

/-- The byte index of a character index lies between two characters. -/
theorem isBoundary_byteIndex (cs : List Char) (n : Nat) : IsBoundary cs (byteIndex cs n) := by
  rw [IsBoundary, String.Pos.Raw.isValid_ofList]
  exact ⟨n, by rw [byteIndex, String.utf8ByteSize_ofList]⟩

theorem byteIndex_mono (cs : List Char) {i j : Nat} (h : i ≤ j) :
    byteIndex cs i ≤ byteIndex cs j := by
  have hsub : cs.take i <+: cs.take j := List.take_prefix_take_left h
  exact String.utf8Len_le_of_prefix hsub

/-! ## 2. Slices -/

/-- The text between two byte indices, if both are places to cut at and in their order. -/
def slice? (cs : List Char) (start stop : Nat) : Option (List Char) :=
  if start ≤ stop ∧ IsBoundary cs start ∧ IsBoundary cs stop then
    some (String.Pos.Raw.extract (String.ofList cs) ⟨start⟩ ⟨stop⟩).toList
  else none

/-- Cutting between two character indices gives the characters between them. -/
theorem slice?_byteIndex (cs : List Char) {i j : Nat} (h : i ≤ j) :
    slice? cs (byteIndex cs i) (byteIndex cs j) = some ((cs.take j).drop i) := by
  have hi := isBoundary_byteIndex cs i
  have hj := isBoundary_byteIndex cs j
  rw [slice?, if_pos ⟨byteIndex_mono cs h, hi, hj⟩]
  have hcut : cs.take i ++ (cs.take j).drop i = cs.take j := by
    have : (cs.take j).take i = cs.take i := by rw [List.take_take, Nat.min_eq_left h]
    rw [← this, List.take_append_drop]
  have hall : cs.take i ++ (cs.take j).drop i ++ cs.drop j = cs := by
    rw [hcut, List.take_append_drop]
  have hstop : byteIndex cs j = utf8Len (cs.take i) + utf8Len ((cs.take j).drop i) := by
    rw [← String.utf8Len_append, hcut, byteIndex]
  have key := String.extract_of_valid (cs.take i) ((cs.take j).drop i) (cs.drop j)
  rw [hall] at key
  rw [hstop, byteIndex, key, String.toList_ofList]

/-! ## 3. Blanks -/

theorem trimChars_eq_nil_iff (cs : List Char) :
    trimChars cs = [] ↔ ∀ c ∈ cs, isBlank c = true := by
  constructor
  · intro h
    have hReversed : ∀ c ∈ (cs.dropWhile isBlank).reverse, isBlank c = true := by
      rw [← List.dropWhile_eq_nil_iff]
      simpa [trimChars] using h
    have hFront : cs.dropWhile isBlank = [] := by
      by_contra hRest
      have hHead := List.head_dropWhile_not isBlank hRest
      have hBlank : isBlank ((cs.dropWhile isBlank).head hRest) = true :=
        hReversed _ (by simp)
      rw [hBlank] at hHead
      exact absurd hHead (by simp)
    exact List.dropWhile_eq_nil_iff.mp hFront
  · intro h
    simp [trimChars, List.dropWhile_eq_nil_iff.mpr h]

theorem trimChars_of_no_blanks {cs : List Char} (h : ∀ c ∈ cs, isBlank c = false) :
    trimChars cs = cs := by
  have hDrop : ∀ l : List Char, (∀ c ∈ l, isBlank c = false) → l.dropWhile isBlank = l := by
    intro l hBlanks
    cases l with
    | nil => rfl
    | cons c rest => rw [List.dropWhile_cons_of_neg (by simp [hBlanks c])]
  unfold trimChars
  rw [hDrop cs h, hDrop cs.reverse (by simpa using h), List.reverse_reverse]

/-- Trimming leaves nothing of blank texts alone. -/
theorem trim_eq_empty_iff (s : String) : trim s = "" ↔ isAllBlank s = true := by
  rw [← String.toList_inj, toList_trim, String.toList_empty, trimChars_eq_nil_iff, isAllBlank,
    List.all_eq_true]

theorem trim_ne_empty {s : String} (h : isAllBlank s = false) : trim s ≠ "" := by
  rw [Ne, trim_eq_empty_iff, h]
  exact Bool.false_ne_true

/-- What is not blank is not dropped. -/
theorem mem_dropWhile_isBlank {c : Char} (h : isBlank c = false) (cs : List Char) :
    c ∈ cs.dropWhile isBlank ↔ c ∈ cs := by
  refine ⟨fun hMem => (List.dropWhile_sublist isBlank).subset hMem, fun hMem => ?_⟩
  rw [← List.takeWhile_append_dropWhile (p := isBlank) (l := cs), List.mem_append] at hMem
  rcases hMem with hFront | hRest
  · exact absurd (List.mem_takeWhile_imp hFront) (by simp [h])
  · exact hRest

theorem mem_trimChars {c : Char} (h : isBlank c = false) (cs : List Char) :
    c ∈ trimChars cs ↔ c ∈ cs := by
  rw [trimChars, List.mem_reverse, mem_dropWhile_isBlank h, List.mem_reverse,
    mem_dropWhile_isBlank h]

/-- A trimmed text is blank only if the text was. -/
theorem isAllBlank_trim {s : String} (h : isAllBlank s = false) : isAllBlank (trim s) = false := by
  rw [isAllBlank, List.all_eq_false] at h ⊢
  obtain ⟨c, hMem, hBlank⟩ := h
  have hKept : isBlank c = false := by simpa using hBlank
  exact ⟨c, by rw [toList_trim]; exact (mem_trimChars hKept _).mpr hMem, hBlank⟩

/-! ## 4. Contiguous parts -/

theorem isInfix_dropWhile {α : Type} (p : α → Bool) {piece whole : List α} (h : piece <:+: whole) :
    piece.dropWhile p <:+: whole.dropWhile p := by
  obtain ⟨front, back, rfl⟩ := h
  have hPiece : piece.dropWhile p <:+: (piece ++ back).dropWhile p := by
    rw [List.dropWhile_append]
    split
    case isTrue hGone =>
      rw [List.isEmpty_iff.mp hGone]
      exact List.nil_infix
    case isFalse => exact (List.prefix_append _ _).isInfix
  rw [List.append_assoc, List.dropWhile_append]
  split
  case isTrue => exact hPiece
  case isFalse =>
    have hRest : piece.dropWhile p <:+: piece ++ back :=
      hPiece.trans (List.dropWhile_suffix p).isInfix
    exact hRest.trans (List.suffix_append _ _).isInfix

theorem isInfix_trimChars {piece whole : List Char} (h : piece <:+: whole) :
    trimChars piece <:+: trimChars whole :=
  (isInfix_dropWhile isBlank (isInfix_dropWhile isBlank h).reverse).reverse

/-! ## 5. Pieces and lines -/

theorem pieces_cons_self (sep : Char) (rest : List Char) :
    pieces sep (sep :: rest) = [] :: pieces sep rest := by
  rw [pieces, if_pos rfl]

theorem pieces_cons_eq {sep c : Char} (h : c ≠ sep) {rest piece : List Char}
    {more : List (List Char)} (hp : pieces sep rest = piece :: more) :
    pieces sep (c :: rest) = (c :: piece) :: more := by
  rw [pieces, if_neg h, hp]

/-- A character that is no separator goes to the front of the first piece. -/
theorem pieces_cons_of_ne {sep c : Char} (h : c ≠ sep) (rest : List Char) :
    ∃ piece more, pieces sep rest = piece :: more ∧
      pieces sep (c :: rest) = (c :: piece) :: more := by
  obtain ⟨piece, more, hp⟩ := List.exists_cons_of_ne_nil (pieces_ne_nil sep rest)
  exact ⟨piece, more, hp, pieces_cons_eq h hp⟩

theorem sum_length_pieces (sep : Char) (cs : List Char) :
    ((pieces sep cs).map (·.length + 1)).foldr (· + ·) 0 = cs.length + 1 := by
  induction cs with
  | nil => rfl
  | cons c rest ih =>
    by_cases hc : c = sep
    · subst hc
      rw [pieces_cons_self, List.map_cons, List.foldr_cons, ih, List.length_cons]
      simp
      omega
    · obtain ⟨piece, more, hp, hcons⟩ := pieces_cons_of_ne hc rest
      rw [hp, List.map_cons, List.foldr_cons] at ih
      rw [hcons, List.map_cons, List.foldr_cons, List.length_cons, List.length_cons]
      omega

theorem length_pieces (sep : Char) (cs : List Char) :
    (pieces sep cs).length = cs.count sep + 1 := by
  induction cs with
  | nil => rfl
  | cons c rest ih =>
    by_cases hc : c = sep
    · subst hc
      rw [pieces_cons_self, List.length_cons, ih, List.count_cons_self]
    · obtain ⟨piece, more, hp, hcons⟩ := pieces_cons_of_ne hc rest
      rw [hp] at ih
      rw [hcons, List.count_cons_of_ne hc]
      exact ih

/-- A separator cuts a text into the pieces before it and those behind it. -/
theorem pieces_append_self (sep : Char) (a b : List Char) :
    pieces sep (a ++ sep :: b) = pieces sep a ++ pieces sep b := by
  induction a with
  | nil => exact pieces_cons_self sep b
  | cons c a ih =>
    by_cases hc : c = sep
    · subst hc
      rw [List.cons_append, pieces_cons_self, pieces_cons_self, ih]
      rfl
    · obtain ⟨piece, more, hp, hcons⟩ := pieces_cons_of_ne hc a
      obtain ⟨piece', more', hp', hcons'⟩ := pieces_cons_of_ne hc (a ++ sep :: b)
      rw [ih, hp] at hp'
      obtain ⟨rfl, rfl⟩ := List.cons.inj hp'
      rw [List.cons_append, hcons', hcons]
      rfl

theorem pieces_of_not_mem {sep : Char} {cs : List Char} (h : sep ∉ cs) :
    pieces sep cs = [cs] := by
  induction cs with
  | nil => rfl
  | cons c rest ih =>
    rw [List.mem_cons, not_or] at h
    obtain ⟨piece, more, hp, hcons⟩ := pieces_cons_of_ne (Ne.symm h.1) rest
    rw [ih h.2] at hp
    obtain ⟨rfl, rfl⟩ := List.cons.inj hp
    exact hcons

theorem takeWhile_ne_append {sep : Char} {a : List Char} (h : sep ∉ a) (rest : List Char) :
    (a ++ rest).takeWhile (· ≠ sep) = a ++ rest.takeWhile (· ≠ sep) := by
  apply List.takeWhile_append_of_pos
  intro c hc
  exact decide_eq_true fun heq => h (heq ▸ hc)

theorem takeWhile_ne_of_not_mem {sep : Char} {cs : List Char} (h : sep ∉ cs) :
    cs.takeWhile (· ≠ sep) = cs := by
  have happ := takeWhile_ne_append h []
  rwa [List.append_nil, List.takeWhile_nil, List.append_nil] at happ

/-- The first piece is what stands before the first separator. -/
theorem head?_pieces (sep : Char) (cs : List Char) :
    (pieces sep cs).head? = some (cs.takeWhile (· ≠ sep)) := by
  by_cases h : sep ∈ cs
  · obtain ⟨a, b, rfl, ha⟩ := List.eq_append_cons_of_mem h
    rw [pieces_append_self, pieces_of_not_mem ha, takeWhile_ne_append ha]
    simp
  · rw [pieces_of_not_mem h, takeWhile_ne_of_not_mem h]
    rfl

/-- The last piece is what stands behind the last separator. -/
theorem getLast?_pieces (sep : Char) (cs : List Char) :
    (pieces sep cs).getLast? = some (cs.reverse.takeWhile (· ≠ sep)).reverse := by
  by_cases h : sep ∈ cs
  · obtain ⟨b, a, hab, hb⟩ := List.eq_append_cons_of_mem (List.mem_reverse.mpr h)
    have hcs : cs = a.reverse ++ sep :: b.reverse := by
      rw [← List.reverse_reverse cs, hab]
      simp
    have hb' : sep ∉ b.reverse := fun hmem => hb (List.mem_reverse.mp hmem)
    rw [hab, takeWhile_ne_append hb, hcs, pieces_append_self, pieces_of_not_mem hb']
    simp
  · have hrev : sep ∉ cs.reverse := fun hmem => h (List.mem_reverse.mp hmem)
    rw [pieces_of_not_mem h, takeWhile_ne_of_not_mem hrev, List.reverse_reverse]
    rfl

/-- No piece holds a separator. -/
theorem not_mem_of_mem_pieces {sep : Char} : ∀ {cs piece : List Char},
    piece ∈ pieces sep cs → sep ∉ piece
  | [], piece, h => by
      rw [pieces, List.mem_singleton] at h
      simp [h]
  | c :: rest, piece, h => by
      by_cases hc : c = sep
      · subst hc
        rw [pieces_cons_self] at h
        rcases List.mem_cons.mp h with rfl | hLater
        · simp
        · exact not_mem_of_mem_pieces hLater
      · obtain ⟨first, more, hp, hcons⟩ := pieces_cons_of_ne hc rest
        rw [hcons] at h
        rcases List.mem_cons.mp h with rfl | hLater
        · have hFirst : sep ∉ first := not_mem_of_mem_pieces (hp ▸ List.mem_cons_self)
          exact fun hMem => (List.mem_cons.mp hMem).elim (fun hSame => hc hSame.symm) hFirst
        · exact not_mem_of_mem_pieces (hp ▸ List.mem_cons_of_mem _ hLater)

/-- Pieces that were joined are cut again where they were joined. -/
theorem pieces_intercalate {sep : Char} : ∀ {l : List (List Char)}, l ≠ [] →
    (∀ piece ∈ l, sep ∉ piece) → pieces sep ([sep].intercalate l) = l
  | [], h, _ => absurd rfl h
  | [piece], _, h => by
      rw [List.intercalate_singleton, pieces_of_not_mem (h piece List.mem_cons_self)]
  | piece :: next :: more, _, h => by
      have hMore := pieces_intercalate (List.cons_ne_nil next more)
        fun p hMem => h p (List.mem_cons_of_mem _ hMem)
      rw [List.intercalate_cons_cons, List.append_assoc, List.singleton_append, pieces_append_self,
        pieces_of_not_mem (h piece List.mem_cons_self), hMore, List.singleton_append]

/-- Where two texts meet, the last piece of the one and the first of the other are one piece. -/
theorem pieces_append {sep : Char} {a b head tail : List Char} {above below : List (List Char)}
    (ha : pieces sep a = above ++ [head]) (hb : pieces sep b = tail :: below) :
    pieces sep (a ++ b) = above ++ (head ++ tail) :: below := by
  induction a generalizing above head with
  | nil =>
    cases above with
    | nil =>
      obtain rfl : [] = head := by simpa [pieces] using ha
      exact hb
    | cons x above => simp [pieces] at ha
  | cons c a ih =>
    by_cases hc : c = sep
    · subst hc
      rw [pieces_cons_self] at ha
      cases above with
      | nil => exact absurd (List.cons.inj ha).2 (pieces_ne_nil c a)
      | cons x above =>
        obtain ⟨rfl, hrest⟩ := List.cons.inj ha
        rw [List.cons_append, pieces_cons_self, ih hrest]
        rfl
    · obtain ⟨piece, more, hp, hcons⟩ := pieces_cons_of_ne hc a
      rw [hcons] at ha
      cases above with
      | nil =>
        obtain ⟨rfl, rfl⟩ := List.cons.inj ha
        exact pieces_cons_eq hc (@ih piece [] hp)
      | cons x above =>
        obtain ⟨rfl, rfl⟩ := List.cons.inj ha
        exact pieces_cons_eq hc (@ih head (piece :: above) hp)

theorem lines_ne_nil (cs : List Char) : lines cs ≠ [] := pieces_ne_nil '\n' cs

theorem length_lines_pos (cs : List Char) : 0 < (lines cs).length :=
  List.length_pos_iff.mpr (lines_ne_nil cs)

theorem head?_lines (cs : List Char) : (lines cs).head? = some (cs.takeWhile (· ≠ '\n')) :=
  head?_pieces '\n' cs

theorem joinWith_lines (cs : List Char) : joinWith ['\n'] (lines cs) = cs :=
  joinWith_pieces '\n' cs

theorem sum_length_lines (cs : List Char) :
    ((lines cs).map (·.length + 1)).foldr (· + ·) 0 = cs.length + 1 := sum_length_pieces '\n' cs

theorem lines_newline (cs : List Char) : lines ('\n' :: cs) = [] :: lines cs :=
  pieces_cons_self '\n' cs

theorem lines_cons {c : Char} (h : c ≠ '\n') {cs first : List Char} {more : List (List Char)}
    (hcs : lines cs = first :: more) : lines (c :: cs) = (c :: first) :: more :=
  pieces_cons_eq h hcs

/-- A text is as long as the lines above its last one, with a line feed behind each, and that line. -/
theorem length_eq_of_lines {cs last : List Char} {above : List (List Char)}
    (h : lines cs = above ++ [last]) :
    cs.length = (above.map (·.length + 1)).foldr (· + ·) 0 + last.length := by
  have hsum := sum_length_lines cs
  rw [h, ← List.sum_eq_foldr, List.map_append, List.sum_append_nat] at hsum
  rw [← List.sum_eq_foldr]
  simp only [List.map_cons, List.map_nil, List.sum_cons, List.sum_nil] at hsum
  omega

/-! ## 6. Places in lines -/

/-- The plain offset of a column in a line. A column beyond the line's end is at its end. -/
def placeAt : List (List Char) → Nat → Nat → Nat
  | [], _, _ => 0
  | l :: _, 0, column => min column l.length
  | l :: ls, line + 1, column => l.length + 1 + placeAt ls line column

/-- A place in one of the lines comes before the line feed that would follow the last of them. -/
theorem placeAt_lt_sum : ∀ {ls : List (List Char)} {line : Nat} (column : Nat),
    line < ls.length → placeAt ls line column < (ls.map (·.length + 1)).foldr (· + ·) 0
  | [], _, _, h => by simp at h
  | l :: ls, 0, column, _ => by
      rw [placeAt, List.map_cons, List.foldr_cons]
      omega
  | l :: ls, line + 1, column, h => by
      have hrest : line < ls.length := by simpa using h
      have ih := placeAt_lt_sum column hrest
      rw [placeAt, List.map_cons, List.foldr_cons]
      omega

theorem placeAt_lines_le (cs : List Char) {line : Nat} (column : Nat)
    (h : line < (lines cs).length) : placeAt (lines cs) line column ≤ cs.length := by
  have hlt := placeAt_lt_sum column h
  rw [sum_length_lines] at hlt
  omega

/-- A place is what the lines above take, and the column. -/
theorem placeAt_eq_sum : ∀ {ls : List (List Char)} {line : Nat} {here : List Char} (column : Nat),
    ls[line]? = some here →
      placeAt ls line column =
        ((ls.take line).map (·.length + 1)).foldr (· + ·) 0 + min column here.length
  | [], _, _, _, h => by simp at h
  | l :: ls, 0, here, column, h => by
      obtain rfl : l = here := by simpa using h
      simp [placeAt]
  | l :: ls, line + 1, here, column, h => by
      have hrest : ls[line]? = some here := by simpa using h
      rw [placeAt, placeAt_eq_sum column hrest, List.take_succ_cons, List.map_cons, List.foldr_cons]
      omega

/-- The text before a place in a line: the lines above, and the line as far as the place. -/
theorem lines_take_placeAt {cs here : List Char} {line : Nat} (column : Nat)
    (h : (lines cs)[line]? = some here) :
    lines (cs.take (placeAt (lines cs) line column))
      = (lines cs).take line ++ [here.take column] := by
  induction cs generalizing line here column with
  | nil =>
    cases line with
    | zero =>
      obtain rfl : [] = here := by simpa [lines, pieces] using h
      simp [lines, pieces]
    | succ line => simp [lines, pieces] at h
  | cons c cs ih =>
    by_cases hc : c = '\n'
    · subst hc
      rw [lines_newline] at h ⊢
      cases line with
      | zero =>
        obtain rfl : [] = here := by simpa using h
        simp [placeAt, lines, pieces]
      | succ line =>
        have hplace : placeAt ([] :: lines cs) (line + 1) column
            = placeAt (lines cs) line column + 1 := by
          rw [placeAt, List.length_nil]
          omega
        have htake := ih column (by simpa using h)
        rw [hplace, List.take_succ_cons, lines_newline, htake]
        rfl
    · obtain ⟨first, more, hcs⟩ := List.exists_cons_of_ne_nil (lines_ne_nil cs)
      rw [hcs] at ih
      rw [lines_cons hc hcs] at h ⊢
      cases line with
      | zero =>
        obtain rfl : c :: first = here := by simpa using h
        cases column with
        | zero => simp [placeAt, lines, pieces]
        | succ column =>
          have htake := @ih first 0 column rfl
          rw [placeAt] at htake
          rw [placeAt, List.length_cons, Nat.succ_min_succ, List.take_succ_cons]
          exact lines_cons hc htake
      | succ line =>
        have hplace : placeAt ((c :: first) :: more) (line + 1) column
            = placeAt (first :: more) (line + 1) column + 1 := by
          rw [placeAt, placeAt, List.length_cons]
          omega
        have htake := @ih here (line + 1) column h
        rw [hplace, List.take_succ_cons]
        exact lines_cons hc htake

end PageQuery.Text
