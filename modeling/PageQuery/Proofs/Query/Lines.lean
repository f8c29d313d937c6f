import PageQuery.Proofs.Query.Buffer
import PageQuery.Query.Style
/-!
The lines of the query: where the caret is among them, and how they are styled.

`Surroundings` are the lines around a caret: those above, what stands before and behind it on its own
line, and those below. They give line, column and offset of the caret (`Surroundings.lineColumn_eq`,
`Surroundings.offset_eq`). In the other direction `lineColumn_moveTo_placeAt` says where a caret is that
was put at a column of a line. The main statement on the caret, `moves_follow_lines`, is about the moves
by lines.

`Layout.toLines_addToken` says what one token does to lines that are being laid out. Two things follow
for a whole token list, each by a step and a run over the tokens: what the lines hold
(`Layout.texts_addToken`, `Layout.texts_foldl`) and which spans they are made of
(`Layout.spans_addToken`, `Layout.spans_foldl`). `styledLines_are_lines` also puts an editor's caret on
one of the lines.
-/

namespace PageQuery.Query

open Text

namespace Editor

/-! ## 1. The lines around a caret -/

/-- The lines of an editor's text, cut at the caret. -/
structure Surroundings (e : Editor) where
  above : List (List Char)
  before : List Char
  behind : List Char
  below : List (List Char)
  lines_before : lines (e.text.take e.offset) = above ++ [before]
  lines_behind : lines (e.text.drop e.offset) = behind :: below

def surroundings (e : Editor) : Surroundings e where
  above := (lines (e.text.take e.offset)).dropLast
  before := (lines (e.text.take e.offset)).getLast (lines_ne_nil _)
  behind := (lines (e.text.drop e.offset)).head (lines_ne_nil _)
  below := (lines (e.text.drop e.offset)).tail
  lines_before := (List.dropLast_append_getLast (lines_ne_nil _)).symm
  lines_behind := (List.cons_head_tail (lines_ne_nil _)).symm

theorem lineColumn_of_lines_before {e : Editor} {above : List (List Char)} {before : List Char}
    (h : lines (e.text.take e.offset) = above ++ [before]) :
    e.lineColumn = (above.length, before.length) := by
  have hbefore : lines e.buffer.before = above ++ [before] := h
  rw [lineColumn_eq, Buffer.line, Buffer.column, hbefore]
  simp

namespace Surroundings

variable {e : Editor} (s : Surroundings e)

theorem lineColumn_eq : e.lineColumn = (s.above.length, s.before.length) :=
  lineColumn_of_lines_before s.lines_before

/-- The line of the caret is what stands before and behind it. -/
theorem lines_text : lines e.text = s.above ++ (s.before ++ s.behind) :: s.below := by
  have happend := pieces_append s.lines_before s.lines_behind
  rwa [List.take_append_drop] at happend

theorem getElem?_lines : (lines e.text)[e.lineColumn.1]? = some (s.before ++ s.behind) := by
  rw [s.lines_text, s.lineColumn_eq]
  simp

theorem take_lines : (lines e.text).take e.lineColumn.1 = s.above := by
  rw [s.lines_text, s.lineColumn_eq]
  simp

/-- The caret is behind the lines above it, their line feeds, and what stands before it. -/
theorem offset_eq :
    e.offset = (s.above.map (·.length + 1)).foldr (· + ·) 0 + s.before.length := by
  rw [← length_eq_of_lines s.lines_before, List.length_take_of_le e.offset_le]

theorem length_behind :
    s.behind.length = ((e.text.drop e.offset).takeWhile (· ≠ '\n')).length := by
  have hhead := head?_lines (e.text.drop e.offset)
  rw [s.lines_behind, List.head?_cons] at hhead
  rw [Option.some.inj hhead]

/-- What is before the caret: the lines above it, and its own line as far as the caret. -/
theorem take_text : e.text.take e.offset = joinWith ['\n'] (s.above ++ [s.before]) := by
  rw [← s.lines_before, joinWith_lines]

end Surroundings

/-! ## 2. Moves to a place -/

/-- A caret that is put at a column of a line is there, or at the line's end. -/
theorem lineColumn_moveTo_placeAt (e : Editor) {line : Nat} {here : List Char} (column : Nat)
    (h : (lines e.text)[line]? = some here) :
    (e.moveTo (placeAt (lines e.text) line column)).lineColumn
      = (line, min column here.length) := by
  have hline : line < (lines e.text).length := (List.getElem?_eq_some_iff.mp h).1
  have hbefore : lines ((e.moveTo (placeAt (lines e.text) line column)).text.take
      (e.moveTo (placeAt (lines e.text) line column)).offset)
      = (lines e.text).take line ++ [here.take column] := by
    rw [text_moveTo, offset_moveTo, Nat.min_eq_left (placeAt_lines_le e.text column hline)]
    exact lines_take_placeAt column h
  rw [lineColumn_of_lines_before hbefore, List.length_take_of_le (Nat.le_of_lt hline),
    List.length_take]

/-! ## 3. Moves by lines -/

/-- A move leaves the text as it is and puts the caret on a line at a column. -/
structure MovesTo (e moved : Editor) (line column : Nat) : Prop where
  tokens_eq : moved.tokens = e.tokens
  lineColumn_eq : moved.lineColumn = (line, column)

theorem movesTo_placeAt (e : Editor) {line : Nat} {here : List Char} (column : Nat)
    (h : (lines e.text)[line]? = some here) :
    MovesTo e (e.moveTo (placeAt (lines e.text) line column)) line (min column here.length) :=
  ⟨rfl, e.lineColumn_moveTo_placeAt column h⟩

theorem moveLineStart_movesTo (e : Editor) : MovesTo e e.moveLineStart e.lineColumn.1 0 := by
  have s := e.surroundings
  have hplace : placeAt (lines e.text) e.lineColumn.1 0 = e.offset - e.lineColumn.2 := by
    rw [placeAt_eq_sum 0 s.getElem?_lines, s.take_lines, s.lineColumn_eq, s.offset_eq]
    omega
  have hlands := e.movesTo_placeAt 0 s.getElem?_lines
  rwa [hplace, Nat.zero_min] at hlands

theorem moveLineEnd_movesTo (e : Editor) {here : List Char}
    (h : (lines e.text)[e.lineColumn.1]? = some here) :
    MovesTo e e.moveLineEnd e.lineColumn.1 here.length := by
  have s := e.surroundings
  obtain rfl : s.before ++ s.behind = here := Option.some.inj (s.getElem?_lines.symm.trans h)
  have hplace : placeAt (lines e.text) e.lineColumn.1 (s.before ++ s.behind).length
      = e.offset + ((e.text.drop e.offset).takeWhile (· ≠ '\n')).length := by
    rw [placeAt_eq_sum _ s.getElem?_lines, s.take_lines, ← s.length_behind, s.offset_eq,
      Nat.min_self, List.length_append, Nat.add_assoc]
  have hlands := e.movesTo_placeAt (s.before ++ s.behind).length s.getElem?_lines
  rwa [hplace, Nat.min_self] at hlands

/-- The line that a vertical move goes to is the nearest one there is. -/
theorem target_eq (e : Editor) (delta : Int) :
    ((min ((e.lineColumn.1 : Int) + delta).toNat ((lines e.text).length - 1) : Nat) : Int)
      = max 0 (min (e.lineColumn.1 + delta) ((lines e.text).length - 1)) := by
  have hpos := length_lines_pos e.text
  omega

theorem moveVertical_movesTo (e : Editor) (delta : Int) {line : Nat} {there : List Char}
    (hline : min ((e.lineColumn.1 : Int) + delta).toNat ((lines e.text).length - 1) = line)
    (h : (lines e.text)[line]? = some there) :
    MovesTo e (e.moveVertical delta) line (min e.lineColumn.2 there.length) := by
  have hplace := offsetAt_eq_placeAt e.lineColumn.2 h
  have hlands := e.movesTo_placeAt e.lineColumn.2 h
  rw [← hplace, ← hline] at hlands
  rw [← hline]
  exact hlands

end Editor

/-- **The caret moves by the lines of the text.** Its offset is what the lines above it take, with
their line feeds, and its column. A move to the start or the end of the line stays on the line, and a
move by any number of lines goes to the nearest line there is and keeps the column as far as that line
reaches. This holds of every editor, so of every one that a run of operations leads to. -/
theorem moves_follow_lines (e : Editor) :
    ∃ here, (lines e.text)[e.lineColumn.1]? = some here ∧
      e.offset = (((lines e.text).take e.lineColumn.1).map (·.length + 1)).foldr (· + ·) 0
        + e.lineColumn.2 ∧
      e.MovesTo e.moveLineStart e.lineColumn.1 0 ∧
      e.MovesTo e.moveLineEnd e.lineColumn.1 here.length ∧
      ∀ delta : Int, ∃ (target : Nat) (there : List Char),
        (target : Int) = max 0 (min (e.lineColumn.1 + delta) ((lines e.text).length - 1)) ∧
        (lines e.text)[target]? = some there ∧
        e.MovesTo (e.moveVertical delta) target (min e.lineColumn.2 there.length) := by
  have s := e.surroundings
  refine ⟨s.before ++ s.behind, s.getElem?_lines, ?_, e.moveLineStart_movesTo,
    e.moveLineEnd_movesTo s.getElem?_lines, ?_⟩
  · rw [s.take_lines, s.lineColumn_eq]
    exact s.offset_eq
  · intro delta
    have hthere := List.getElem?_eq_getElem (e.target_lt delta)
    exact ⟨_, _, e.target_eq delta, hthere, e.moveVertical_movesTo delta rfl hthere⟩

/-! ## 4. Spans -/

/-- The text of a styled line. -/
def lineText (spans : List Span) : List Char := spans.flatMap (·.content)

@[simp] theorem lineText_append (a b : List Span) :
    lineText (a ++ b) = lineText a ++ lineText b := by
  simp [lineText]

/-- The spans that a token is cut into: its lines that are not empty, each in the token's style. -/
def spansOf (t : Token) : List Span :=
  ((lines t.text).filter (· ≠ [])).map fun piece => ⟨piece, t.kind, styleOf t.kind⟩

@[simp] theorem lineText_spanOf (kind : TokenKind) (piece : List Char) :
    lineText (spanOf kind piece) = piece := by
  cases piece <;> simp [spanOf, lineText]

theorem flatMap_spanOf (kind : TokenKind) (ps : List (List Char)) :
    ps.flatMap (spanOf kind)
      = (ps.filter (· ≠ [])).map fun piece => ⟨piece, kind, styleOf kind⟩ := by
  induction ps with
  | nil => rfl
  | cons piece ps ih =>
    rw [List.flatMap_cons, ih]
    cases piece <;> simp [spanOf]

/-- A token leaves no empty span, and none that holds a line feed. -/
theorem content_of_mem_spansOf {t : Token} {span : Span} (h : span ∈ spansOf t) :
    span.content ≠ [] ∧ '\n' ∉ span.content := by
  obtain ⟨piece, hpiece, rfl⟩ := List.mem_map.mp h
  obtain ⟨hmem, hne⟩ := List.mem_filter.mp hpiece
  exact ⟨of_decide_eq_true hne, not_mem_of_mem_pieces hmem⟩

/-! ## 5. Lines under construction -/

namespace Layout

/-- What the lines hold, the open one at the end. -/
def texts (l : Layout) : List (List Char) := l.toLines.map lineText

theorem toLines_addPiece (kind : TokenKind) (l : Layout) (piece : List Char) :
    (addPiece kind l piece).toLines = l.closed ++ [l.current ++ spanOf kind piece] := rfl

theorem toLines_foldl (kind : TokenKind) (l : Layout) (more : List (List Char)) :
    (more.foldl (fun l next => addPiece kind l.newLine next) l).toLines
      = l.toLines ++ more.map (spanOf kind) := by
  induction more generalizing l with
  | nil => simp
  | cons piece more ih =>
    rw [List.foldl_cons, ih, toLines_addPiece]
    simp [newLine]

/-- A token goes on with the open line and brings lines of its own. -/
theorem toLines_addToken (l : Layout) {t : Token} {piece : List Char} {more : List (List Char)}
    (h : lines t.text = piece :: more) :
    (l.addToken t).toLines
      = l.closed ++ (l.current ++ spanOf t.kind piece) :: more.map (spanOf t.kind) := by
  simp only [addToken, h]
  rw [toLines_foldl, toLines_addPiece]
  simp

/-- Laying out a token appends its text to what the lines hold. -/
theorem texts_addToken {l : Layout} {before : List Char} (h : l.texts = lines before) (t : Token) :
    (l.addToken t).texts = lines (before ++ t.text) := by
  obtain ⟨piece, more, hmore⟩ := List.exists_cons_of_ne_nil (lines_ne_nil t.text)
  have hbefore : lines before = l.closed.map lineText ++ [lineText l.current] := by
    rw [← h, texts, toLines, List.map_append, List.map_cons, List.map_nil]
  have hmap : (more.map (spanOf t.kind)).map lineText = more := by
    simp [Function.comp_def]
  rw [texts, toLines_addToken l hmore, List.map_append, List.map_cons, lineText_append,
    lineText_spanOf, hmap]
  exact (pieces_append hbefore hmore).symm

theorem texts_foldl {l : Layout} {before : List Char} (h : l.texts = lines before)
    (ts : List Token) : (ts.foldl addToken l).texts = lines (before ++ plainText ts) := by
  induction ts generalizing l before with
  | nil => simpa using h
  | cons t ts ih =>
    rw [List.foldl_cons, ih (texts_addToken h t), plainText_cons, List.append_assoc]

/-- Laying out a token adds its spans behind all others. -/
theorem spans_addToken (l : Layout) (t : Token) :
    (l.addToken t).toLines.flatten = l.toLines.flatten ++ spansOf t := by
  obtain ⟨piece, more, hmore⟩ := List.exists_cons_of_ne_nil (lines_ne_nil t.text)
  rw [toLines_addToken l hmore, spansOf, hmore, ← flatMap_spanOf]
  simp [toLines, List.flatMap_def]

theorem spans_foldl (l : Layout) (ts : List Token) :
    (ts.foldl addToken l).toLines.flatten = l.toLines.flatten ++ ts.flatMap spansOf := by
  induction ts generalizing l with
  | nil => simp
  | cons t ts ih => rw [List.foldl_cons, ih, spans_addToken, List.flatMap_cons, List.append_assoc]

end Layout

/-! ## 6. All lines -/

theorem map_lineText_styledLines (ts : List Token) :
    (styledLines ts).map lineText = lines (plainText ts) := by
  have hempty : Layout.empty.texts = lines [] := rfl
  exact Layout.texts_foldl hempty ts

theorem flatten_styledLines (ts : List Token) :
    (styledLines ts).flatten = ts.flatMap spansOf :=
  Layout.spans_foldl .empty ts

theorem content_of_mem_styledLines {ts : List Token} {line : List Span} {span : Span}
    (hline : line ∈ styledLines ts) (hspan : span ∈ line) :
    span.content ≠ [] ∧ '\n' ∉ span.content := by
  have hmem : span ∈ (styledLines ts).flatten := List.mem_flatten.mpr ⟨line, hline, hspan⟩
  rw [flatten_styledLines] at hmem
  obtain ⟨t, -, ht⟩ := List.mem_flatMap.mp hmem
  exact content_of_mem_spansOf ht

/-- **Styled lines are the lines of the text**, cut into the non-empty pieces of the tokens, in order
and each in its token's style. So an editor's caret is always on one of the lines drawn and not beyond
its end, and what is before it are the lines above and that much of its own. -/
theorem styledLines_are_lines (ts : List Token) (e : Editor) :
    (styledLines ts).map lineText = lines (plainText ts) ∧
      (∀ line ∈ styledLines ts, ∀ span ∈ line, span.content ≠ [] ∧ '\n' ∉ span.content) ∧
      (styledLines ts).flatten = ts.flatMap spansOf ∧
      ∃ here, (styledLines e.tokens)[e.lineColumn.1]? = some here ∧
        e.lineColumn.2 ≤ (lineText here).length ∧
        e.text.take e.offset = joinWith ['\n']
          (((styledLines e.tokens).take e.lineColumn.1).map lineText
            ++ [(lineText here).take e.lineColumn.2]) := by
  refine ⟨map_lineText_styledLines ts, fun line hline span hspan =>
    content_of_mem_styledLines hline hspan, flatten_styledLines ts, ?_⟩
  have s := e.surroundings
  have htexts : (styledLines e.tokens).map lineText = lines e.text :=
    map_lineText_styledLines e.tokens
  have hhere := s.getElem?_lines
  rw [← htexts, List.getElem?_map, Option.map_eq_some_iff] at hhere
  obtain ⟨here, hget, htext⟩ := hhere
  refine ⟨here, hget, ?_, ?_⟩
  · rw [htext, s.lineColumn_eq, List.length_append]
    exact Nat.le_add_right _ _
  · rw [List.map_take, htexts, s.take_lines, htext, s.lineColumn_eq, List.take_left]
    exact s.take_text

/-- A comment over two lines and a number: the second line starts with the rest of the comment. -/
theorem styledLines_of_two_line_comment :
    let ts : List Token := [⟨.comment, "/* a\nb */".toList⟩, ⟨.number, ['7']⟩]
    let span : Span := ⟨"b */".toList, .comment, styleOf .comment⟩
    let line : List Span := [span, ⟨['7'], .number, styleOf .number⟩]
    line ∈ styledLines ts ∧ span ∈ line ∧ (span.content ≠ [] ∧ '\n' ∉ span.content) ∧
      (styledLines ts).map lineText = ["/* a".toList, "b */7".toList] := by
  intro ts span line
  have hline : line ∈ styledLines ts := by decide
  have hspan : span ∈ line := List.mem_cons_self
  obtain ⟨htexts, hcontents, -⟩ := styledLines_are_lines ts Editor.empty
  refine ⟨hline, hspan, hcontents line hline span hspan, ?_⟩
  rw [htexts]
  decide

end PageQuery.Query
