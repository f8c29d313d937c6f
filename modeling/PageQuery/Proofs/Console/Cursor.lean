import PageQuery.Screen.Drawing
import PageQuery.Console.View
import PageQuery.Proofs.Query.Lines
/-!
The cursor in the query's panel, and the rows of the canvas that it is drawn on.

A canvas keeps its cells in one array, but lines are drawn row by row, and what is drawn on one row
depends on no other. `inkRow` draws glyphs over a row by itself. A change of a cell is one of its row
(`Canvas.row_change`) and of no other (`Canvas.row_change_of_ne`), so drawing glyphs is `inkRow` on
their row (`row_drawInked`) and leaves the rest as it is (`row_drawInked_of_ne`). `row_drawLines` says
what comes of it for lines below each other.

The caret's line and column know no bound, positions on a screen have sixteen bits. The row of the
cursor is bounded by the panel before it is cut to them (`cursor_of`), so it is never wrong; the scroll
is cut as a whole (`scroll_add_row_eq_iff`), and the column before it is bounded
(`min_mod_screenUnits_eq_iff`), so each can wrap around. Whether or not the scroll does, the lines in
view follow each other from it on (`showsLine_drawQuery`). `cursor_marks_caret` says when cursor and
caret agree.
-/

namespace PageQuery.Screen

/-! ## 1. Cells of a row -/

namespace Canvas

theorem width_change (c : Canvas) (x y : Nat) (f : Cell → Cell) :
    (c.change x y f).width = c.width := by
  unfold change
  split <;> rfl

theorem getElem?_row (c : Canvas) (y i : Nat) :
    (c.row y)[i]? = if i < c.width then c.cells[y * c.width + i]? else none := by
  have hstop : (y + 1) * c.width = y * c.width + c.width := Nat.succ_mul y c.width
  rw [row, Array.getElem?_toList, Array.getElem?_extract, hstop]
  by_cases hi : i < c.width
  · -- Inside the width only the end of the cells can cut the row short.
    by_cases hsize : y * c.width + i < c.cells.size
    · rw [if_pos (by omega), if_pos hi]
    · rw [if_neg (by omega), if_pos hi, Array.getElem?_eq_none (by omega)]
  · rw [if_neg (by omega), if_neg hi]

/-- Places within the width belong to one row only. -/
theorem row_unique {width x y x' y' : Nat} (hx : x < width) (hx' : x' < width)
    (h : y * width + x = y' * width + x') : y = y' := by
  have hdiv := congrArg (· / width) h
  simp only [Nat.mul_comm _ width, Nat.mul_add_div (Nat.zero_lt_of_lt hx), Nat.div_eq_of_lt hx,
    Nat.div_eq_of_lt hx', Nat.add_zero] at hdiv
  exact hdiv

/-- A change of a cell is a change of its row. Beyond the width there is nothing to change. -/
theorem row_change (c : Canvas) (x y : Nat) (f : Cell → Cell) :
    (c.change x y f).row y = (c.row y).modify x f := by
  refine List.ext_getElem? fun i => ?_
  rw [List.getElem?_modify, getElem?_row, getElem?_row, width_change]
  by_cases hi : i < c.width
  · rw [if_pos hi, if_pos hi, change]
    by_cases hx : x < c.width
    · rw [if_pos hx, Array.getElem?_modify]
      by_cases hxi : x = i <;> simp [hxi]
    · have hxi : x ≠ i := by omega
      simp [hx, hxi]
  · simp [hi]

theorem row_change_of_ne (c : Canvas) (x : Nat) {y y' : Nat} (f : Cell → Cell) (h : y ≠ y') :
    (c.change x y f).row y' = c.row y' := by
  refine List.ext_getElem? fun i => ?_
  rw [getElem?_row, getElem?_row, width_change]
  by_cases hi : i < c.width
  · rw [if_pos hi, if_pos hi, change]
    by_cases hx : x < c.width
    · have hplace : y * c.width + x ≠ y' * c.width + i := fun heq => h (row_unique hx hi heq)
      rw [if_pos hx, Array.getElem?_modify, if_neg hplace]
    · rw [if_neg hx]
  · rw [if_neg hi, if_neg hi]

end Canvas

/-! ## 2. Glyphs on a row -/

/-- Draw glyphs over the cells of one row, from a column on. -/
def inkRow (x : Nat) : List Inked → List Cell → List Cell
  | [], row => row
  | (g, look) :: rest, row =>
    if g.width = 0 then inkRow x rest row
    else inkRow (x + g.width) rest (row.modify x fun cell => ⟨g.text, look.onto cell.look⟩)

theorem row_drawInked (c : Canvas) (x y : Nat) (line : List Inked) :
    (drawInked c x y line).row y = inkRow x line (c.row y) := by
  induction line generalizing c x with
  | nil => rfl
  | cons ink rest ih =>
    obtain ⟨g, look⟩ := ink
    simp only [drawInked, inkRow]
    split
    · exact ih c x
    · rw [ih, Canvas.put, Canvas.row_change]

theorem row_drawInked_of_ne (c : Canvas) (x : Nat) {y y' : Nat} (line : List Inked) (h : y ≠ y') :
    (drawInked c x y line).row y' = c.row y' := by
  induction line generalizing c x with
  | nil => rfl
  | cons ink rest ih =>
    obtain ⟨g, look⟩ := ink
    simp only [drawInked]
    split
    · exact ih c x
    · rw [ih, Canvas.put, Canvas.row_change_of_ne c x _ h]

/-! ## 3. Lines below each other -/

/-- Draw one of several lines into an area. -/
def drawInkedLine (a : Area) (c : Canvas) (p : List Inked × Nat) : Canvas :=
  drawInked c a.x (a.y + p.2) (fitting a.width 0 p.1)

/-- Lines from one row on leave the rows above it as they are. -/
theorem row_foldl_drawInkedLine_of_lt (c : Canvas) (a : Area) (ls : List (List Inked)) {i k : Nat}
    (h : i < k) : ((ls.zipIdx k).foldl (drawInkedLine a) c).row (a.y + i) = c.row (a.y + i) := by
  induction ls generalizing c k with
  | nil => rfl
  | cons line ls ih =>
    rw [List.zipIdx_cons, List.foldl_cons, ih _ (Nat.lt_succ_of_lt h), drawInkedLine]
    exact row_drawInked_of_ne c a.x _ (by omega)

/-- Each row gets its own line. -/
theorem row_foldl_drawInkedLine (c : Canvas) (a : Area) (ls : List (List Inked)) (k i : Nat) :
    ((ls.zipIdx k).foldl (drawInkedLine a) c).row (a.y + (k + i))
      = inkRow a.x (fitting a.width 0 (ls.getD i [])) (c.row (a.y + (k + i))) := by
  induction ls generalizing c k i with
  | nil => rfl
  | cons line ls ih =>
    rw [List.zipIdx_cons, List.foldl_cons]
    cases i with
    | zero =>
      rw [row_foldl_drawInkedLine_of_lt _ a ls (Nat.lt_add_one (k + 0)), drawInkedLine,
        List.getD_cons_zero]
      exact row_drawInked c a.x (a.y + k) _
    | succ i =>
      have hrow : k + (i + 1) = k + 1 + i := by omega
      rw [hrow, ih, List.getD_cons_succ, drawInkedLine, row_drawInked_of_ne c a.x _ (by omega)]

theorem row_drawInkedLines (c : Canvas) (a : Area) (ls : List (List Inked)) {i : Nat}
    (h : i < a.height) :
    (drawInkedLines c a ls).row (a.y + i)
      = inkRow a.x (fitting a.width 0 (ls.getD i [])) (c.row (a.y + i)) := by
  have hrow := row_foldl_drawInkedLine c a (ls.take a.height) 0 i
  rw [List.getD_eq_getElem?_getD, List.getElem?_take_of_lt h, ← List.getD_eq_getElem?_getD,
    Nat.zero_add] at hrow
  exact hrow

/-- What a row of an area shows of lines of which some are hidden: the line that is as far behind the
hidden ones as the row is from the top. -/
theorem row_drawLines (c : Canvas) (a : Area) (hidden : Nat) (ls : List (List Piece)) {i : Nat}
    (h : i < a.height) :
    (drawLines c a hidden ls).row (a.y + i)
      = inkRow a.x (fitting a.width 0 (inkedLine (ls.getD (hidden + i) []))) (c.row (a.y + i)) := by
  have hline : ((ls.drop hidden).map inkedLine).getD i [] = inkedLine (ls.getD (hidden + i) []) := by
    rw [List.getD_eq_getElem?_getD, List.getElem?_map, List.getElem?_drop,
      List.getD_eq_getElem?_getD]
    cases ls[hidden + i]? <;> rfl
  rw [drawLines, row_drawInkedLines c a _ h, hline]

end PageQuery.Screen

namespace PageQuery.Console

open Text Query Screen

/-! ## 4. Sixteen bits -/

theorem screenUnits_eq : screenUnits = 65536 := rfl

/-- The lines above the view and the row in it make up the line. -/
theorem linesAbove_add_row (line height : Nat) :
    linesAbove line height + min line (height - 1) = line := by
  unfold linesAbove
  omega

/-- The last column stands for all behind it, but a column that wraps around in front of it does not. -/
theorem min_mod_screenUnits_eq_iff (column last : Nat) :
    min (column % screenUnits) last = min column last
      ↔ column < screenUnits ∨ last ≤ column % screenUnits := by
  rw [screenUnits_eq]
  omega

namespace QueryView

variable {caret : Nat × Nat} {inner : Area}

theorem scroll_of (caret : Nat × Nat) (inner : Area) (shown : Bool) :
    (of caret inner shown).scroll = linesAbove caret.1 inner.height % screenUnits := rfl

/-- The row is that of the caret's line, or the last one. -/
theorem cursor_of (hroom : inner.isEmpty = false) (hheight : inner.height < screenUnits) :
    (of caret inner true).cursor
      = some (inner.x + min (caret.2 % screenUnits) (inner.width - 1),
          inner.y + min caret.1 (inner.height - 1)) := by
  have hrow : caret.1 - linesAbove caret.1 inner.height = min caret.1 (inner.height - 1) := by
    have hsum := linesAbove_add_row caret.1 inner.height
    omega
  have hbits : min caret.1 (inner.height - 1) % screenUnits = min caret.1 (inner.height - 1) :=
    Nat.mod_eq_of_lt (by omega)
  simp only [of, hroom, hrow, hbits, Bool.not_false, Bool.and_self, if_true]

/-- Below the scroll the row leads to the caret's line if the scroll does not wrap around, and to one
above it otherwise. -/
theorem scroll_add_row_eq_iff (caret : Nat × Nat) (inner : Area) (shown : Bool) :
    (of caret inner shown).scroll + min caret.1 (inner.height - 1) = caret.1
      ↔ linesAbove caret.1 inner.height < screenUnits := by
  have hsum := linesAbove_add_row caret.1 inner.height
  rw [scroll_of, screenUnits_eq]
  omega

theorem scroll_add_row_le (caret : Nat × Nat) (inner : Area) (shown : Bool) :
    (of caret inner shown).scroll + min caret.1 (inner.height - 1) ≤ caret.1 := by
  have hsum := linesAbove_add_row caret.1 inner.height
  have hmod := Nat.mod_le (linesAbove caret.1 inner.height) screenUnits
  rw [scroll_of]
  omega

end QueryView

/-! ## 5. The lines in view -/

/-- The text of a line that is drawn. -/
def drawnText (pieces : List Piece) : List Char := pieces.flatMap (·.text)

/-- The lines that are drawn of a query are those of its text. -/
theorem map_drawnText_queryLines {e : Editor} (h : e.isEmpty = false) :
    (queryLines e).map drawnText = lines e.text := by
  have htext : ∀ spans : List Span,
      drawnText (spans.map fun s => ⟨s.content, Look.ofStyle s.style⟩) = lineText spans := by
    intro spans
    rw [drawnText, List.flatMap_map]
    rfl
  have hlines : (queryLines e).map drawnText = (styledLines e.tokens).map lineText := by
    rw [queryLines, h, if_neg Bool.false_ne_true, List.map_map]
    exact List.map_congr_left fun spans _ => htext spans
  rw [hlines, map_lineText_styledLines]
  rfl

theorem lineColumn_of_isEmpty {e : Editor} (h : e.isEmpty = true) : e.lineColumn = (0, 0) := by
  have htokens : e.tokens = [] := List.isEmpty_iff.mp h
  have htext : e.text = [] := by rw [Editor.text, htokens]; rfl
  simp [Editor.lineColumn, htext]

/-- A row of an area shows a line of a query: the row is what it was before with that line drawn over
it, and unless the sample stands there the line is the one of that number in the text. -/
def ShowsLine (e : Editor) (before after : Canvas) (a : Area) (row line : Nat) : Prop :=
  ∃ shown, (queryLines e)[line]? = some shown ∧
    (e.isEmpty = false → (lines e.text)[line]? = some (drawnText shown)) ∧
    after.row (a.y + row)
      = inkRow a.x (fitting a.width 0 (inkedLine shown)) (before.row (a.y + row))

/-- There is something to draw for every line as far as the caret's. -/
theorem exists_queryLine (e : Editor) {line : Nat} (h : line ≤ e.lineColumn.1) :
    ∃ shown, (queryLines e)[line]? = some shown ∧
      (e.isEmpty = false → (lines e.text)[line]? = some (drawnText shown)) := by
  cases hempty : e.isEmpty with
  | true =>
    rw [lineColumn_of_isEmpty hempty] at h
    obtain rfl : line = 0 := Nat.le_zero.mp h
    refine ⟨[pieceOf sampleQuery placeholderLook], ?_, fun hfalse => nomatch hfalse⟩
    rw [queryLines, hempty]
    rfl
  | false =>
    have hcaret := (List.getElem?_eq_some_iff.mp e.surroundings.getElem?_lines).1
    obtain ⟨text, htext⟩ : ∃ text, (lines e.text)[line]? = some text :=
      ⟨_, List.getElem?_eq_getElem (Nat.lt_of_le_of_lt h hcaret)⟩
    have hdrawn := htext
    rw [← map_drawnText_queryLines hempty, List.getElem?_map, Option.map_eq_some_iff] at hdrawn
    obtain ⟨shown, hshown, rfl⟩ := hdrawn
    exact ⟨shown, hshown, fun _ => htext⟩

/-- Below the scroll the lines in view follow each other, as far as the caret's. -/
theorem showsLine_drawQuery (e : Editor) (focused enabled : Bool) (c : Canvas) (a : Area) {row : Nat}
    (hrow : row < a.inner.height)
    (hline : (QueryView.of e.lineColumn a.inner (focused && enabled)).scroll + row
      ≤ e.lineColumn.1) :
    ShowsLine e (drawPanel c a "Query" (borderColour focused enabled))
      (drawQuery e focused enabled c a).1 a.inner row
      ((QueryView.of e.lineColumn a.inner (focused && enabled)).scroll + row) := by
  obtain ⟨shown, hshown, htext⟩ := exists_queryLine e hline
  refine ⟨shown, hshown, htext, ?_⟩
  rw [drawQuery, row_drawLines _ a.inner _ _ hrow, List.getD_eq_getElem?_getD, hshown,
    Option.getD_some]

/-! ## 6. The cursor -/

/-- **The cursor marks the caret**, as long as sixteen bits hold its place. In a focused query with room
for a cell the cursor is always shown, inside the panel, and its row shows the line that is as far
below the scroll as the row is from the top. That is the caret's own line if and only if the number of
lines above the view has sixteen bits. The column is the caret's or the last one, whichever is smaller,
if and only if the caret's column has sixteen bits or still wraps around to the last column at least. -/
theorem cursor_marks_caret (e : Editor) (c : Canvas) (a : Area) (hroom : a.inner.isEmpty = false)
    (hheight : a.height < screenUnits) :
    ∃ column row, (drawQuery e true true c a).2 = some (a.inner.x + column, a.inner.y + row) ∧
      column < a.inner.width ∧ row < a.inner.height ∧
      (let scroll := (QueryView.of e.lineColumn a.inner true).scroll
       ShowsLine e (drawPanel c a "Query" (borderColour true true)) (drawQuery e true true c a).1
          a.inner row (scroll + row) ∧
        (scroll + row = e.lineColumn.1
          ↔ linesAbove e.lineColumn.1 a.inner.height < screenUnits)) ∧
      (column = min e.lineColumn.2 (a.inner.width - 1)
        ↔ e.lineColumn.2 < screenUnits ∨ a.inner.width - 1 ≤ e.lineColumn.2 % screenUnits) := by
  have hinner : a.inner.height < screenUnits := Nat.lt_of_le_of_lt (Nat.sub_le a.height 2) hheight
  obtain ⟨hwide, hhigh⟩ : a.inner.width ≠ 0 ∧ a.inner.height ≠ 0 := by
    simpa [Area.isEmpty] using hroom
  have hrow : min e.lineColumn.1 (a.inner.height - 1) < a.inner.height := by omega
  refine ⟨_, _, QueryView.cursor_of hroom hinner, by omega, hrow, ⟨?_, ?_⟩,
    min_mod_screenUnits_eq_iff _ _⟩
  · exact showsLine_drawQuery e true true c a hrow (QueryView.scroll_add_row_le _ _ _)
  · exact QueryView.scroll_add_row_eq_iff _ _ _

/-- The caret behind a text of one line. -/
theorem lineColumn_ofText {cs : List Char} (h : '\n' ∉ cs) :
    (Editor.ofText cs).lineColumn = (0, cs.length) := by
  have hreverse : '\n' ∉ cs.reverse := fun hmem => h (List.mem_reverse.mp hmem)
  rw [Editor.lineColumn, Editor.ofText, Editor.text_render, Editor.offset_render, Nat.min_self,
    List.take_length, List.count_eq_zero_of_not_mem h, takeWhile_ne_of_not_mem hreverse,
    List.length_reverse]

/-- A line of 65536 characters brings the cursor back to the first of 38 columns. -/
theorem cursor_of_long_line :
    let e := Editor.ofText (List.replicate 65536 'a')
    let a : Area := ⟨0, 3, 40, 7⟩
    a.inner.isEmpty = false ∧ a.height < screenUnits ∧ e.lineColumn = (0, 65536) ∧
      (drawQuery e true true (Canvas.blank 40 20) a).2 = some (1, 4) ∧
      ∃ column row, (drawQuery e true true (Canvas.blank 40 20) a).2 = some (1 + column, 4 + row) ∧
        column ≠ min e.lineColumn.2 (a.inner.width - 1) := by
  intro e a
  have hcaret : e.lineColumn = (0, 65536) := by
    rw [lineColumn_ofText fun h => absurd (List.eq_of_mem_replicate h) (by decide),
      List.length_replicate]
  have hroom : a.inner.isEmpty = false := rfl
  have hheight : a.height < screenUnits := by decide
  obtain ⟨column, row, hcursor, -, -, -, hcolumn⟩ :=
    cursor_marks_caret e (Canvas.blank 40 20) a hroom hheight
  refine ⟨hroom, hheight, hcaret, ?_, column, row, hcursor, ?_⟩
  · have hview : (drawQuery e true true (Canvas.blank 40 20) a).2
        = (QueryView.of e.lineColumn a.inner true).cursor := rfl
    rw [hview, hcaret]
    decide
  · rw [ne_eq, hcolumn, hcaret]
    decide

end PageQuery.Console
