import PageQuery.Screen.Canvas
import PageQuery.Text.Basic
import PageQuery.Screen.Split
/-!
Drawing text, bordered areas and tables, as the terminal library of the program does.

A piece is text in one look. `drawLine` draws pieces as far as they fit; `drawLines` draws lines below
each other from a first visible one on; `wrap` breaks a line at its blanks.

A border is one cell wide. Its title stands on the upper side, behind the corner, and takes the
border's colour.

A table shows a header line and as many rows as fit below it. The first row in view is kept from one
drawing to the next and moves just as far as the chosen row needs.
-/

namespace PageQuery.Screen

open Text

/-! ## 1. Pieces -/

/-- Text in one look. -/
structure Piece where
  text : List Char
  look : Look
  deriving DecidableEq, Repr

/-- A glyph and its look. -/
abbrev Inked := Glyph × Look

def pieceOf (s : String) (look : Look) : Piece := ⟨s.toList, look⟩

def plainPiece (s : String) : Piece := pieceOf s .plain

/-- The glyphs of a piece. Line feeds are not drawn. -/
def Piece.inked (p : Piece) : List Inked :=
  ((glyphs p.text).filter (·.text ≠ ['\n'])).map fun g => (g, p.look)

def inkedLine (pieces : List Piece) : List Inked := pieces.flatMap Piece.inked

def inkWidth (line : List Inked) : Nat := (line.map (·.1.width)).foldr (· + ·) 0

/-! ## 2. Lines -/

/-- What of a line fits into a width. A glyph that is wider than the whole width is passed over. -/
def fitting (width : Nat) : Nat → List Inked → List Inked
  | _, [] => []
  | used, g :: rest =>
    if width < g.1.width then fitting width used rest
    else if width < used + g.1.width then []
    else g :: fitting width (used + g.1.width) rest

/-- Draw glyphs from a place on. -/
def drawInked (c : Canvas) (x y : Nat) : List Inked → Canvas
  | [] => c
  | (g, look) :: rest =>
    if g.width = 0 then drawInked c x y rest
    else drawInked (c.put x y g.text look) (x + g.width) y rest

/-- Draw lines into an area. -/
def drawInkedLines (c : Canvas) (a : Area) (ls : List (List Inked)) : Canvas :=
  (ls.take a.height).zipIdx.foldl (fun c (line, dy) =>
    drawInked c a.x (a.y + dy) (fitting a.width 0 line)) c

/-- Draw lines of pieces into an area, the first of them out of view. -/
def drawLines (c : Canvas) (a : Area) (hidden : Nat) (ls : List (List Piece)) : Canvas :=
  drawInkedLines c a ((ls.drop hidden).map inkedLine)

/-! ## 3. Labels -/

/-- Draw glyphs as far as they fit. A glyph that does not fit ends the label, and the cells that a
wide one hides are emptied. -/
def drawInkedLabel (c : Canvas) (x y stop : Nat) : List Inked → Canvas
  | [] => c
  | (g, look) :: rest =>
    if stop < x + g.width then c
    else if g.width = 0 then drawInkedLabel c x y stop rest
    else
      let c := c.put x y g.text look
      let c := (List.range (g.width - 1)).foldl (fun c i => c.change (x + 1 + i) y fun _ => .blank) c
      drawInkedLabel c (x + g.width) y stop rest

/-- Draw a piece on the first line of an area. -/
def drawLabel (c : Canvas) (a : Area) (p : Piece) : Canvas :=
  if a.isEmpty then c else drawInkedLabel c a.x a.y (a.x + a.width) p.inked

/-! ## 4. Wrapping -/

/-- A word, and the blanks before it. -/
structure Word where
  gap : List Inked
  body : List Inked

def isGap (g : Inked) : Bool := g.1.text.all isBlank && g.1.text ≠ ['\u00a0']

/-- Put a glyph in front of words. -/
def pushInked (g : Inked) : List Word → List Word
  | [] => if isGap g then [⟨[g], []⟩] else [⟨[], [g]⟩]
  | w :: rest =>
    if isGap g then ⟨g :: w.gap, w.body⟩ :: rest
    else if w.gap.isEmpty then ⟨[], g :: w.body⟩ :: rest
    else ⟨[], [g]⟩ :: w :: rest

/-- The words of a line. -/
def wordsOf (line : List Inked) : List Word := line.foldr pushInked []

/-- Cut the rest of a word into parts that fit, behind a part that is begun. -/
def cutFrom (width : Nat) : List Inked → List Inked → List (List Inked)
  | part, [] => [part]
  | part, g :: rest =>
    if part.isEmpty || inkWidth part + g.1.width ≤ width then cutFrom width (part ++ [g]) rest
    else part :: cutFrom width [g] rest

/-- A word as words that fit; only the first has blanks before it. -/
def Word.cut (width : Nat) (w : Word) : List Word :=
  match cutFrom width [] (w.body.filter (·.1.width ≤ width)) with
  | [] => []
  | first :: more => ⟨w.gap, first⟩ :: more.map fun part => ⟨[], part⟩

/-- Fill lines with words. The blanks at a break are dropped. -/
def fill (width : Nat) : List Inked → List Word → List (List Inked)
  | line, [] => [line]
  | line, w :: rest =>
    if line.isEmpty then fill width w.body rest
    else if inkWidth line + inkWidth w.gap + inkWidth w.body ≤ width then
      fill width (line ++ w.gap ++ w.body) rest
    else line :: fill width w.body rest

/-- Break a line so that each part fits, as far as words allow. -/
def wrap (width : Nat) (pieces : List Piece) : List (List Inked) :=
  fill width [] ((wordsOf (inkedLine pieces)).flatMap (·.cut width))

/-- Draw pieces into an area with breaks between words. -/
def drawWrapped (c : Canvas) (a : Area) (pieces : List Piece) : Canvas :=
  drawInkedLines c a (wrap a.width pieces)

/-! ## 5. Areas within a border -/

/-- Draw the upper side of an area. -/
def drawRule (c : Canvas) (a : Area) (look : Look) : Canvas :=
  c.forArea (a.rows 0 (min 1 a.height)) fun c x y => c.put x y ['─'] look

/-- Draw the sides of an area. -/
def drawSides (c : Canvas) (a : Area) (look : Look) : Canvas :=
  let bar (c : Canvas) (dx : Nat) : Canvas :=
    c.forArea (a.columns dx 1) fun c x y => c.put x y ['│'] look
  drawRule (bar (drawRule (bar c 0) a look) (a.width - 1)) (a.rows (a.height - 1) 1) look

/-- Draw the corners of an area. -/
def drawCorners (c : Canvas) (a : Area) (look : Look) : Canvas :=
  let right := a.x + a.width - 1
  let bottom := a.y + a.height - 1
  (((c.put right bottom ['┘'] look).put right a.y ['┐'] look).put a.x bottom ['└'] look).put
    a.x a.y ['┌'] look

/-- Draw a border with a title. -/
def drawPanel (c : Canvas) (a : Area) (title : String) (colour : Colour) : Canvas :=
  if a.isEmpty then c
  else
    let look := Look.coloured colour
    let c := drawCorners (drawSides c a look) a look
    drawLabel c (a.columns (min 1 a.width) (a.width - 2)) (plainPiece title)

/-! ## 6. Tables -/

/-- A table as it is shown. -/
structure Grid where
  widths : List Nat
  header : List (List Char)
  rows : List (List (List Char))

/-- The chosen row, and the first row in view. -/
structure Selection where
  row : Option Nat
  top : Nat
  deriving DecidableEq, Repr

namespace Selection

/-- Nothing is chosen. -/
def none : Selection := ⟨.none, 0⟩

/-- Choose a row. -/
def choose (s : Selection) (row : Nat) : Selection := { s with row := some row }

end Selection

/-- The first row in view, moved so that the chosen row is among those in view. -/
def firstInView (top height : Nat) (chosen : Option Nat) : Nat :=
  match chosen with
  | none => top
  | some row =>
    if row < top then row
    else if top + height ≤ row then row + 1 - max 1 height
    else top

/-- Draw cells into columns. -/
def drawCells (c : Canvas) (a : Area) (columns : List (Nat × Nat)) (cells : List (List Char)) :
    Canvas :=
  (columns.zip cells).foldl (fun c (place, text) =>
    drawLabel c (a.columns place.1 place.2) ⟨text, .plain⟩) c

namespace Grid

def headerLook : Look := { Look.coloured .cyan with bold := true }

/-- The look of the chosen row. -/
def chosenLook : Look := { Look.plain with back := some (.rgb ⟨32, 52, 70⟩) }

/-- Draw the rows in view from one on, line by line. -/
def drawRows (g : Grid) (c : Canvas) (a : Area) (columns : List (Nat × Nat)) (s : Selection) :
    Canvas :=
  ((g.rows.drop s.top).take a.height).zipIdx.foldl (fun c (cells, i) =>
    let line := a.rows i 1
    let c := drawCells c line columns cells
    if s.row = some (s.top + i) then c.tint line chosenLook else c) c

/-- Draw a table. The answer says which row came first. -/
def draw (g : Grid) (c : Canvas) (a : Area) (s : Selection) : Canvas × Selection :=
  if a.isEmpty then (c, s)
  else
    let columns := tableColumns a.width g.widths
    let c := drawCells (c.tint (a.rows 0 1) headerLook) (a.rows 0 1) columns g.header
    if g.rows.isEmpty then (c, .none)
    else
      let body := a.rows 1 (a.height - 1)
      let s := { s with top := firstInView (min s.top (g.rows.length - 1)) body.height s.row }
      (g.drawRows c body columns s, s)

end Grid

end PageQuery.Screen
