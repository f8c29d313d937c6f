import PageQuery.Query.Style
import PageQuery.Text.Width
/-!
A canvas of cells to draw on, and the looks of cells.

A look is made of colours and weight, which have names. It says only what it changes, so that one is
laid over another with `onto`.

Drawing outside the canvas has no effect. `Canvas.lines` and `Canvas.runs` read a canvas back: its
text line by line, and the stretches of each line that share a look.
-/

namespace PageQuery.Screen

open Text Query

/-! ## 1. Colours -/

inductive Colour where
  | red
  | green
  | yellow
  | cyan
  | gray
  | darkGray
  | rgb (c : Rgb)
  deriving DecidableEq, Repr

/-- A digit in base sixteen, in upper case. -/
def upperHexDigit (n : Nat) : Char := "0123456789ABCDEF".toList.getD n '0'

/-- A part of a colour as two digits. -/
def hexPart (n : Nat) : List Char := [upperHexDigit (n / 16), upperHexDigit (n % 16)]

/-- A colour as a number sign and six digits. -/
def hexText (c : Rgb) : String :=
  String.ofList ('#' :: (hexPart c.red ++ hexPart c.green ++ hexPart c.blue))

namespace Colour

def name : Colour → String
  | red => "Red"
  | green => "Green"
  | yellow => "Yellow"
  | cyan => "Cyan"
  | gray => "Gray"
  | darkGray => "DarkGray"
  | rgb c => hexText c

end Colour

/-! ## 2. Looks -/

structure Look where
  /-- The colour of the text. -/
  front : Option Colour
  /-- The colour behind it. -/
  back : Option Colour
  bold : Bool
  italic : Bool
  deriving DecidableEq, Repr

namespace Look

/-- The look that changes nothing. -/
def plain : Look := ⟨none, none, false, false⟩

def coloured (c : Colour) : Look := { plain with front := some c }

/-- Lay a look over another. -/
def onto (upper lower : Look) : Look :=
  ⟨upper.front.or lower.front, upper.back.or lower.back, upper.bold || lower.bold,
   upper.italic || lower.italic⟩

/-- The look of a style of query text. -/
def ofStyle (s : Style) : Look := ⟨s.colour.map .rgb, none, s.bold, s.italic⟩

/-- A look in words: the colour of the text, then what else there is. -/
def name (l : Look) : String :=
  ((l.front.map Colour.name).getD "") ++
    ((l.back.map fun c => " on " ++ c.name).getD "") ++
    (if l.bold then " bold" else "") ++ (if l.italic then " italic" else "")

@[simp] theorem plain_onto (l : Look) : plain.onto l = l := by
  cases l; simp [plain, onto]

end Look

/-! ## 3. Cells and areas -/

structure Cell where
  text : List Char
  look : Look
  deriving DecidableEq, Repr

namespace Cell

def blank : Cell := ⟨[' '], .plain⟩

instance : Inhabited Cell := ⟨blank⟩

end Cell

/-- A rectangle of cells. -/
structure Area where
  x : Nat
  y : Nat
  width : Nat
  height : Nat
  deriving DecidableEq, Repr

namespace Area

def isEmpty (a : Area) : Bool := a.width == 0 || a.height == 0

/-- The area within a border of one cell on each side. -/
def inner (a : Area) : Area :=
  ⟨a.x + min 1 a.width, a.y + min 1 a.height, a.width - 2, a.height - 2⟩

/-- The area below a border of one cell. -/
def below (a : Area) : Area := ⟨a.x, a.y + min 1 a.height, a.width, a.height - 1⟩

/-- A stretch of the area's columns. -/
def columns (a : Area) (start width : Nat) : Area := ⟨a.x + start, a.y, width, a.height⟩

/-- A stretch of the area's rows. -/
def rows (a : Area) (start height : Nat) : Area := ⟨a.x, a.y + start, a.width, height⟩

end Area

/-! ## 4. Drawing -/

structure Canvas where
  width : Nat
  height : Nat
  /-- The cells line by line. -/
  cells : Array Cell

namespace Canvas

def blank (width height : Nat) : Canvas := ⟨width, height, Array.replicate (width * height) .blank⟩

def area (c : Canvas) : Area := ⟨0, 0, c.width, c.height⟩

/-- Change one cell. -/
def change (c : Canvas) (x y : Nat) (f : Cell → Cell) : Canvas :=
  if x < c.width then { c with cells := c.cells.modify (y * c.width + x) f } else c

/-- Put a text into a cell and lay a look over it. -/
def put (c : Canvas) (x y : Nat) (text : List Char) (look : Look) : Canvas :=
  c.change x y fun cell => ⟨text, look.onto cell.look⟩

/-- Do something at each place of an area. -/
def forArea (c : Canvas) (a : Area) (f : Canvas → Nat → Nat → Canvas) : Canvas :=
  (List.range a.height).foldl (fun c dy =>
    (List.range a.width).foldl (fun c dx => f c (a.x + dx) (a.y + dy)) c) c

/-- Lay a look over an area. -/
def tint (c : Canvas) (a : Area) (look : Look) : Canvas :=
  c.forArea a fun c x y => c.change x y fun cell => { cell with look := look.onto cell.look }

/-! ## 5. Reading back -/

/-- The cells of one line. -/
def row (c : Canvas) (y : Nat) : List Cell :=
  (c.cells.extract (y * c.width) ((y + 1) * c.width)).toList

/-- The text of a line without the spaces at its end. -/
def lineText (cells : List Cell) : String :=
  String.ofList (((cells.flatMap (·.text)).reverse.dropWhile (· == ' ')).reverse)

/-- The text of each line. -/
def lines (c : Canvas) : List String := (List.range c.height).map fun y => lineText (c.row y)

/-- A stretch of cells of one look. -/
structure Run where
  start : Nat
  stop : Nat
  look : Look
  deriving DecidableEq, Repr

/-- Take a cell in front of runs. -/
def pushRun (x : Nat) (look : Look) : List Run → List Run
  | [] => [⟨x, x + 1, look⟩]
  | r :: rest => if r.look = look then ⟨x, r.stop, look⟩ :: rest else ⟨x, x + 1, look⟩ :: r :: rest

/-- The runs of cells from a column on. -/
def runsFrom : Nat → List Cell → List Run
  | _, [] => []
  | x, cell :: rest => pushRun x cell.look (runsFrom (x + 1) rest)

/-- The runs of each line but for those of the plain look. -/
def runs (c : Canvas) : List (List Run) :=
  (List.range c.height).map fun y => (runsFrom 0 (c.row y)).filter (·.look ≠ .plain)

end Canvas

end PageQuery.Screen
