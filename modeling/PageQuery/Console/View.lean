import PageQuery.Console.State
import PageQuery.Screen.Drawing
import PageQuery.Result.Table
/-!
How a session is shown.

The screen has five bands: the fields, the query, the results, the hints and the status. Drawing
keeps one thing for the next time, the first row of the results in view. `QueryView` says which lines
of the query are in view and where the cursor stands.

Specification §10: `render`, `render_status`, `ControlsBar`, `QueryPane` and `ResultsPane`.
-/

namespace PageQuery.Console

open Text Query Screen

variable {σ : Type}

/-! ## 1. Fields -/

/-- The colour of a border. -/
def borderColour (focused enabled : Bool) : Colour :=
  if enabled then (if focused then .cyan else .gray) else .darkGray

/-- What stands for a text that is not shown yet. -/
def placeholderLook : Look := { Look.coloured .darkGray with italic := true }

/-- A token of which only the last four characters are shown, behind at most eight dots. -/
def masked (token : String) : String :=
  let cs := token.toList
  let covered := cs.length - 4
  String.ofList (List.replicate (min covered 8) '•' ++ cs.drop covered)

/-- What the token's field holds. -/
def tokenPiece (d : Desk) : Piece :=
  if d.tokenEditor.isVisible then
    if d.token = "" then pieceOf d.tokenEditor.help placeholderLook else plainPiece d.token
  else plainPiece ("saved " ++ masked d.token)

/-- What the snapshot's field holds. -/
def snapshotText : Option Snapshot → String
  | none => "none"
  | some s => natText s.sizeBytes ++ " bytes (" ++ s.scope.name ++ "/" ++ s.source.name ++ ")"

/-- A field of the first band. -/
structure Field where
  title : String
  content : Piece
  /-- The focus that the field answers to, if it can have it. -/
  focus : Option Focus

def fields (d : Desk) : List Field :=
  [⟨"Token", tokenPiece d, some .token⟩,
   ⟨"Max rows", plainPiece d.maxRowsInput, some .maxRows⟩,
   ⟨"Timeout ms", plainPiece d.timeoutInput, some .timeout⟩,
   ⟨"Snapshot", plainPiece (snapshotText d.snapshot), none⟩]

/-- How wide the fields are. -/
def fieldClaims : List Claim := [.atLeast 30, .exactly 16, .exactly 16, .exactly 30]

def drawField (focus : Focus) (enabled : Bool) (c : Canvas) (a : Area) (f : Field) : Canvas :=
  let c := drawPanel c a f.title (borderColour (f.focus == some focus) enabled)
  drawLines c a.inner 0 [[f.content]]

/-- The first band. -/
def drawFields (d : Desk) (focus : Focus) (enabled : Bool) (c : Canvas) (a : Area) : Canvas :=
  ((split a.width fieldClaims).zip (fields d)).foldl (fun c (place, f) =>
    drawField focus enabled c (a.columns place.1 place.2) f) c

/-! ## 2. The query -/

/-- The query that is shown while there is none. -/
def sampleQuery : String := "SELECT a FROM doc WHERE attributes.href CONTAINS 'docs'"

/-- Positions on a screen have sixteen bits. -/
def screenUnits : Nat := Nat.pow 2 16

/-- What is in view of the query. -/
structure QueryView where
  /-- The number of lines above the first one in view. -/
  scroll : Nat
  /-- The cursor, if it is shown. -/
  cursor : Option (Nat × Nat)
  deriving DecidableEq, Repr

/-- The number of lines that have to go so that the caret's line is in view. -/
def linesAbove (line height : Nat) : Nat := line - (height - 1)

/-- The view of a caret from the inside of the query's panel. -/
def QueryView.of (caret : Nat × Nat) (inner : Area) (shown : Bool) : QueryView :=
  let above := linesAbove caret.1 inner.height
  ⟨above % screenUnits,
   if shown && !inner.isEmpty then
     some (inner.x + min (caret.2 % screenUnits) (inner.width - 1),
       inner.y + (caret.1 - above) % screenUnits)
   else none⟩

/-- The lines of the query as they are drawn. -/
def queryLines (e : Editor) : List (List Piece) :=
  if e.isEmpty then [[pieceOf sampleQuery placeholderLook]]
  else (styledLines e.tokens).map fun line =>
    line.map fun s => ⟨s.content, Look.ofStyle s.style⟩

/-- The second band, and the cursor. -/
def drawQuery (e : Editor) (focused enabled : Bool) (c : Canvas) (a : Area) :
    Canvas × Option (Nat × Nat) :=
  let view := QueryView.of e.lineColumn a.inner (focused && enabled)
  let c := drawPanel c a "Query" (borderColour focused enabled)
  (drawLines c a.inner view.scroll (queryLines e), view.cursor)

/-! ## 3. The results -/

def resultsTitle : Option QueryResult → String
  | none => "Results"
  | some r =>
    "Results (" ++ natText r.rows.length ++ (if r.truncated then " rows, truncated)" else " rows)")

def noResultsText : String := "No results yet. Press ctrl+r to run the query."

/-- The first line of a text. -/
def firstLine (cs : List Char) : List Char :=
  let line := cs.takeWhile (· ≠ '\n')
  if line.length < cs.length ∧ line.getLast? = some '\r' then line.dropLast else line

/-- A text with blanks in place of its line ends. -/
def singleLine (cs : List Char) : List Char :=
  cs.map fun c => if c = '\n' ∨ c = '\r' then ' ' else c

/-- What the agent reported inside its answer. -/
def faultText (f : QueryFault) : String :=
  match f.code with
  | some code => code ++ ": " ++ f.message
  | none => f.message

/-- The cells of each row as they are written. -/
def cellTexts (r : QueryResult) : List (List (List Char)) := r.rows.map (·.map cellText)

/-- How wide a column may be. -/
def columnLimits : Nat × Nat := (3, 40)

/-- The width of the column at an index: that of its longest text, kept within limits. -/
def columnWidth (r : QueryResult) (texts : List (List (List Char))) (i : Nat) : Nat :=
  let header := ((r.columns[i]?).map (·.length)).getD 0
  let longest := texts.foldl (fun n row => max n (((row[i]?).map (·.length)).getD 0)) header
  max columnLimits.1 (min longest columnLimits.2)

/-- The widths of all columns; the longest row can have more than there are names. -/
def columnWidths (r : QueryResult) : List Nat :=
  let texts := cellTexts r
  let count := r.rows.foldl (fun n row => max n row.length) r.columns.length
  (List.range count).map (columnWidth r texts)

/-- The table of a result. -/
def gridOf (r : QueryResult) : Grid where
  widths := columnWidths r
  header := r.columns.map fun name => firstLine name.toList
  rows := r.rows.map fun row => (r.padded row).map fun v => singleLine (cellText v)

/-- The notice above a table. -/
def drawNotice (f : QueryFault) (c : Canvas) (a : Area) : Canvas :=
  drawLines (c.tint a (.coloured .red)) a 0 [[⟨firstLine (faultText f).toList, .plain⟩]]

/-- A result in an area. -/
def drawResult (r : QueryResult) (s : Selection) (c : Canvas) (a : Area) : Canvas × Selection :=
  match r.fault with
  | none => (gridOf r).draw c a s
  | some f =>
    match split a.height [.exactly 1, .atLeast 1] with
    | [notice, table] =>
      (gridOf r).draw (drawNotice f c (a.rows notice.1 notice.2)) (a.rows table.1 table.2) s
    | _ => (c, s)

/-- The third band. -/
def drawResults (result : Option QueryResult) (s : Selection) (focused : Bool) (c : Canvas)
    (a : Area) : Canvas × Selection :=
  let c := drawPanel c a (resultsTitle result) (borderColour focused true)
  match result with
  | some r => drawResult r s c a.inner
  | none =>
    (drawWrapped (c.tint a.inner (.coloured .darkGray)) a.inner [plainPiece noResultsText], s)

/-! ## 4. Hints and status -/

/-- Keys and what they do. -/
def hints : List (String × String) :=
  [("ctrl+r", " run · "), ("ctrl+g", " capture · "), ("F6/F7", " copy csv/json · "),
   ("ctrl+t", " token · "), ("ctrl+s", " save token · "), ("shift+tab", " focus · "),
   ("ctrl+q", " quit")]

/-- The fourth band. -/
def drawHints (c : Canvas) (a : Area) : Canvas :=
  drawWrapped (c.tint a (.coloured .gray)) a
    (hints.flatMap fun h => [pieceOf h.1 (.coloured .cyan), plainPiece h.2])

/-- How the statuses of successes begin. -/
def successWords : List String := ["Captured", "Copied", "Saved", "Token saved", "Snapshot"]

/-- The colour of a status. -/
def statusColour (status : String) : Colour :=
  if "Error:".toList.isPrefixOf status.toList then .red
  else if successWords.any fun w => w.toList.isPrefixOf status.toList then .green
  else .gray

/-- What is shown while an action runs. -/
def runningText : Action → String
  | .capture => "Capturing ..."
  | .runQuery => "Running query ..."
  | .copyCsv | .copyJson => "Copying ..."
  | .saveToken => "Saving token ..."

def statusPiece (running : Option Action) (status : String) : Piece :=
  match running with
  | some a => pieceOf (runningText a) (.coloured .yellow)
  | none => pieceOf status (.coloured (statusColour status))

/-- A text with its line ends taken out. -/
def unbroken (cs : List Char) : List Char :=
  match cs with
  | [] => []
  | '\r' :: '\n' :: rest => unbroken rest
  | '\n' :: rest => unbroken rest
  | c :: rest => c :: unbroken rest

/-- The last band. -/
def drawStatus (p : Piece) (c : Canvas) (a : Area) : Canvas :=
  drawLines (drawRule c a .plain) a.below 0 [[{ p with text := unbroken p.text }]]

/-! ## 5. The screen -/

/-- How high the bands are. -/
def bandClaims : List Claim := [.exactly 3, .percent 35, .atLeast 5, .exactly 1, .exactly 2]

/-- What a drawing shows. -/
structure Drawing where
  canvas : Canvas
  cursor : Option (Nat × Nat)

/-- The area of a band. -/
def band (whole : Area) (i : Nat) : Area :=
  let place := (split whole.height bandClaims).getD i (0, 0)
  whole.rows place.1 place.2

/-- Draw a session, possibly while an action runs. -/
def draw (running : Option Action) (width height : Nat) (c : Console σ) : Drawing × Console σ :=
  let d := c.desk
  let enabled := running.isNone && d.isEnabled
  let canvas := Canvas.blank width height
  let whole := canvas.area
  let canvas := drawFields d c.focus enabled canvas (band whole 0)
  let (canvas, cursor) := drawQuery d.editor (c.focus == .query) enabled canvas (band whole 1)
  let (canvas, selection) :=
    drawResults d.result c.selection (c.focus == .results) canvas (band whole 2)
  let canvas := drawHints canvas (band whole 3)
  let canvas := drawStatus (statusPiece running d.status) canvas (band whole 4)
  (⟨canvas, cursor⟩, { c with selection := selection })

end PageQuery.Console
