import PageQuery.Query.Tokenize
import PageQuery.Text.Basic
import PageQuery.Number.Double
/-!
How tokens are shown: on a screen, on a terminal and as HTML (specification §4.1, Rendering).

`styleOf` gives colour and weight (`style_for`); identifiers, blanks and other characters have the
default look. `styledLines` lays a token list out in lines, token by token (`highlight_lines`): a
token that spans a line break is cut at it, and empty pieces leave no span.

For a terminal (`render_ansi`) a coloured token is its colour sequence, then bold or italic if it has
them, then its text, then a reset: of everything if a weight was set, else of the colour alone. A
token of the default look is written bare.

As HTML (`escape_html`, `css_class`, `render_markup`) text is escaped so that it holds no angle
bracket and no bare ampersand; a token whose kind has a class is wrapped in a span of that class.
-/

namespace PageQuery.Query

open Text Number

/-! ## 1. Kinds -/

/-- A colour by its red, green and blue parts. -/
structure Rgb where
  red : Nat
  green : Nat
  blue : Nat
  deriving DecidableEq, Repr

/-- How a span is shown. -/
structure Style where
  colour : Option Rgb
  bold : Bool
  italic : Bool
  deriving DecidableEq, Repr

/-- The default look. -/
def Style.plain : Style := ⟨none, false, false⟩

def styleOf : TokenKind → Style
  | .comment => ⟨some ⟨98, 114, 164⟩, false, true⟩
  | .string => ⟨some ⟨241, 250, 140⟩, false, false⟩
  | .operator => ⟨some ⟨255, 121, 198⟩, false, false⟩
  | .punctuation => ⟨some ⟨255, 121, 198⟩, false, false⟩
  | .number => ⟨some ⟨189, 147, 249⟩, false, false⟩
  | .keyword => ⟨some ⟨139, 233, 253⟩, true, false⟩
  | .function => ⟨some ⟨80, 250, 123⟩, false, false⟩
  | .identifier | .whitespace | .other => .plain

/-- A styled piece of one line. -/
structure Span where
  content : List Char
  kind : TokenKind
  style : Style
  deriving DecidableEq, Repr

/-! ## 2. Lines -/

/-- The span that a piece of a token makes, unless the piece is empty. -/
def spanOf (kind : TokenKind) (piece : List Char) : List Span :=
  if piece.isEmpty then [] else [⟨piece, kind, styleOf kind⟩]

/-- Styled lines that are being laid out: those that are closed, and the one that is still open. -/
structure Layout where
  closed : List (List Span)
  current : List Span

namespace Layout

def empty : Layout := ⟨[], []⟩

/-- All lines, the open one at the end. -/
def toLines (l : Layout) : List (List Span) := l.closed ++ [l.current]

/-- Close the open line and open the next. -/
def newLine (l : Layout) : Layout := ⟨l.toLines, []⟩

/-- Put a piece of a token at the end of the open line. -/
def addPiece (kind : TokenKind) (l : Layout) (piece : List Char) : Layout :=
  { l with current := l.current ++ spanOf kind piece }

/-- Lay out a token. Its first piece goes on the open line, each other one on a line of its own. -/
def addToken (l : Layout) (t : Token) : Layout :=
  match lines t.text with
  | [] => l
  | piece :: more =>
    more.foldl (fun l next => addPiece t.kind l.newLine next) (addPiece t.kind l piece)

end Layout

/-- The styled lines of a token list. There is at least one. -/
def styledLines (ts : List Token) : List (List Span) := (ts.foldl Layout.addToken .empty).toLines

/-! ## 3. Terminal colours -/

/-- A control sequence: escape, bracket, parameters, `m`. -/
def control (parameters : List Char) : List Char :=
  '\x1b' :: '[' :: (parameters ++ ['m'])

/-- The sequence that sets the text colour. -/
def colourSequence (c : Rgb) : List Char :=
  control ("38;2;".toList ++ naturalDigits c.red ++ ';' :: naturalDigits c.green ++
    ';' :: naturalDigits c.blue)

/-- A text in a style. -/
def ansiText (style : Style) (text : List Char) : List Char :=
  match style.colour with
  | none => text
  | some colour =>
    colourSequence colour ++
      (if style.bold then control ['1'] else []) ++
      (if style.italic then control ['3'] else []) ++
      text ++
      (if style.bold || style.italic then control ['0'] else control ['3', '9'])

/-- A query as it is printed to a terminal. -/
def ansi (query : List Char) : List Char :=
  (tokenize query).flatMap fun t => ansiText (styleOf t.kind) t.text

/-! ## 4. HTML -/

/-- A character as HTML text. -/
def escapeMarkupChar (c : Char) : List Char :=
  if c = '&' then "&amp;".toList
  else if c = '<' then "&lt;".toList
  else if c = '>' then "&gt;".toList
  else [c]

def escapeMarkup (cs : List Char) : List Char := cs.flatMap escapeMarkupChar

/-- The class that marks a kind of token, if it is marked. -/
def cssClass? : TokenKind → Option String
  | .comment => some "sql-comment"
  | .string => some "sql-str"
  | .operator | .punctuation => some "sql-op"
  | .number => some "sql-num"
  | .keyword => some "sql-kw"
  | .function => some "sql-fn"
  | .identifier | .whitespace | .other => none

/-- A token as HTML. -/
def tokenMarkup (t : Token) : List Char :=
  match cssClass? t.kind with
  | some name =>
    "<span class=\"".toList ++ name.toList ++ "\">".toList ++ escapeMarkup t.text ++
      "</span>".toList
  | none => escapeMarkup t.text

/-- A token list as HTML. -/
def markup (tokens : List Token) : List Char := tokens.flatMap tokenMarkup

@[simp] theorem markup_nil : markup [] = [] := rfl

@[simp] theorem markup_cons (t : Token) (ts : List Token) :
    markup (t :: ts) = tokenMarkup t ++ markup ts := rfl

end PageQuery.Query
