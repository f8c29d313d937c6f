import PageQuery.Query.Tokenize
import PageQuery.Text.Basic
/-!
The query editor and its caret (specification §4.1, Caret preservation and Editing affordances).

A caret is kept as a place in the token list, a token and an offset inside it. `caretOffset` and
`locate` (`caret_offset`, `locate_caret`) go between such places and plain offsets. On a boundary
between two tokens `locate` takes the end of the earlier one; `caretOffset_locate` says that going
there and back only clamps to the end.

The editor (`QueryEditor`) holds the token list of its text, which is what is drawn, and a caret in
it. An edit takes the caret to a plain offset, changes the plain text, tokenizes again and puts the
caret back, so token boundaries can move freely under it. Moves only place the caret.
-/

namespace PageQuery.Query

open Text

/-! ## 1. Places -/

/-- A place in a token list: the index of a token and an offset into its text. -/
structure Caret where
  token : Nat
  offset : Nat
  deriving DecidableEq, Repr

/-- The plain offset of a place. A place beyond the list is at the end, an offset beyond its token
at the token's end. -/
def caretOffset : List Token → Caret → Nat
  | [], _ => 0
  | t :: _, ⟨0, offset⟩ => min offset t.text.length
  | t :: ts, ⟨token + 1, offset⟩ => t.text.length + caretOffset ts ⟨token, offset⟩

/-- The place at a plain offset, clamped to the end of the text. A boundary belongs to the earlier
token. -/
def locate : List Token → Nat → Caret
  | [], _ => ⟨0, 0⟩
  | t :: ts, n =>
    if n ≤ t.text.length then ⟨0, n⟩
    else
      match ts with
      | [] => ⟨0, t.text.length⟩
      | u :: us =>
        let place := locate (u :: us) (n - t.text.length)
        ⟨place.token + 1, place.offset⟩

/-- Going to a place and back clamps the offset to the length of the text. -/
@[simp] theorem caretOffset_locate (ts : List Token) (n : Nat) :
    caretOffset ts (locate ts n) = min n (plainText ts).length := by
  fun_induction locate ts n with
  | case1 => simp [caretOffset]
  | case2 t ts n h => simp [caretOffset]; omega
  | case3 t n h => simp [caretOffset]; omega
  | case4 t n h u us place ih =>
    simp only [caretOffset, plainText_cons, List.length_append] at ih ⊢
    have : (⟨place.token, place.offset⟩ : Caret) = place := rfl
    rw [this, ih]
    omega

/-! ## 2. The editor -/

/-- Query text under edit. -/
structure Editor where
  tokens : List Token
  caret : Caret
  deriving DecidableEq, Repr

/-- What a paste offers: plain text, rich text, or both. -/
structure Clip where
  plain : Option (List Char)
  rich : Option (List Char)

namespace Editor

/-- What a press of the tab key inserts. -/
def tabText : List Char := [' ', ' ']

def empty : Editor := ⟨[], ⟨0, 0⟩⟩

instance : Inhabited Editor := ⟨empty⟩

/-! ## 3. Views -/

def text (e : Editor) : List Char := plainText e.tokens

def isEmpty (e : Editor) : Bool := e.tokens.isEmpty

/-- The caret as a plain offset. -/
def offset (e : Editor) : Nat := caretOffset e.tokens e.caret

/-- The line and the column of the caret, both counted from zero. -/
def lineColumn (e : Editor) : Nat × Nat :=
  let before := e.text.take e.offset
  (before.count '\n', (before.reverse.takeWhile (· ≠ '\n')).length)

/-! ## 4. Edits -/

/-- The editor of a text with the caret at a plain offset. -/
def render (text : List Char) (offset : Nat) : Editor :=
  let tokens := tokenize text
  ⟨tokens, locate tokens offset⟩

/-- The editor of a text with the caret at its end. -/
def ofText (text : List Char) : Editor := render text text.length

/-- Insert a text at the caret and leave the caret behind it. -/
def insert (e : Editor) (added : List Char) : Editor :=
  render (e.text.take e.offset ++ added ++ e.text.drop e.offset) (e.offset + added.length)

def insertTab (e : Editor) : Editor := e.insert tabText

/-- Insert the plain part of a paste. The flag says whether anything was inserted. -/
def paste (e : Editor) (clip : Clip) : Editor × Bool :=
  match clip.plain with
  | some (c :: cs) => (e.insert (c :: cs), true)
  | _ => (e, false)

/-- Delete the character before the caret. -/
def backspace (e : Editor) : Editor :=
  if e.offset = 0 then e
  else render (e.text.take (e.offset - 1) ++ e.text.drop e.offset) (e.offset - 1)

/-- Delete the character after the caret. -/
def deleteForward (e : Editor) : Editor :=
  if e.text.length ≤ e.offset then e
  else render (e.text.take e.offset ++ e.text.drop (e.offset + 1)) e.offset

/-! ## 5. Moves -/

/-- Move the caret to a plain offset, clamped to the end. -/
def moveTo (e : Editor) (offset : Nat) : Editor := { e with caret := locate e.tokens offset }

def moveLeft (e : Editor) : Editor := e.moveTo (e.offset - 1)

def moveRight (e : Editor) : Editor := e.moveTo (e.offset + 1)

/-- Move to the start of the caret's line. -/
def moveLineStart (e : Editor) : Editor := e.moveTo (e.offset - e.lineColumn.2)

/-- Move to the end of the caret's line. -/
def moveLineEnd (e : Editor) : Editor :=
  e.moveTo (e.offset + ((e.text.drop e.offset).takeWhile (· ≠ '\n')).length)

/-- The plain offset of a line and a column, both clamped to what the lines offer. -/
def offsetAt (ls : List (List Char)) (line column : Nat) : Nat :=
  ((ls.take line).map (·.length + 1)).foldr (· + ·) 0 + min column (ls.getD line []).length

/-- Move up (negative) or down by whole lines. The column is kept where the line is long enough. -/
def moveVertical (e : Editor) (delta : Int) : Editor :=
  let ls := lines e.text
  let (line, column) := e.lineColumn
  let target := min ((line : Int) + delta).toNat (ls.length - 1)
  e.moveTo (offsetAt ls target column)

/-! ## 6. Small laws -/

@[simp] theorem text_render (cs : List Char) (n : Nat) : (render cs n).text = cs := by
  simp [render, text]

@[simp] theorem offset_render (cs : List Char) (n : Nat) :
    (render cs n).offset = min n cs.length := by
  simp [render, offset]

@[simp] theorem text_moveTo (e : Editor) (n : Nat) : (e.moveTo n).text = e.text := rfl

@[simp] theorem offset_moveTo (e : Editor) (n : Nat) :
    (e.moveTo n).offset = min n e.text.length := by
  simp [moveTo, offset, text]

end Editor

end PageQuery.Query
