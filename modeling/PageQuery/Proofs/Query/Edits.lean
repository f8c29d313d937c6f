import PageQuery.Query.Editor
import PageQuery.Proofs.Text.Basic
/-!
Operations on an editor, plain and checked.

`Edit` lists what can be done to an editor, `Editor.step` does it. `Editor.step?` does the same as
memory sees it: text is cut at byte indices, lines are looked up, differences are taken of natural
numbers, and whatever would cut a character in two, name a line that is not there or go below zero
gives no editor at all. `step?_eq_some` says that this never happens.
-/

namespace PageQuery.Query

open Text
open String (utf8Len)

/-! ## 1. Operations -/

inductive Edit where
  /-- Start again with an editor of a text. -/
  | withText (text : List Char)
  | setText (text : List Char)
  | setCaret (offset : Nat)
  | insert (added : List Char)
  | insertTab
  | paste (clip : Clip)
  | backspace
  | deleteForward
  | moveLeft
  | moveRight
  | moveLineStart
  | moveLineEnd
  | moveVertical (delta : Int)

/-- An operation that only places the caret. -/
def Edit.isMove : Edit → Bool
  | setCaret _ | moveLeft | moveRight | moveLineStart | moveLineEnd | moveVertical _ => true
  | _ => false

namespace Editor

def step (e : Editor) : Edit → Editor
  | .withText text => ofText text
  | .setText text => ofText text
  | .setCaret offset => e.moveTo offset
  | .insert added => e.insert added
  | .insertTab => e.insertTab
  | .paste clip => (e.paste clip).1
  | .backspace => e.backspace
  | .deleteForward => e.deleteForward
  | .moveLeft => e.moveLeft
  | .moveRight => e.moveRight
  | .moveLineStart => e.moveLineStart
  | .moveLineEnd => e.moveLineEnd
  | .moveVertical delta => e.moveVertical delta

def run (e : Editor) (edits : List Edit) : Editor := edits.foldl step e

/-! ## 2. Checked operations -/

/-- A difference that must not go below zero. -/
def minus? (a b : Nat) : Option Nat := if b ≤ a then some (a - b) else none

/-- The place at a plain offset, with the difference at every token checked. -/
def locate? : List Token → Nat → Option Caret
  | [], _ => some ⟨0, 0⟩
  | t :: ts, n =>
    if n ≤ t.text.length then some ⟨0, n⟩
    else do
      let beyond ← minus? n t.text.length
      match ts with
      | [] => return ⟨0, t.text.length⟩
      | u :: us =>
        let place ← locate? (u :: us) beyond
        return ⟨place.token + 1, place.offset⟩

def render? (text : List Char) (offset : Nat) : Option Editor :=
  (locate? (tokenize text) offset).map fun caret => ⟨tokenize text, caret⟩

def moveTo? (e : Editor) (offset : Nat) : Option Editor :=
  (locate? e.tokens offset).map fun caret => { e with caret := caret }

/-- Put a text in at the byte index of the caret. -/
def insert? (e : Editor) (added : List Char) : Option Editor := do
  let place := byteIndex e.text e.offset
  let before ← slice? e.text 0 place
  let after ← slice? e.text place (utf8Len e.text)
  render? (before ++ added ++ after) (e.offset + added.length)

def paste? (e : Editor) (clip : Clip) : Option Editor :=
  match clip.plain with
  | some (c :: cs) => e.insert? (c :: cs)
  | _ => some e

/-- Take out the bytes of the character at an offset, and put the caret there. -/
def removeAt? (e : Editor) (offset : Nat) : Option Editor := do
  let start := byteIndex e.text offset
  let stop := byteIndex e.text (offset + 1)
  let _ ← slice? e.text start stop
  let before ← slice? e.text 0 start
  let after ← slice? e.text stop (utf8Len e.text)
  render? (before ++ after) offset

def backspace? (e : Editor) : Option Editor :=
  if e.offset = 0 then some e
  else do
    let offset ← minus? e.offset 1
    e.removeAt? offset

def deleteForward? (e : Editor) : Option Editor :=
  if e.text.length ≤ e.offset then some e else e.removeAt? e.offset

def moveLineStart? (e : Editor) : Option Editor := do
  let offset ← minus? e.offset e.lineColumn.2
  e.moveTo? offset

/-- The lines above the target and the target itself must be there. -/
def moveVertical? (e : Editor) (delta : Int) : Option Editor := do
  let ls := lines e.text
  let target := min ((e.lineColumn.1 : Int) + delta).toNat (ls.length - 1)
  let above ← if target ≤ ls.length then some (ls.take target) else none
  let here ← ls[target]?
  e.moveTo? ((above.map (·.length + 1)).foldr (· + ·) 0 + min e.lineColumn.2 here.length)

def step? (e : Editor) : Edit → Option Editor
  | .withText text => render? text text.length
  | .setText text => render? text text.length
  | .setCaret offset => e.moveTo? offset
  | .insert added => e.insert? added
  | .insertTab => e.insert? tabText
  | .paste clip => e.paste? clip
  | .backspace => e.backspace?
  | .deleteForward => e.deleteForward?
  | .moveLeft => e.moveTo? (e.offset - 1)
  | .moveRight => e.moveTo? (e.offset + 1)
  | .moveLineStart => e.moveLineStart?
  | .moveLineEnd =>
    e.moveTo? (e.offset + ((e.text.drop e.offset).takeWhile (· ≠ '\n')).length)
  | .moveVertical delta => e.moveVertical? delta

def run? (e : Editor) (edits : List Edit) : Option Editor := edits.foldlM step? e

/-! ## 3. Nothing is refused -/

theorem minus?_eq_some {a b : Nat} (h : b ≤ a) : minus? a b = some (a - b) := if_pos h

theorem locate?_eq_some (ts : List Token) (n : Nat) : locate? ts n = some (locate ts n) := by
  fun_induction locate ts n with
  | case1 => rfl
  | case2 t ts n h => rw [locate?, if_pos h]
  | case3 t n h =>
    rw [locate?, if_neg h, minus?_eq_some (by omega)]
    rfl
  | case4 t n h u us place ih =>
    rw [locate?, if_neg h, minus?_eq_some (by omega)]
    show (locate? (u :: us) (n - t.text.length)).bind _ = _
    rw [ih]
    rfl

@[simp] theorem render?_eq_some (text : List Char) (n : Nat) :
    render? text n = some (render text n) := by
  rw [render?, locate?_eq_some]
  rfl

@[simp] theorem moveTo?_eq_some (e : Editor) (n : Nat) : e.moveTo? n = some (e.moveTo n) := by
  rw [moveTo?, locate?_eq_some]
  rfl

/-- What is before a character index. -/
theorem slice?_zero_byteIndex (cs : List Char) (n : Nat) :
    slice? cs 0 (byteIndex cs n) = some (cs.take n) := by
  have h := slice?_byteIndex cs (Nat.zero_le n)
  rwa [byteIndex_zero, List.drop_zero] at h

/-- What is behind a character index. -/
theorem slice?_byteIndex_end (cs : List Char) (n : Nat) :
    slice? cs (byteIndex cs n) (utf8Len cs) = some (cs.drop n) := by
  by_cases hn : n ≤ cs.length
  · have h := slice?_byteIndex cs hn
    rwa [byteIndex_length, List.take_length] at h
  · have hend : byteIndex cs n = byteIndex cs cs.length := by
      rw [byteIndex, byteIndex, List.take_of_length_le (by omega), List.take_length]
    have h := slice?_byteIndex cs (Nat.le_refl cs.length)
    rw [List.take_length, List.drop_length, byteIndex_length] at h
    rw [hend, byteIndex_length, h, List.drop_of_length_le (by omega)]

@[simp] theorem insert?_eq_some (e : Editor) (added : List Char) :
    e.insert? added = some (e.insert added) := by
  simp only [insert?, slice?_zero_byteIndex, slice?_byteIndex_end, Option.bind_eq_bind,
    Option.bind_some, render?_eq_some]
  rfl

theorem removeAt?_eq_some (e : Editor) (n : Nat) :
    e.removeAt? n = some (render (e.text.take n ++ e.text.drop (n + 1)) n) := by
  simp only [removeAt?, slice?_byteIndex e.text (Nat.le_succ n), slice?_zero_byteIndex,
    slice?_byteIndex_end, Option.bind_eq_bind, Option.bind_some, render?_eq_some]

theorem column_le_offset (e : Editor) : e.lineColumn.2 ≤ e.offset := by
  have hrun := (List.takeWhile_sublist (l := (e.text.take e.offset).reverse)
    (fun c => decide (c ≠ '\n'))).length_le
  rw [List.length_reverse, List.length_take] at hrun
  exact hrun.trans (Nat.min_le_left _ _)

/-- The line that a vertical move goes to is there. -/
theorem target_lt (e : Editor) (delta : Int) :
    min ((e.lineColumn.1 : Int) + delta).toNat ((lines e.text).length - 1)
      < (lines e.text).length := by
  have hpos := length_lines_pos e.text
  omega

theorem moveVertical?_eq_some (e : Editor) (delta : Int) :
    e.moveVertical? delta = some (e.moveVertical delta) := by
  have htarget := e.target_lt delta
  rw [moveVertical?, if_pos (Nat.le_of_lt htarget), List.getElem?_eq_getElem htarget]
  show e.moveTo? _ = _
  rw [moveTo?_eq_some, moveVertical]
  simp only [offsetAt, List.getD_eq_getElem?_getD, List.getElem?_eq_getElem htarget,
    Option.getD_some]

/-- No operation cuts a character in two, names a line that is not there or goes below zero. -/
theorem step?_eq_some (e : Editor) (edit : Edit) : e.step? edit = some (e.step edit) := by
  cases edit with
  | withText text | setText text => exact render?_eq_some text text.length
  | setCaret offset => exact moveTo?_eq_some e offset
  | insert added => exact insert?_eq_some e added
  | insertTab => exact insert?_eq_some e tabText
  | paste clip =>
    obtain ⟨plain, rich⟩ := clip
    rcases plain with _ | _ | ⟨c, cs⟩
    · rfl
    · rfl
    · exact insert?_eq_some e (c :: cs)
  | backspace =>
    rw [step?, step, backspace?, backspace]
    split
    · rfl
    · next h =>
      rw [minus?_eq_some (by omega)]
      show e.removeAt? (e.offset - 1) = _
      rw [removeAt?_eq_some, Nat.sub_add_cancel (by omega)]
  | deleteForward =>
    rw [step?, step, deleteForward?, deleteForward]
    split
    · rfl
    · exact removeAt?_eq_some e e.offset
  | moveLeft | moveRight | moveLineEnd => exact moveTo?_eq_some e _
  | moveLineStart =>
    rw [step?, moveLineStart?, minus?_eq_some e.column_le_offset]
    exact moveTo?_eq_some e _
  | moveVertical delta => exact moveVertical?_eq_some e delta

theorem run?_eq_some (e : Editor) (edits : List Edit) : e.run? edits = some (e.run edits) := by
  induction edits generalizing e with
  | nil => rfl
  | cons edit edits ih =>
    rw [run?, List.foldlM_cons, step?_eq_some]
    exact ih (e.step edit)

end Editor

end PageQuery.Query
