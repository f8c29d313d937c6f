import PageQuery.Proofs.Query.Edits
import PageQuery.Proofs.Query.Reading
/-!
The editor as a plain buffer.

A `Buffer` is a text and a caret in it, and nothing else. `Editor.buffer` forgets the tokens of an
editor, and `buffer_step` says that every operation of the editor is that of the buffer.
`IsCoherent` is what the editor keeps beside it: its tokens are those of its text and its caret is
where the plain offset puts it. The main statement, `run_simulates`, is about all runs.
-/

namespace PageQuery.Query

open Text

/-! ## 1. Buffers -/

/-- A text and the number of characters before the caret. -/
structure Buffer where
  text : List Char
  caret : Nat
  deriving DecidableEq, Repr

namespace Buffer

def empty : Buffer := ⟨[], 0⟩

def ofText (text : List Char) : Buffer := ⟨text, text.length⟩

/-- The text before the caret. -/
def before (b : Buffer) : List Char := b.text.take b.caret

/-- The text behind the caret. -/
def after (b : Buffer) : List Char := b.text.drop b.caret

/-- The line of the caret: one more than the lines that end before it. -/
def line (b : Buffer) : Nat := (lines b.before).length - 1

/-- The column of the caret: what stands before it on its line. -/
def column (b : Buffer) : Nat := ((lines b.before).getLastD []).length

def setCaret (b : Buffer) (offset : Nat) : Buffer := { b with caret := min offset b.text.length }

def insert (b : Buffer) (added : List Char) : Buffer :=
  ⟨b.before ++ added ++ b.after, b.caret + added.length⟩

def backspace (b : Buffer) : Buffer := ⟨b.before.dropLast ++ b.after, b.caret - 1⟩

def deleteForward (b : Buffer) : Buffer := ⟨b.before ++ b.after.tail, b.caret⟩

/-- Move by whole lines, but not beyond the first and the last, and keep the column as far as the
line reaches. -/
def moveVertical (b : Buffer) (delta : Int) : Buffer :=
  let last : Int := (lines b.text).length - 1
  let target := max 0 (min (b.line + delta) last)
  { b with caret := placeAt (lines b.text) target.toNat b.column }

def step (b : Buffer) : Edit → Buffer
  | .withText text | .setText text => ofText text
  | .setCaret offset => b.setCaret offset
  | .insert added => b.insert added
  | .insertTab => b.insert [' ', ' ']
  | .paste clip => b.insert (clip.plain.getD [])
  | .backspace => b.backspace
  | .deleteForward => b.deleteForward
  | .moveLeft => { b with caret := b.caret - 1 }
  | .moveRight => { b with caret := min (b.caret + 1) b.text.length }
  | .moveLineStart => { b with caret := b.caret - b.column }
  | .moveLineEnd => { b with caret := b.caret + ((lines b.after).headD []).length }
  | .moveVertical delta => b.moveVertical delta

def run (b : Buffer) (edits : List Edit) : Buffer := edits.foldl step b

end Buffer

/-! ## 2. The buffer of an editor -/

/-- No place in a token list is beyond the end of its text. -/
theorem caretOffset_le : ∀ (ts : List Token) (p : Caret),
    caretOffset ts p ≤ (plainText ts).length
  | [], _ => Nat.zero_le _
  | t :: ts, ⟨0, offset⟩ => by
      rw [caretOffset, plainText_cons, List.length_append]
      omega
  | t :: ts, ⟨token + 1, offset⟩ => by
      have ih := caretOffset_le ts ⟨token, offset⟩
      rw [caretOffset, plainText_cons, List.length_append]
      omega

namespace Editor

def buffer (e : Editor) : Buffer := ⟨e.text, e.offset⟩

theorem offset_le (e : Editor) : e.offset ≤ e.text.length := caretOffset_le e.tokens e.caret

theorem buffer_render (text : List Char) (n : Nat) :
    (render text n).buffer = ⟨text, min n text.length⟩ := by
  rw [buffer, text_render, offset_render]

theorem buffer_moveTo (e : Editor) (n : Nat) :
    (e.moveTo n).buffer = ⟨e.text, min n e.text.length⟩ := by
  rw [buffer, text_moveTo, offset_moveTo]

theorem lineColumn_eq (e : Editor) : e.lineColumn = (e.buffer.line, e.buffer.column) := by
  have hline : e.buffer.line = (e.text.take e.offset).count '\n' := by
    rw [Buffer.line, lines, length_pieces]
    rfl
  have hcolumn : e.buffer.column
      = ((e.text.take e.offset).reverse.takeWhile (· ≠ '\n')).length := by
    rw [Buffer.column, lines, List.getLastD_eq_getLast?, getLast?_pieces, Option.getD_some,
      List.length_reverse]
    rfl
  rw [lineColumn, hline, hcolumn]

theorem buffer_insert (e : Editor) (added : List Char) :
    (e.insert added).buffer = e.buffer.insert added := by
  have hle := e.offset_le
  have hlen : e.offset + added.length
      ≤ (e.text.take e.offset ++ added ++ e.text.drop e.offset).length := by
    rw [List.length_append, List.length_append, List.length_take, List.length_drop]
    omega
  rw [insert, buffer_render, Nat.min_eq_left hlen]
  rfl

theorem buffer_paste (e : Editor) (clip : Clip) :
    (e.paste clip).1.buffer = e.buffer.insert (clip.plain.getD []) := by
  have hnone : e.buffer = e.buffer.insert [] := by
    rw [Buffer.insert, List.append_nil, Buffer.before, Buffer.after, List.take_append_drop]
    rfl
  obtain ⟨plain, rich⟩ := clip
  rcases plain with _ | _ | ⟨c, cs⟩
  · exact hnone
  · exact hnone
  · exact buffer_insert e (c :: cs)

theorem buffer_backspace (e : Editor) : e.backspace.buffer = e.buffer.backspace := by
  have hle := e.offset_le
  rw [backspace]
  split
  · next h => simp [buffer, Buffer.backspace, Buffer.before, Buffer.after, h]
  · next h =>
    have hlen : e.offset - 1
        ≤ (e.text.take (e.offset - 1) ++ e.text.drop e.offset).length := by
      rw [List.length_append, List.length_take, List.length_drop]
      omega
    have hbefore : e.buffer.before.dropLast = e.text.take (e.offset - 1) := by
      rw [Buffer.before, List.dropLast_eq_take, List.length_take, List.take_take]
      congr 1
      show min (min e.offset e.text.length - 1) e.offset = e.offset - 1
      omega
    rw [buffer_render, Nat.min_eq_left hlen, Buffer.backspace, hbefore]
    rfl

theorem buffer_deleteForward (e : Editor) :
    e.deleteForward.buffer = e.buffer.deleteForward := by
  have hle := e.offset_le
  rw [deleteForward]
  split
  · next h =>
    have hoff : e.offset = e.text.length := by omega
    simp [buffer, Buffer.deleteForward, Buffer.before, Buffer.after, hoff]
  · next h =>
    have hlen : e.offset ≤ (e.text.take e.offset ++ e.text.drop (e.offset + 1)).length := by
      rw [List.length_append, List.length_take, List.length_drop]
      omega
    rw [buffer_render, Nat.min_eq_left hlen, Buffer.deleteForward, Buffer.after, List.tail_drop]
    rfl

theorem buffer_moveLineEnd (e : Editor) :
    e.moveLineEnd.buffer = e.buffer.step .moveLineEnd := by
  have hle := e.offset_le
  have hhead : (lines e.buffer.after).headD [] = (e.text.drop e.offset).takeWhile (· ≠ '\n') := by
    rw [List.headD_eq_head?_getD, lines, head?_pieces]
    rfl
  have hrun := (List.takeWhile_sublist (l := e.text.drop e.offset)
    (fun c => decide (c ≠ '\n'))).length_le
  rw [List.length_drop] at hrun
  rw [moveLineEnd, buffer_moveTo, Nat.min_eq_left (by omega), Buffer.step, hhead]
  rfl

theorem offsetAt_eq_placeAt {ls : List (List Char)} {line : Nat} {here : List Char} (column : Nat)
    (h : ls[line]? = some here) : offsetAt ls line column = placeAt ls line column := by
  rw [placeAt_eq_sum column h, offsetAt, List.getD_eq_getElem?_getD, h, Option.getD_some]

theorem buffer_moveVertical (e : Editor) (delta : Int) :
    (e.moveVertical delta).buffer = e.buffer.moveVertical delta := by
  have hpos := length_lines_pos e.text
  have htarget := e.target_lt delta
  have hle := placeAt_lines_le e.text e.lineColumn.2 htarget
  have hclamp : (max 0 (min ((e.lineColumn.1 : Int) + delta) ((lines e.text).length - 1))).toNat
      = min ((e.lineColumn.1 : Int) + delta).toNat ((lines e.text).length - 1) := by omega
  have hoffset := offsetAt_eq_placeAt e.lineColumn.2 (List.getElem?_eq_getElem htarget)
  rw [lineColumn_eq] at hclamp hoffset hle
  simp only [moveVertical, lineColumn_eq, buffer_moveTo, hoffset, Nat.min_eq_left hle,
    Buffer.moveVertical]
  rw [← hclamp]
  rfl

/-- Every operation on the editor is the one on its buffer. -/
theorem buffer_step (e : Editor) (edit : Edit) :
    (e.step edit).buffer = e.buffer.step edit := by
  have hle := e.offset_le
  cases edit with
  | withText text | setText text =>
    rw [step, ofText, buffer_render, Nat.min_self]
    rfl
  | setCaret offset => exact buffer_moveTo e offset
  | insert added => exact buffer_insert e added
  | insertTab => exact buffer_insert e tabText
  | paste clip => exact buffer_paste e clip
  | backspace => exact buffer_backspace e
  | deleteForward => exact buffer_deleteForward e
  | moveLeft =>
    rw [step, moveLeft, buffer_moveTo, Nat.min_eq_left (by omega)]
    rfl
  | moveRight => exact buffer_moveTo e (e.offset + 1)
  | moveLineStart =>
    rw [step, moveLineStart, buffer_moveTo, Nat.min_eq_left (by omega), lineColumn_eq]
    rfl
  | moveLineEnd => exact buffer_moveLineEnd e
  | moveVertical delta => exact buffer_moveVertical e delta

theorem buffer_run (e : Editor) (edits : List Edit) :
    (e.run edits).buffer = e.buffer.run edits := by
  induction edits generalizing e with
  | nil => rfl
  | cons edit edits ih =>
    show ((e.step edit).run edits).buffer = (e.buffer.step edit).run edits
    rw [ih, buffer_step]

/-! ## 3. What an editor keeps beside its buffer -/

/-- The tokens are those of the text, and the caret is where its plain offset puts it. -/
structure IsCoherent (e : Editor) : Prop where
  tokens_eq : e.tokens = tokenize e.text
  caret_eq : e.caret = locate e.tokens e.offset

theorem isCoherent_empty : IsCoherent empty :=
  ⟨tokenize_nil.symm, rfl⟩

/-- Among tokens that are not empty, an offset beyond the end leads to the same place as the end. -/
theorem locate_min {ts : List Token} (h : ∀ t ∈ ts, t.text ≠ []) (n : Nat) :
    locate ts (min n (plainText ts).length) = locate ts n := by
  fun_induction locate ts n with
  | case1 => rfl
  | case2 t ts n hn =>
    have hmin : min n (plainText (t :: ts)).length = n := by
      rw [plainText_cons, List.length_append]
      omega
    rw [hmin, locate.eq_def]
    simp only [if_pos hn]
  | case3 t n hn =>
    have hmin : min n (plainText [t]).length = t.text.length := by
      rw [plainText_cons, plainText_nil, List.append_nil]
      omega
    rw [hmin, locate.eq_def]
    simp only [if_pos (Nat.le_refl _)]
  | case4 t n hn u us place ih =>
    -- an empty token in front of the end would hold the clamped offset and not the other
    have hu : 0 < u.text.length := List.length_pos_iff.mpr (h u (by simp))
    have hbeyond : ¬ min n (plainText (t :: u :: us)).length ≤ t.text.length := by
      simp only [plainText_cons, List.length_append]
      omega
    have hmin : min n (plainText (t :: u :: us)).length - t.text.length
        = min (n - t.text.length) (plainText (u :: us)).length := by
      rw [plainText_cons t, List.length_append]
      omega
    rw [locate.eq_def]
    simp only [if_neg hbeyond, hmin]
    rw [ih fun v hv => h v (by simp [hv])]

theorem text_ne_nil_of_mem_tokenize {cs : List Char} {t : Token} (h : t ∈ tokenize cs) :
    t.text ≠ [] := (isReading_tokenize cs).text_ne_nil t h

theorem isCoherent_render (text : List Char) (n : Nat) : IsCoherent (render text n) := by
  have htokens : (render text n).tokens = tokenize text := rfl
  refine ⟨by rw [text_render, htokens], ?_⟩
  rw [offset_render, htokens]
  have hne : ∀ t ∈ tokenize text, t.text ≠ [] := fun t ht => text_ne_nil_of_mem_tokenize ht
  have hmin := locate_min hne n
  rw [plainText_tokenize] at hmin
  rw [hmin]
  rfl

theorem IsCoherent.moveTo {e : Editor} (h : IsCoherent e) (n : Nat) : IsCoherent (e.moveTo n) := by
  have hne : ∀ t ∈ e.tokens, t.text ≠ [] := by
    rw [h.tokens_eq]
    exact fun t ht => text_ne_nil_of_mem_tokenize ht
  refine ⟨h.tokens_eq, ?_⟩
  rw [offset_moveTo]
  exact (locate_min hne n).symm

theorem IsCoherent.step {e : Editor} (h : IsCoherent e) (edit : Edit) :
    IsCoherent (e.step edit) := by
  cases edit with
  | withText text | setText text => exact isCoherent_render _ _
  | insert added => exact isCoherent_render _ _
  | insertTab => exact isCoherent_render _ _
  | paste clip =>
    obtain ⟨plain, rich⟩ := clip
    rcases plain with _ | _ | ⟨c, cs⟩
    · exact h
    · exact h
    · exact isCoherent_render _ _
  | backspace =>
    rw [Editor.step, backspace]
    split
    · exact h
    · exact isCoherent_render _ _
  | deleteForward =>
    rw [Editor.step, deleteForward]
    split
    · exact h
    · exact isCoherent_render _ _
  | setCaret _ | moveLeft | moveRight | moveLineStart | moveLineEnd => exact h.moveTo _
  | moveVertical delta => exact h.moveTo _

theorem IsCoherent.run {e : Editor} (h : IsCoherent e) (edits : List Edit) :
    IsCoherent (e.run edits) := by
  induction edits generalizing e with
  | nil => exact h
  | cons edit edits ih => exact ih (h.step edit)

/-- A move leaves the text alone. -/
theorem text_step_of_isMove (e : Editor) {edit : Edit} (h : edit.isMove = true) :
    (e.step edit).text = e.text := by
  cases edit with
  | setCaret _ | moveLeft | moveRight | moveLineStart | moveLineEnd => exact text_moveTo e _
  | moveVertical delta => exact text_moveTo e _
  | _ => cases h

/-! ## 4. Runs -/

/-- **A new editor is a plain buffer through every run of operations.** It has the buffer's text and
caret, the caret is never beyond the end, tokens and place of the caret are those of text and offset,
no operation is ever refused, and a move from there changes no text. -/
theorem run_simulates (edits : List Edit) :
    (empty.run edits).text = (Buffer.empty.run edits).text ∧
      (empty.run edits).offset = (Buffer.empty.run edits).caret ∧
      (Buffer.empty.run edits).caret ≤ (Buffer.empty.run edits).text.length ∧
      IsCoherent (empty.run edits) ∧
      empty.run? edits = some (empty.run edits) ∧
      IsSliced (empty.run edits).text (empty.run edits).tokens ∧
      ∀ move : Edit, move.isMove = true →
        ((empty.run edits).step move).text = (empty.run edits).text := by
  have hbuffer : (empty.run edits).buffer = Buffer.empty.run edits := buffer_run empty edits
  have hcoherent : IsCoherent (empty.run edits) := isCoherent_empty.run edits
  rw [← hbuffer]
  refine ⟨rfl, rfl, offset_le _, hcoherent, run?_eq_some empty edits, ?_,
    fun move hmove => text_step_of_isMove _ hmove⟩
  rw [hcoherent.tokens_eq]
  exact (isReading_tokenize _).isSliced

end Editor

end PageQuery.Query
