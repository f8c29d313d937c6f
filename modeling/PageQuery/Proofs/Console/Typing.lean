import PageQuery.Proofs.Console.TokenField
import PageQuery.Proofs.Query.Buffer
import Mathlib.Data.List.Induction
/-!
Typing and pasting come to the same.

A text can come into the query at once, in pieces, or key by key, and with every piece the whole query is
tokenized again, so that what is drawn in between has little in common. But an editor is told by its text
and caret alone (`eq_of_buffer_eq`), as long as it is coherent, and every editor in a session is
(`isCoherent_run`). For a plain buffer the question is one about lists: pieces that are put in one after
the other make up the whole (`run_inserting`), and as many deletions take it away again
(`run_backspaces`). `pasting_is_typing` says what that means for the events of a session.
-/

namespace PageQuery

/-! ## 1. Buffers -/

namespace Query

namespace Buffer

theorem insert_nil (b : Buffer) : b.insert [] = b := by
  simp [insert, before, after]

section Inside

variable {b : Buffer} (h : b.caret ≤ b.text.length)

include h

theorem length_before_append (s : List Char) : (b.before ++ s).length = b.caret + s.length := by
  unfold before
  rw [List.length_append, List.length_take]
  omega

/-- The caret is behind what was put in. -/
theorem before_insert (s : List Char) : (b.insert s).before = b.before ++ s := by
  unfold insert
  exact List.take_left' (length_before_append h s)

theorem after_insert (s : List Char) : (b.insert s).after = b.after := by
  unfold insert
  exact List.drop_left' (length_before_append h s)

theorem caret_insert_le (s : List Char) : (b.insert s).caret ≤ (b.insert s).text.length := by
  have hLength := length_before_append h s
  simp only [insert, List.length_append] at hLength ⊢
  omega

theorem insert_insert (s t : List Char) : (b.insert s).insert t = b.insert (s ++ t) := by
  have hBefore := before_insert h s
  have hAfter := after_insert h s
  unfold insert at hBefore hAfter ⊢
  rw [hBefore, hAfter]
  simp [Nat.add_assoc]

/-- A deletion takes away the last character that was put in. -/
theorem backspace_insert (s : List Char) (c : Char) :
    (b.insert (s ++ [c])).backspace = b.insert s := by
  have hBefore := before_insert h (s ++ [c])
  have hAfter := after_insert h (s ++ [c])
  unfold backspace
  rw [hBefore, hAfter, ← List.append_assoc, List.dropLast_concat]
  simp only [insert, List.length_append, List.length_singleton, List.append_assoc]
  congr 1

/-- Operations that each put in a piece put in all pieces, one behind the other. -/
theorem run_inserting {α : Type} (edit : α → Edit) (added : α → List Char)
    (hEdit : ∀ a (b : Buffer), b.step (edit a) = b.insert (added a)) (pieces : List α) :
    b.run (pieces.map edit) = b.insert (pieces.flatMap added) := by
  induction pieces generalizing b with
  | nil => exact (insert_nil b).symm
  | cons piece rest ih =>
    show (b.step (edit piece)).run (rest.map edit) = _
    rw [hEdit, ih (caret_insert_le h _), insert_insert h, List.flatMap_cons]

/-- As many deletions as characters were put in take all of them away. -/
theorem run_backspaces (s : List Char) :
    (b.insert s).run (List.replicate s.length .backspace) = b := by
  induction s using List.reverseRecOn with
  | nil => exact insert_nil b
  | append_singleton s c ih =>
    rw [List.length_append, List.length_singleton, List.replicate_succ]
    show (b.insert (s ++ [c])).backspace.run (List.replicate s.length .backspace) = b
    rw [backspace_insert h, ih]

end Inside

end Buffer

/-! ## 2. Editors -/

namespace Editor

/-- A coherent editor is told by its text and its caret. -/
theorem IsCoherent.eq_of_buffer_eq {e e' : Editor} (h : e.IsCoherent) (h' : e'.IsCoherent)
    (hBuffer : e.buffer = e'.buffer) : e = e' := by
  obtain ⟨hText, hOffset⟩ : e.text = e'.text ∧ e.offset = e'.offset := by
    simpa [buffer] using hBuffer
  have hTokens : e.tokens = e'.tokens := by rw [h.tokens_eq, h'.tokens_eq, hText]
  have hCaret : e.caret = e'.caret := by rw [h.caret_eq, h'.caret_eq, hTokens, hOffset]
  cases e
  cases e'
  simp_all

end Editor

end Query

open Query

namespace Console

variable {σ : Type}

/-! ## 3. The editor of a session -/

theorem editor_onField (f : String → String) (c : Console σ) :
    (onField f c).desk.editor = c.desk.editor := by
  unfold onField
  cases c.focus <;> rfl

theorem Handling.coherent {c : Console σ} {e : Event} {r : Response σ} (hHandling : Handling c e r)
    (h : c.desk.editor.IsCoherent) : r.2.desk.editor.IsCoherent := by
  cases hHandling with
  | edit _ _ edit => exact h.step edit
  | type f _ =>
    rw [editor_onField]
    exact h
  | _ => exact h

/-- An event leaves a coherent editor coherent. -/
theorem handle_coherent (e : Event) {c : Console σ} (h : c.desk.editor.IsCoherent) :
    (c.handle e).2.desk.editor.IsCoherent := (handling c e).coherent h

theorem keepsEditor (env : Environment σ) :
    Preserves env (fun _ => True) Desk.editor fun b b' => b'.desk.editor = b.desk.editor where
  refl _ := rfl
  trans h h' := h'.trans h
  ask _ _ := rfl
  onDesk hView b := hView b.desk

/-- Running an action leaves the query as it is. -/
theorem editor_perform (env : Environment σ) (a : Action) (c : Console σ) :
    (c.perform env a).desk.editor = c.desk.editor := by
  have hKeeps := keepsEditor env
  have hWork : (a.work env).Moves fun b b' => b'.desk.editor = b.desk.editor :=
    hKeeps.work
      (fun force => hKeeps.capture force trivial (by simp) (by simp) fun _ _ _ => rfl)
      (by simp) (by simp) (by simp) (by simp) (fun _ _ _ _ _ _ => rfl)
      fun _ => hKeeps.saveToken (by simp) fun _ _ _ _ => rfl
  unfold desk
  rw [perform_bench]
  exact hKeeps.trigger hWork (fun _ _ => rfl) (fun _ _ => rfl) c.bench

/-- **In a session that starts with a coherent editor the editor is coherent all along.** -/
theorem isCoherent_run (env : Environment σ) (moves : List Move) {c : Console σ}
    (h : c.desk.editor.IsCoherent) : (run env moves c).desk.editor.IsCoherent := by
  induction moves generalizing c with
  | nil => exact h
  | cons move rest ih =>
    apply ih
    cases move with
    | input e => exact handle_coherent e h
    | act a =>
      show (c.perform env a).desk.editor.IsCoherent
      rw [editor_perform]
      exact h
    | gate g => exact h

/-! ## 4. Keys and pastes -/

/-- The key that types a character, pressed with nothing held. -/
def typed (c : Char) : Event :=
  .key ⟨if c = '\n' then .enter else .char c, .press, false, false, false⟩

/-- The key that deletes a character, pressed with nothing held. -/
def deleting : Event := .key ⟨.backspace, .press, false, false, false⟩

/-- The actions that events ask for, and the session after all of them. -/
def handleAll (c : Console σ) : List Event → List Action × Console σ
  | [] => ([], c)
  | e :: rest =>
    ((c.handle e).1.toList ++ ((c.handle e).2.handleAll rest).1, ((c.handle e).2.handleAll rest).2)

/-- With the focus on the query the event does one operation there, and nothing else. -/
def Edits (σ : Type) (e : Event) (edit : Edit) : Prop :=
  ∀ c : Console σ, c.focus = .query → c.handle e = (none, c.onEditor (·.step edit))

theorem edits_typed (ch : Char) : Edits σ (typed ch) (.insert [ch]) := by
  intro c hFocus
  unfold typed
  by_cases hNewline : ch = '\n'
  · simp [hNewline, handle, onKey, onShortcut, onFocused, hFocus, onQuery, quiet, Editor.step]
  · simp [hNewline, handle, onKey, onShortcut, onFocused, hFocus, onQuery, quiet, Editor.step]

theorem edits_deleting : Edits σ deleting .backspace := by
  intro c hFocus
  simp [deleting, handle, onKey, onShortcut, onFocused, hFocus, onQuery, quiet, Editor.step]

theorem edits_paste (text : List Char) : Edits σ (.paste text) (.paste ⟨some text, none⟩) := by
  intro c hFocus
  simp [handle, onPaste, hFocus, quiet, Editor.step]

/-- A row of such events does these operations one after the other, and asks for no action. -/
theorem handleAll_map {α : Type} (event : α → Event) (edit : α → Edit)
    (hEdits : ∀ a, Edits σ (event a) (edit a)) {c : Console σ} (hFocus : c.focus = .query)
    (xs : List α) :
    c.handleAll (xs.map event) = ([], c.onEditor (·.run (xs.map edit))) := by
  induction xs generalizing c with
  | nil => rfl
  | cons x rest ih =>
    have hStep := hEdits x c hFocus
    have hRest := ih (c := c.onEditor (·.step (edit x))) hFocus
    rw [List.map_cons, handleAll, hStep, hRest]
    rfl

theorem onEditor_congr {c : Console σ} {f g : Editor → Editor}
    (h : f c.desk.editor = g c.desk.editor) : c.onEditor f = c.onEditor g := by
  have hBench : f c.bench.desk.editor = g c.bench.desk.editor := h
  simp [onEditor, onDesk, hBench]

/-- **Pasting is typing.** An editor in which nothing was done is coherent, and so is one with a text that
was restored (`isCoherent_empty`, `isCoherent_render`). At any moment of a session that starts with such an
editor, with the focus on the query, whatever text is there and wherever the caret is: a paste puts the
whole text in at the caret and leaves the caret behind it. The keys for its characters, one by one, and
pastes of the pieces of any division of it, empty ones included, lead to the same session, and so to the
same tokens and the same place of the caret. As many deletions as there were characters lead back to the
session as it was. None of this asks for an action. -/
theorem pasting_is_typing (env : Environment σ) {start : Console σ}
    (hStart : start.desk.editor.IsCoherent) (moves : List Move)
    (hFocus : (run env moves start).focus = .query) (text : List Char) :
    let c := run env moves start
    let pasted := c.onEditor fun e => (e.paste ⟨some text, none⟩).1
    c.handle (.paste text) = (none, pasted) ∧
    pasted.desk.editor.text =
      c.desk.editor.text.take c.desk.editor.offset ++ text ++
        c.desk.editor.text.drop c.desk.editor.offset ∧
    pasted.desk.editor.offset = c.desk.editor.offset + text.length ∧
    c.handleAll (text.map typed) = ([], pasted) ∧
    (∀ pieces : List (List Char), pieces.flatten = text →
      c.handleAll (pieces.map .paste) = ([], pasted)) ∧
    pasted.handleAll (List.replicate text.length deleting) = ([], c) := by
  intro c pasted
  have hCoherent : c.desk.editor.IsCoherent := isCoherent_run env moves hStart
  have hInside : c.desk.editor.buffer.caret ≤ c.desk.editor.buffer.text.length :=
    c.desk.editor.offset_le
  have hBuffer : (c.desk.editor.paste ⟨some text, none⟩).1.buffer = c.desk.editor.buffer.insert text :=
    c.desk.editor.buffer_paste ⟨some text, none⟩
  have hPasted : pasted.desk.editor.IsCoherent := hCoherent.step (.paste ⟨some text, none⟩)
  -- what puts the whole text in leads to the pasted editor
  have hSame : ∀ edits : List Edit,
      c.desk.editor.buffer.run edits = c.desk.editor.buffer.insert text →
      c.onEditor (·.run edits) = pasted := by
    intro edits hRun
    refine onEditor_congr ((hCoherent.run edits).eq_of_buffer_eq hPasted ?_)
    rw [Editor.buffer_run, hRun]
    exact hBuffer.symm
  refine ⟨edits_paste text c hFocus, congrArg Buffer.text hBuffer, congrArg Buffer.caret hBuffer,
    ?_, ?_, ?_⟩
  · have hRun := Buffer.run_inserting hInside (fun ch => .insert [ch]) (fun ch => [ch])
      (fun _ _ => rfl) text
    rw [List.flatMap_singleton'] at hRun
    rw [handleAll_map _ _ edits_typed hFocus, hSame _ hRun]
  · intro pieces hPieces
    have hRun := Buffer.run_inserting hInside (fun piece => .paste ⟨some piece, none⟩) id
      (fun _ _ => rfl) pieces
    rw [List.flatMap_id, hPieces] at hRun
    rw [handleAll_map _ _ edits_paste hFocus, hSame _ hRun]
  · have hBack : pasted.desk.editor.run (List.replicate text.length .backspace) = c.desk.editor := by
      refine (hPasted.run _).eq_of_buffer_eq hCoherent ?_
      rw [Editor.buffer_run]
      exact (congrArg (Buffer.run · _) hBuffer).trans (Buffer.run_backspaces hInside text)
    have hAll := handleAll_map (fun _ : Unit => deleting) (fun _ => .backspace)
      (fun _ => edits_deleting) (c := pasted) hFocus (List.replicate text.length ())
    rw [List.map_replicate, List.map_replicate] at hAll
    rw [hAll]
    exact congrArg (Prod.mk []) (onEditor_congr (f := (·.run _)) (g := fun _ => c.desk.editor) hBack)

/-- The focus comes round to the query, a text is pasted there, and the caret goes back by one. -/
def composingMoves : List Move :=
  [press .tab, press .tab, press .tab, .input (.paste "SELECT  x".toList), press .left, press .left]

/-- A quote is put in that nothing closes, so that all behind it becomes part of a string. -/
theorem pasting_is_typing_in_a_string :
    let c := run Script.environment composingMoves (.new withSavedToken)
    let text := ['\'', 'é', '\n']
    let pasted := c.onEditor fun e => (e.paste ⟨some text, none⟩).1
    c.desk.editor.IsCoherent ∧ c.focus = .query ∧
    pasted.desk.editor.text = "SELECT 'é\n x".toList ∧
    c.handleAll (text.map typed) = ([], pasted) ∧
    c.handleAll [.paste ['\'', 'é'], .paste [], .paste ['\n']] = ([], pasted) ∧
    pasted.handleAll [deleting, deleting, deleting] = ([], c) := by
  intro c text pasted
  have hStart : (Console.new withSavedToken).desk.editor.IsCoherent := Editor.isCoherent_empty
  have hFocus : c.focus = .query := rfl
  have hBefore : c.desk.editor.text = "SELECT  x".toList := by decide +kernel
  have hOffset : c.desk.editor.offset = 7 := by decide +kernel
  obtain ⟨-, hText, -, hTyped, hPieces, hBack⟩ :=
    pasting_is_typing Script.environment hStart composingMoves hFocus text
  refine ⟨isCoherent_run _ _ hStart, hFocus, ?_, hTyped,
    hPieces [['\'', 'é'], [], ['\n']] rfl, hBack⟩
  refine hText.trans ?_
  show c.desk.editor.text.take c.desk.editor.offset ++ text ++
    c.desk.editor.text.drop c.desk.editor.offset = _
  rw [hBefore, hOffset]
  rfl

end Console

end PageQuery
