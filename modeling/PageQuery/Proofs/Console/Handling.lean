import PageQuery.Console.Input
import PageQuery.Proofs.Query.Edits
/-!
What an event comes to.

An event passes the shortcuts, then goes by the focus, then by the keys of one part of the screen.
`Handling` says once what can come of it, with the focus it needs, and `handling` follows the layers.
Whatever is to be known of every event is then read off the cases, as `input_stays_in_focus` is: that an
event reaches no further than the part of the screen that has the focus.
-/

namespace PageQuery.Console

open Text Query Screen

variable {σ : Type}

/-! ## 1. What can come of an event -/

/-- How a key edits the field that it goes to, if it does. -/
def KeyEvent.edit? (e : KeyEvent) : Option (String → String) :=
  match e.key with
  | .char ch => if e.ctrl then none else some (·.push ch)
  | .backspace => some withoutLast
  | _ => none

/-- How an event edits the field that it goes to, if it does. -/
def Event.edit? : Event → Option (String → String)
  | .key e => if e.motion = .release then none else e.edit?
  | .paste text => some (· ++ String.ofList (trimChars text))
  | .resize => none

theorem Event.edit?_key {e : KeyEvent} (h : e.motion ≠ .release) : Event.edit? (.key e) = e.edit? :=
  if_neg h

/-- The event is a character with the control key held. -/
def Event.IsControlled : Event → Prop
  | .key e => e.ctrl = true ∧ ∃ ch, e.key = .char ch
  | .paste _ | .resize => False

theorem Event.IsControlled.edit?_eq {e : Event} (h : e.IsControlled) : e.edit? = none := by
  cases e with
  | key e =>
    obtain ⟨hCtrl, ch, hKey⟩ := h
    simp [Event.edit?, KeyEvent.edit?, hKey, hCtrl]
  | paste text => exact h.elim
  | resize => rfl

/-- What an event comes to. Text goes into the query or a field only where the focus is there, and a row
is chosen only where it is on the results. -/
inductive Handling (c : Console σ) (e : Event) : Response σ → Prop
  | idle : Handling c e (none, c)
  | ask (a : Action) : Handling c e (some a, c)
  | leave : Handling c e (none, { c with isDone := true })
  | moveFocus (f : Focus) : Handling c e (none, { c with focus := f })
  | openToken : Handling c e (none, { c.onDesk Desk.editToken with focus := .token })
  | edit (hFocus : c.focus = .query) (hPlain : ¬ e.IsControlled) (edit : Edit) :
    Handling c e (none, c.onEditor (·.step edit))
  | type (f : String → String) (hEdit : e.edit? = some f) : Handling c e (none, onField f c)
  | choose (hFocus : c.focus = .results) (row : Nat) :
    Handling c e (none, { c with selection := c.selection.choose row })

/-! ## 2. The layers -/

section Layers

variable {c : Console σ} {e : KeyEvent}

theorem handling_onQuery (hFocus : c.focus = .query) :
    Handling c (.key e) (quiet (onQuery e c)) := by
  obtain ⟨key, motion, ctrl, alt, shift⟩ := e
  -- a key that edits is no character with the control key held, so only `char` looks at that key
  have hEdit : ∀ edit, (∀ ch, key ≠ .char ch) →
      Handling c (.key ⟨key, motion, ctrl, alt, shift⟩) (quiet (c.onEditor (·.step edit))) := by
    intro edit hKey
    refine .edit hFocus ?_ edit
    rintro ⟨-, ch, hChar⟩
    exact hKey ch hChar
  cases key with
  | char ch =>
    cases ctrl with
    | true => exact .idle
    | false =>
      refine .edit hFocus ?_ (.insert [ch])
      rintro ⟨hCtrl, -⟩
      cases hCtrl
  | tab => exact hEdit .insertTab (by simp)
  | enter => exact hEdit (.insert ['\n']) (by simp)
  | backspace => exact hEdit .backspace (by simp)
  | delete => exact hEdit .deleteForward (by simp)
  | left => exact hEdit .moveLeft (by simp)
  | right => exact hEdit .moveRight (by simp)
  | up => exact hEdit (.moveVertical (-1)) (by simp)
  | down => exact hEdit (.moveVertical 1) (by simp)
  | home => exact hEdit .moveLineStart (by simp)
  | toEnd => exact hEdit .moveLineEnd (by simp)
  | esc => exact .moveFocus .results
  | function | backTab | pageUp | pageDown | insert | null => exact .idle

theorem handling_onResults (hFocus : c.focus = .results) :
    Handling c (.key e) (quiet (onResults e c)) := by
  have hOn : ∀ target, Handling c (.key e) (quiet (c.moveRow target)) := by
    intro target
    unfold moveRow
    split
    · exact .idle
    · exact .choose hFocus _
  have hBack : ∀ rows, Handling c (.key e) (quiet (c.moveRowBack rows)) := by
    intro rows
    unfold moveRowBack
    split
    · exact .idle
    · exact .choose hFocus _
  unfold onResults
  split
  · exact hOn _
  · exact hOn _
  · exact hBack _
  · exact hBack _
  · exact hOn _
  · exact hBack _
  · exact .moveFocus .query
  · exact .moveFocus .query
  · exact .moveFocus .query
  · exact .idle

theorem handling_onFieldKey (hMotion : e.motion ≠ .release) :
    Handling c (.key e) (onFieldKey e c) := by
  obtain ⟨key, motion, ctrl, alt, shift⟩ := e
  cases key with
  | char ch =>
    cases ctrl with
    | true => exact .idle
    | false => exact .type _ (Event.edit?_key hMotion)
  | backspace => exact .type _ (Event.edit?_key hMotion)
  | enter =>
    unfold onFieldKey
    dsimp only
    split
    · exact .ask .saveToken
    · exact .moveFocus _
  | tab | esc => exact .moveFocus _
  | _ => exact .idle

theorem handling_onControl {ch : Char} {r : Response σ} (h : onControl ch c = some r) (e : Event) :
    Handling c e r := by
  unfold onControl at h
  split at h <;> cases h
  · exact .leave
  · exact .leave
  · exact .ask .runQuery
  · exact .ask .capture
  · exact .ask .saveToken
  · exact .openToken

theorem handling_onShortcut {r : Response σ} (h : onShortcut e c = some r) :
    Handling c (.key e) r := by
  obtain ⟨key, motion, ctrl, alt, shift⟩ := e
  cases key with
  | char ch =>
    cases ctrl with
    | true => exact handling_onControl h _
    | false => cases h
  | function n =>
    match n with
    | 5 =>
      cases h
      exact .ask .runQuery
    | 6 =>
      cases h
      exact .ask .copyCsv
    | 7 =>
      cases h
      exact .ask .copyJson
    | 0 | 1 | 2 | 3 | 4 | _ + 8 => cases h
  | backTab =>
    cases h
    exact .moveFocus _
  | _ => cases h

theorem handling_onFocused (hMotion : e.motion ≠ .release) :
    Handling c (.key e) (onFocused e c) := by
  unfold onFocused
  split
  · next hFocus => exact handling_onQuery hFocus
  · next hFocus => exact handling_onResults hFocus
  all_goals exact handling_onFieldKey hMotion

end Layers

/-- **Every event is handled in one of these ways.** -/
theorem handling (c : Console σ) (e : Event) : Handling c e (c.handle e) := by
  cases e with
  | key e =>
    rw [handle]
    split
    · exact .idle
    · next hMotion =>
      rw [onKey]
      cases hShortcut : onShortcut e c with
      | some r => exact handling_onShortcut hShortcut
      | none => exact handling_onFocused hMotion
  | paste text =>
    show Handling c _ (quiet (onPaste text c))
    unfold onPaste
    split
    · next hFocus => exact .edit hFocus id (.paste ⟨some text, none⟩)
    · exact .type _ rfl
  | resize => exact .idle

/-! ## 3. How far an event reaches -/

/-- What can be typed or chosen at a part of the screen is the same. -/
def SameAt (c c' : Console σ) : Focus → Prop
  | .query => c'.desk.editor = c.desk.editor
  | .token => c'.desk.token = c.desk.token
  | .maxRows => c'.desk.maxRowsInput = c.desk.maxRowsInput
  | .timeout => c'.desk.timeoutInput = c.desk.timeoutInput
  | .results => c'.selection = c.selection

theorem SameAt.refl (c : Console σ) (f : Focus) : c.SameAt c f := by
  cases f <;> rfl

/-- What actions have left is the same: the status, the snapshot, the result, and the whole outside with
what was said to it. -/
structure KeepsOutcome (c c' : Console σ) : Prop where
  status_eq : c'.desk.status = c.desk.status
  snapshot_eq : c'.desk.snapshot = c.desk.snapshot
  result_eq : c'.desk.result = c.desk.result
  outside_eq : c'.bench.outside = c.bench.outside
  trace_eq : c'.bench.trace = c.bench.trace

theorem KeepsOutcome.trans {c₁ c₂ c₃ : Console σ} (h : c₁.KeepsOutcome c₂)
    (h' : c₂.KeepsOutcome c₃) : c₁.KeepsOutcome c₃ where
  status_eq := h'.status_eq.trans h.status_eq
  snapshot_eq := h'.snapshot_eq.trans h.snapshot_eq
  result_eq := h'.result_eq.trans h.result_eq
  outside_eq := h'.outside_eq.trans h.outside_eq
  trace_eq := h'.trace_eq.trans h.trace_eq

/-- A field that is edited is the one that has the focus. -/
theorem sameAt_onField (f : String → String) {c : Console σ} {place : Focus}
    (h : place ≠ c.focus) : c.SameAt (onField f c) place := by
  unfold onField
  cases hFocus : c.focus <;> cases place <;> first | rfl | exact absurd hFocus.symm h

theorem keepsOutcome_onField (f : String → String) (c : Console σ) :
    c.KeepsOutcome (onField f c) := by
  unfold onField
  cases c.focus <;> exact ⟨rfl, rfl, rfl, rfl, rfl⟩

namespace Handling

variable {c : Console σ} {e : Event} {r : Response σ} (h : Handling c e r)

include h

theorem keepsOutcome : c.KeepsOutcome r.2 := by
  cases h with
  | type f hEdit => exact keepsOutcome_onField f c
  | _ => exact ⟨rfl, rfl, rfl, rfl, rfl⟩

theorem sameAt {place : Focus} (hOther : place ≠ c.focus) : c.SameAt r.2 place := by
  cases h with
  | type f hEdit => exact sameAt_onField f hOther
  | edit hFocus _ edit =>
    cases place with
    | query => exact absurd hFocus.symm hOther
    | _ => rfl
  | choose hFocus row =>
    cases place with
    | results => exact absurd hFocus.symm hOther
    | _ => rfl
  | _ => cases place <;> rfl

/-- A character that is typed with the control key held does not get into any text. -/
theorem sameAt_of_isControlled (hControlled : e.IsControlled) {place : Focus}
    (hText : place ≠ .results) : c.SameAt r.2 place := by
  cases h with
  | edit _ hPlain _ => exact absurd hControlled hPlain
  | type f hEdit => cases hEdit.symm.trans hControlled.edit?_eq
  | choose hFocus row =>
    cases place with
    | results => exact absurd rfl hText
    | _ => rfl
  | _ => cases place <;> rfl

theorem eq_of_ask {a : Action} (hAsk : r.1 = some a) : r = (some a, c) := by
  cases h with
  | ask b => cases hAsk; rfl
  | _ => cases hAsk

end Handling

/-- What one event keeps, a row of events keeps. -/
theorem keepsOutcome_foldl (events : List Event) (c : Console σ) :
    c.KeepsOutcome (events.foldl (fun c e => (c.handle e).2) c) := by
  induction events generalizing c with
  | nil => exact ⟨rfl, rfl, rfl, rfl, rfl⟩
  | cons e rest ih => exact (handling c e).keepsOutcome.trans (ih (c.handle e).2)

/-- **An event reaches no further than the part of the screen that has the focus.** Whatever the session
and the event, what actions have left stays as it is, and of the query, the fields and the chosen row
only that can change which had the focus when the event came in. A key that is let go changes nothing at
all, and neither does an event that asks for an action. A character that is typed with the control key
held gets into no text. So over any row of events what actions have left stays as it is. -/
theorem input_stays_in_focus (c : Console σ) (e : Event) :
    let c' := (c.handle e).2
    c.KeepsOutcome c' ∧
    (∀ place, place ≠ c.focus → c.SameAt c' place) ∧
    (∀ k, e = .key k → k.motion = .release → c.handle e = (none, c)) ∧
    (e.IsControlled → ∀ place, place ≠ .results → c.SameAt c' place) ∧
    (∀ a, (c.handle e).1 = some a → c' = c) ∧
    ∀ rest : List Event, c.KeepsOutcome (rest.foldl (fun c e => (c.handle e).2) c') := by
  intro c'
  have hHandling : Handling c e (c.handle e) := handling c e
  refine ⟨hHandling.keepsOutcome, fun place => hHandling.sameAt, ?_,
    fun hControlled place => hHandling.sameAt_of_isControlled hControlled, ?_, fun rest => ?_⟩
  · rintro k rfl hMotion
    exact if_pos hMotion
  · intro a hAsk
    rw [show c' = (c.handle e).2 from rfl, hHandling.eq_of_ask hAsk]
  · exact hHandling.keepsOutcome.trans (keepsOutcome_foldl rest c')

end PageQuery.Console
