import PageQuery.Console.State
import PageQuery.Console.View
import PageQuery.Proofs.Console.Handling
import PageQuery.Proofs.Workbench.FallibleSettings
/-!
What the token's field shows.

While its editor is closed the field shows the token as saved, and the focus can be on it all the same.
Keys and pasted text then edit the token without opening the editor, so what the field shows as saved is
the saved token with these edits: `closedEdits` tells them from the moves of a session, and `shown_token`
is the statement.
-/

namespace PageQuery

theorem TokenEditor.isVisible_forToken (token : String) :
    (TokenEditor.forToken token true).isVisible = true := by
  rw [forToken]
  split <;> rfl

namespace Console

open Text Screen

variable {σ : Type}

/-! ## 1. Moves -/

/-- What can happen to a session: input comes in, an action is run, and others hold the gate. -/
inductive Move where
  | input (e : Event)
  | act (a : Action)
  | gate (g : Gate)

def Move.apply (env : Environment σ) : Move → Console σ → Console σ
  | .input e, c => (c.handle e).2
  | .act a, c => c.perform env a
  | .gate g, c => c.onDesk fun d => { d with gate := g }

/-- The session after some moves. -/
def run (env : Environment σ) : List Move → Console σ → Console σ
  | [], c => c
  | m :: rest, c => run env rest (m.apply env c)

/-- How an event edits the token, if it does. -/
def tokenEdit? (c : Console σ) (e : Event) : Option (String → String) :=
  if c.focus = .token then
    match e with
    | .key e => if e.motion = .release then none else e.edit?
    | .paste text => some (· ++ String.ofList (trimChars text))
    | .resize => none
  else none

/-- The edits of the token since it was last saved that were made while its editor was closed, from those
before a move. -/
def Move.closedEdits (env : Environment σ) :
    Move → Console σ → List (String → String) → List (String → String)
  | .input e, c, edits =>
    if c.desk.tokenEditor.isVisible then edits else edits ++ (c.tokenEdit? e).toList
  | .act a, c, edits =>
    if a = .saveToken ∧ (trigger env a c.bench).1.isOk then [] else edits
  | .gate _, _, edits => edits

/-- These edits after some moves. -/
def closedEdits (env : Environment σ) :
    List Move → Console σ → List (String → String) → List (String → String)
  | [], _, edits => edits
  | m :: rest, c, edits => closedEdits env rest (m.apply env c) (m.closedEdits env c edits)

/-- A token after edits. -/
def edited (token : String) (edits : List (String → String)) : String :=
  edits.foldl (fun t edit => edit t) token

/-! ## 2. Input and the token -/

/-- The token and the outside are as they were, and the token's editor is or has been opened. -/
structure SparesToken (c c' : Console σ) : Prop where
  token_eq : c'.desk.token = c.desk.token
  outside_eq : c'.bench.outside = c.bench.outside
  tokenEditor : c'.desk.tokenEditor = c.desk.tokenEditor ∨ c'.desk.tokenEditor.isVisible = true

theorem SparesToken.refl (c : Console σ) : c.SparesToken c := ⟨rfl, rfl, Or.inl rfl⟩

theorem tokenEdit?_of_focus {c : Console σ} (h : c.focus = .token) (e : Event) :
    c.tokenEdit? e = e.edit? := by
  rw [tokenEdit?.eq_def, if_pos h]
  cases e <;> rfl

theorem onField_token {c : Console σ} (h : c.focus = .token) (f : String → String) :
    onField f c = c.onDesk fun d => { d with token := f d.token } := by
  rw [onField, h]

theorem onField_spares {c : Console σ} (h : c.focus ≠ .token) (f : String → String) :
    c.SparesToken (onField f c) := by
  rw [onField]
  cases hFocus : c.focus with
  | token => exact absurd hFocus h
  | maxRows | timeout => exact ⟨rfl, rfl, Or.inl rfl⟩
  | query | results => exact .refl c

theorem onFieldKey_of_edit {e : KeyEvent} {f : String → String} (h : e.edit? = some f)
    (c : Console σ) : onFieldKey e c = quiet (onField f c) := by
  obtain ⟨key, motion, ctrl, alt, shift⟩ := e
  cases key with
  | char ch =>
    cases ctrl with
    | true => cases h
    | false =>
      cases h
      rfl
  | backspace =>
    cases h
    rfl
  | _ => cases h

theorem onShortcut_of_edit {e : KeyEvent} {f : String → String} (h : e.edit? = some f)
    (c : Console σ) : onShortcut e c = none := by
  obtain ⟨key, motion, ctrl, alt, shift⟩ := e
  cases key with
  | char ch =>
    cases ctrl with
    | true => cases h
    | false => rfl
  | backspace => rfl
  | _ => cases h

/-- An event that edits the token does nothing else. -/
theorem handle_of_edit {c : Console σ} {e : Event} {f : String → String}
    (h : c.tokenEdit? e = some f) :
    c.handle e = (none, c.onDesk fun d => { d with token := f d.token }) := by
  rw [tokenEdit?.eq_def] at h
  split at h
  case isFalse => cases h
  case isTrue hToken =>
    cases e with
    | key e =>
      simp only at h
      split at h
      · cases h
      · next hMotion =>
        have hFocused : onFocused e c = quiet (onField f c) := by
          rw [onFocused, hToken]
          exact onFieldKey_of_edit h c
        rw [handle, if_neg hMotion, onKey, onShortcut_of_edit h, Option.getD_none, hFocused,
          onField_token hToken, quiet]
    | paste text =>
      cases h
      rw [handle, onPaste, hToken]
      exact congrArg quiet (onField_token hToken _)
    | resize => cases h

theorem Handling.sparesToken {c : Console σ} {e : Event} {r : Response σ} (h : Handling c e r)
    (hNone : c.tokenEdit? e = none) : c.SparesToken r.2 := by
  cases h with
  | type f hEdit =>
    refine onField_spares (fun hToken => ?_) f
    rw [tokenEdit?_of_focus hToken, hEdit] at hNone
    cases hNone
  | openToken => exact ⟨rfl, rfl, Or.inr (TokenEditor.isVisible_forToken _)⟩
  | _ => exact ⟨rfl, rfl, Or.inl rfl⟩

/-- An event that does not edit the token spares it. -/
theorem handle_spares {c : Console σ} {e : Event} (h : c.tokenEdit? e = none) :
    c.SparesToken (c.handle e).2 := (handling c e).sparesToken h

/-! ## 3. Sessions -/

theorem isAllBlank_of_hidden {token : String}
    (h : (TokenEditor.forToken token false).isVisible = false) : isAllBlank token = false := by
  cases hBlank : isAllBlank token with
  | false => rfl
  | true =>
    rw [TokenEditor.forToken, if_pos hBlank] at h
    cases h

/-- While its editor is closed, the token is the saved one, or if there is none the one from before,
with these edits. What was edited was not blank. -/
def HoldsSaved (stored : σ → String → Option String) (before : String) (b : Bench σ)
    (edits : List (String → String)) : Prop :=
  b.desk.tokenEditor.isVisible = false →
    isAllBlank ((filled (stored b.outside tokenKey)).getD before) = false ∧
      b.desk.token = edited ((filled (stored b.outside tokenKey)).getD before) edits

section Sessions

variable {env : Environment σ} {stored : σ → String → Option String} {before : String}

theorem HoldsSaved.of_stored {token : String} {b : Bench σ}
    (hStored : stored b.outside tokenKey = some token) (hToken : b.desk.token = token)
    (hEditor : b.desk.tokenEditor = .forToken token false) : HoldsSaved stored before b [] := by
  intro hHidden
  rw [hEditor] at hHidden
  have hNotBlank := isAllBlank_of_hidden hHidden
  have hFilled : filled (some token) = some token := by
    refine Option.filter_eq_some_iff.mpr ⟨rfl, decide_eq_true ?_⟩
    rintro rfl
    cases hNotBlank
  rw [hStored, hFilled]
  exact ⟨hNotBlank, hToken⟩

theorem holdsSaved_restore (hStores : StoresSettings env stored) {b : Bench σ}
    (hRestored : (restore env b).1 = .ok ()) :
    HoldsSaved stored b.desk.token (restore env b).2 [] := by
  obtain ⟨hToken, hEditor, hStored⟩ := restore_token hStores hRestored
  rw [hToken] at hEditor
  cases hFound : foundSetting (stored b.outside) tokenKey earlierTokenKey with
  | some token =>
    rw [hFound] at hToken hEditor hStored
    exact .of_stored hStored hToken hEditor
  | none =>
    rw [hFound] at hToken hEditor hStored
    have hNone : filled (stored b.outside tokenKey) = none := (Option.or_eq_none_iff.mp hFound).1
    intro hHidden
    rw [hEditor] at hHidden
    rw [hStored, Option.none_or, hNone]
    exact ⟨isAllBlank_of_hidden hHidden, hToken⟩

/-- What leaves the token and what is saved of it, and does not close its editor, leaves it as saved as
it was. -/
theorem HoldsSaved.of_same {b b' : Bench σ} {edits : List (String → String)}
    (h : HoldsSaved stored before b edits) (hToken : b'.desk.token = b.desk.token)
    (hStored : stored b'.outside tokenKey = stored b.outside tokenKey)
    (hEditor : b'.desk.tokenEditor = b.desk.tokenEditor ∨ b'.desk.tokenEditor.isVisible = true) :
    HoldsSaved stored before b' edits := by
  intro hHidden
  rcases hEditor with hSame | hOpen
  · rw [hSame] at hHidden
    rw [hStored, hToken]
    exact h hHidden
  · cases hHidden.symm.trans hOpen

theorem afterAction_bench (a : Action) (c : Console σ) : (afterAction a c).bench = c.bench := by
  cases a with
  | saveToken =>
    rw [afterAction.eq_def]
    simp only
    split <;> rfl
  | _ => rfl

/-- An action that is run leaves on the bench what triggering it does. -/
theorem perform_bench (a : Action) (c : Console σ) :
    (c.perform env a).bench = (trigger env a c.bench).2 := afterAction_bench a _

/-- **What a move leaves of the token.** -/
theorem holdsSaved_apply (hStores : StoresSettings env stored) (m : Move) {c : Console σ}
    {edits : List (String → String)} (h : HoldsSaved stored before c.bench edits) :
    HoldsSaved stored before (m.apply env c).bench (m.closedEdits env c edits) := by
  cases m with
  | gate g => exact h
  | act a =>
    rw [Move.apply, perform_bench, Move.closedEdits]
    rcases trigger_token hStores a c.bench with ⟨rfl, hOk, hStored, hEditor⟩ |
      ⟨hNotSaved, hToken, hStored, hEditor⟩
    · rw [hOk, if_pos ⟨rfl, rfl⟩]
      exact .of_stored hStored rfl hEditor
    · rw [if_neg]
      · exact h.of_same hToken hStored hEditor
      · rintro ⟨rfl, hIsOk⟩
        cases hOutcome : (trigger env .saveToken c.bench).1 with
        | ok _ => exact hNotSaved ⟨rfl, hOutcome⟩
        | error e =>
          rw [hOutcome] at hIsOk
          cases hIsOk
  | input e =>
    rw [Move.apply, Move.closedEdits]
    cases hEdit : c.tokenEdit? e with
    | some f =>
      rw [handle_of_edit hEdit]
      intro hHidden
      have hClosed : c.desk.tokenEditor.isVisible = false := hHidden
      obtain ⟨hNotBlank, hToken⟩ := h hClosed
      refine ⟨hNotBlank, ?_⟩
      rw [if_neg (by simp [hClosed]), edited, Option.toList_some, List.foldl_append]
      exact congrArg f hToken
    | none =>
      have hSpares := handle_spares hEdit
      rw [Option.toList_none, List.append_nil, ite_self]
      exact h.of_same hSpares.token_eq (by rw [hSpares.outside_eq]) hSpares.tokenEditor

theorem holdsSaved_run (hStores : StoresSettings env stored) :
    ∀ (moves : List Move) {c : Console σ} {edits : List (String → String)},
      HoldsSaved stored before c.bench edits →
      HoldsSaved stored before (run env moves c).bench (closedEdits env moves c edits)
  | [], _, _, h => h
  | m :: rest, _, _, h => holdsSaved_run hStores rest (holdsSaved_apply hStores m h)

end Sessions

/-- **What the token's field shows as saved.** Let a session begin after a restore that succeeded, on
settings of which any read and any write may fail, let events come in and actions be run in any order, and
let the token's editor be closed then. The field shows the token as saved, and the token is the saved one
with the edits that were made since the editor was closed. If nothing but blanks was on the desk before the
restore, there is such a token, and without edits it is the token on the desk. What edits the token, at
any time, changes nothing else: it leaves the editor closed and saves nothing. -/
theorem shown_token {env : Environment σ} {stored : σ → String → Option String}
    (hStores : StoresSettings env stored) {b : Bench σ} (hRestored : (restore env b).1 = .ok ())
    (moves : List Move) :
    let start : Console σ := .new (restore env b).2
    let c := run env moves start
    let edits := closedEdits env moves start []
    let saved := stored c.bench.outside tokenKey
    (c.desk.tokenEditor.isVisible = false →
      tokenPiece c.desk = plainPiece ("saved " ++ masked c.desk.token) ∧
      c.desk.token = edited ((filled saved).getD b.desk.token) edits ∧
      (isAllBlank b.desk.token = true → ∃ token, saved = some token ∧ isAllBlank token = false ∧
        (edits = [] → c.desk.token = token))) ∧
    (∀ e f, c.tokenEdit? e = some f →
      c.handle e = (none, c.onDesk fun d => { d with token := f d.token })) ∧
    ∀ e, c.tokenEdit? e = none → (c.handle e).2.desk.token = c.desk.token := by
  intro start c edits saved
  refine ⟨fun hHidden => ?_, fun e f hEdit => handle_of_edit hEdit,
    fun e hNone => (handle_spares hNone).token_eq⟩
  obtain ⟨hNotBlank, hToken⟩ :=
    holdsSaved_run hStores moves (holdsSaved_restore hStores hRestored) hHidden
  refine ⟨?_, hToken, fun hBlank => ?_⟩
  · rw [tokenPiece, if_neg (by simp [hHidden])]
  · cases hSaved : filled saved with
    | none =>
      rw [show filled (stored (run env moves _).bench.outside tokenKey) = none from hSaved]
        at hNotBlank
      exact absurd (hBlank.symm.trans hNotBlank) (by simp)
    | some token =>
      rw [show filled (stored (run env moves _).bench.outside tokenKey) = some token from hSaved]
        at hNotBlank hToken
      refine ⟨token, (Option.filter_eq_some_iff.mp hSaved).1, hNotBlank, fun hNoEdits => ?_⟩
      rw [show closedEdits env moves _ [] = [] from hNoEdits] at hToken
      exact hToken

/-- A workbench with a saved token. -/
def withSavedToken : Bench Script := .new .standard (.ofSettings [(tokenKey, "a")])

def press (key : Key) : Move := .input (.key ⟨key, .press, false, false, false⟩)

/-- The focus moves on to the token, and its only letter is taken away. -/
def clearingMoves : List Move := [press .backTab, press .backTab, press .backspace]

/-- There is no token any more, and the field shows it as saved all the same. -/
theorem shown_token_of_cleared :
    let c := run Script.environment clearingMoves (.new (restore Script.environment withSavedToken).2)
    (restore Script.environment withSavedToken).1 = .ok () ∧
    c.desk.tokenEditor.isVisible = false ∧ c.desk.token = "" ∧
    tokenPiece c.desk = plainPiece "saved " ∧ c.bench.outside.settings.get? tokenKey = some "a" := by
  intro c
  have hRestored : (restore Script.environment withSavedToken).1 = .ok () := rfl
  have hHidden : c.desk.tokenEditor.isVisible = false := rfl
  have hSaved : c.bench.outside.settings.get? tokenKey = some "a" := rfl
  obtain ⟨hField, hToken, -⟩ :=
    (shown_token Script.storesSettings hRestored clearingMoves).1 hHidden
  have hEmpty : c.desk.token = "" := hToken.trans (by decide +kernel)
  have hText : "saved " ++ masked "" = "saved " := by decide
  have hShown : tokenPiece c.desk = plainPiece ("saved " ++ masked c.desk.token) := hField
  rw [hEmpty, hText] at hShown
  exact ⟨hRestored, hHidden, hEmpty, hShown, hSaved⟩

end Console

end PageQuery
