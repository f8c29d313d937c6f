import PageQuery.Proofs.Workbench.Token
/-!
Runs of a workbench.

An `Operation` is anything that can be done to a workbench from without: its actions, triggered or
called outright, changes of what is typed in, the gate taken or given back by others, and a new
workbench over the same outside. `Bench.run` is a run of them.
-/

namespace PageQuery

open Text

variable {σ γ : Type}

/-! ## 1. Operations -/

inductive Operation where
  | trigger (a : Action)
  | restore
  | capture (force : Bool)
  | runQuery
  | saveToken
  | copyExport (format : ExportFormat)
  | exportToFile (format : ExportFormat) (path : String)
  | editToken
  | typeToken (text : String)
  /-- Whatever is done in the editor. -/
  | typeQuery (editor : Query.Editor)
  | typeMaxRows (text : String)
  | typeTimeout (text : String)
  | setGate (g : Gate)
  /-- Start anew over the same outside. -/
  | reopen (options : WorkbenchOptions)

namespace Operation

def perform (env : Environment σ) : Operation → Task σ Unit
  | trigger a => PageQuery.trigger env a
  | restore => PageQuery.restore env
  | capture force => do let _ ← PageQuery.capture env force
  | runQuery => PageQuery.runQuery env
  | saveToken => PageQuery.saveToken env
  | copyExport format => do let _ ← PageQuery.copyExport env format
  | exportToFile format path => do let _ ← PageQuery.exportToFile env format path
  | editToken => onDesk Desk.editToken
  | typeToken text => onDesk fun d => { d with token := text }
  | typeQuery editor => onDesk fun d => { d with editor := editor }
  | typeMaxRows text => onDesk fun d => { d with maxRowsInput := text }
  | typeTimeout text => onDesk fun d => { d with timeoutInput := text }
  | setGate g => PageQuery.setGate g
  | reopen options => onDesk fun _ => .new options

/-- The change of the desk that an operation is, if it is nothing else. -/
def onDesk? : Operation → Option (Desk → Desk)
  | editToken => some Desk.editToken
  | typeToken text => some fun d => { d with token := text }
  | typeQuery editor => some fun d => { d with editor := editor }
  | typeMaxRows text => some fun d => { d with maxRowsInput := text }
  | typeTimeout text => some fun d => { d with timeoutInput := text }
  | setGate g => some fun d => { d with gate := g }
  | reopen options => some fun _ => .new options
  | trigger _ | restore | capture _ | runQuery | saveToken | copyExport _ | exportToFile _ _ => none

/-- The operation saves the token; a trigger that the gate refuses does not. -/
def SavesToken (b : Bench σ) : Operation → Prop
  | saveToken => True
  | trigger .saveToken => b.desk.gate.isHeld = false
  | _ => False

theorem SavesToken.eq {op : Operation} {b : Bench σ} (h : op.SavesToken b) :
    op = .saveToken ∨ (op = .trigger .saveToken ∧ b.desk.gate.isHeld = false) := by
  cases op with
  | saveToken => exact Or.inl rfl
  | trigger a =>
    cases a with
    | saveToken => exact Or.inr ⟨rfl, h⟩
    | capture | runQuery | copyCsv | copyJson => exact absurd h id
  | restore | capture | runQuery | copyExport | exportToFile | editToken | typeToken | typeQuery
  | typeMaxRows | typeTimeout | setGate | reopen => exact absurd h id

/-- The operation changes what stands in the token field, by hand. -/
def TypesToken : Operation → Prop
  | typeToken _ => True
  | _ => False

/-- The token after an operation that neither saves nor restores it. -/
def tokenAfter (token : String) : Operation → String
  | typeToken text => text
  | reopen _ => ""
  | _ => token

end Operation

/-- The bench after operations, whether they succeed or not. -/
def Bench.run (env : Environment σ) : List Operation → Bench σ → Bench σ
  | [], b => b
  | op :: rest, b => Bench.run env rest (op.perform env b).2

/-- No operation of a run saves the token. -/
def Bench.NoTokenSave (env : Environment σ) : List Operation → Bench σ → Prop
  | [], _ => True
  | op :: rest, b => ¬ op.SavesToken b ∧ Bench.NoTokenSave env rest (op.perform env b).2

/-! ## 2. One operation -/

/-- What captures, the work of actions and a restore preserve, every operation preserves, if the change of
the desk that it may be does. -/
theorem Preserves.perform {env : Environment σ} {may : Call → Prop} {view : Desk → γ}
    {R : Bench σ → Bench σ → Prop} (h : Preserves env may view R)
    (hCapture : ∀ force, (PageQuery.capture env force).Moves R)
    (hWork : ∀ a : Action, (a.work env).Moves R) (hRestore : (PageQuery.restore env).Moves R)
    (hFile : ∀ path text, may (.writeFile path text)) (hCopy : ∀ text, may (.copy text))
    (hView : ∀ d gate status, view { d with gate := gate, status := status } = view d)
    {op : Operation} (hDesk : ∀ f, op.onDesk? = some f → (PageQuery.onDesk f).Moves R) :
    (op.perform env).Moves R := by
  have hGate : ∀ d gate, view { d with gate := gate } = view d := fun d gate => hView d gate d.status
  have hStatus : ∀ d status, view { d with status := status } = view d := fun d => hView d d.gate
  cases op with
  | trigger a => exact h.trigger (hWork a) hGate hStatus
  | restore => exact hRestore
  | capture force => exact h.bind (hCapture force) fun _ => h.pure _
  | runQuery => exact hWork .runQuery
  | saveToken => exact hWork .saveToken
  | copyExport format =>
    exact h.bind (h.copyExport hFile hCopy hStatus format) fun _ => h.pure _
  | exportToFile format path =>
    exact h.bind (h.exportToFile hFile hCopy hStatus format path) fun _ => h.pure _
  | editToken | typeToken | typeQuery | typeMaxRows | typeTimeout | setGate | reopen =>
    exact hDesk _ rfl

section Step

variable {env : Environment σ} {stored : σ → String → Option String} {failed : σ → Prop}
variable (hKeeps : KeepsSettings env stored failed)

include hKeeps

/-- What neither saves nor restores the token changes no setting but the query. -/
theorem perform_other {op : Operation} {b : Bench σ} (hSave : ¬ op.SavesToken b)
    (hRestore : op ≠ .restore) :
    Retains stored failed (· ≠ queryKey) (fun _ => ()) b (op.perform env b).2 ∧
      (op.perform env b).2.desk.token = op.tokenAfter b.desk.token := by
  have hSame : ∀ {b' : Bench σ}, Retains stored failed (· ≠ queryKey) Desk.token b b' →
      Retains stored failed (· ≠ queryKey) (fun _ => ()) b b' ∧ b'.desk.token = b.desk.token :=
    fun h => ⟨h.part (fun _ => id) fun _ => (), h.view_eq⟩
  cases op with
  | trigger a =>
    cases hHeld : b.desk.gate.isHeld with
    | true =>
      rw [Operation.perform, trigger_held env a hHeld]
      exact hSame (isFrame_retains.refl b)
    | false =>
      have hAction : a ≠ .saveToken := by
        rintro rfl
        exact hSave hHeld
      exact hSame ((preserves_retains hKeeps).trigger (work_retains hKeeps hAction) (fun _ _ => rfl)
        (fun _ _ => rfl) b)
  | restore => exact absurd rfl hRestore
  | capture force =>
    exact hSame (isFrame_retains.bind (capture_retains hKeeps force)
      (fun _ => isFrame_retains.pure _) b)
  | runQuery => exact hSame (runQuery_retains hKeeps b)
  | saveToken => exact absurd trivial hSave
  | copyExport format =>
    exact hSame (isFrame_retains.bind (copyExport_retains hKeeps format)
      (fun _ => isFrame_retains.pure _) b)
  | exportToFile format path =>
    exact hSame (isFrame_retains.bind (exportToFile_retains hKeeps format path)
      (fun _ => isFrame_retains.pure _) b)
  | editToken | typeToken | typeQuery | typeMaxRows | typeTimeout | setGate | reopen =>
    exact ⟨⟨id, rfl, fun _ _ _ => rfl⟩, rfl⟩

/-- What saves the token, by whichever way, succeeds and leaves it trimmed on the desk and in the
settings. -/
theorem perform_save {op : Operation} {b : Bench σ} (hSave : op.SavesToken b)
    (hOk : ¬ failed (op.perform env b).2.outside) :
    ∃ b', op.perform env b = (.ok (), b') ∧ b'.desk.token = trim b.desk.token ∧
      stored b'.outside tokenKey = some (trim b.desk.token) := by
  rcases hSave.eq with rfl | ⟨rfl, hFree⟩
  · exact saveToken_spec hKeeps b hOk
  · have hTrigger := trigger_free env .saveToken hFree
    rw [Operation.perform] at hOk ⊢
    rw [hTrigger] at hOk ⊢
    obtain ⟨b', hRun, hToken, hStored⟩ := saveToken_spec hKeeps
      { b with desk := { b.desk with gate := ⟨true⟩ } } hOk
    rw [Action.work, hRun]
    exact ⟨_, rfl, hToken, hStored⟩

/-- Nothing ever writes under the earlier key of the token. -/
theorem perform_retains (op : Operation) :
    (op.perform env).Moves (Retains stored failed (· = earlierTokenKey) fun _ => ()) := by
  have hQuery : ∀ key, key = earlierTokenKey → key ≠ queryKey := by
    rintro _ rfl
    decide
  have hToken : ∀ key, key = earlierTokenKey → key ≠ tokenKey := by
    rintro _ rfl
    decide
  intro b
  by_cases hRestore : op = .restore
  · subst hRestore
    exact (restore_retains hKeeps b).part (fun key h => ⟨hQuery key h, hToken key h⟩) id
  by_cases hSave : op.SavesToken b
  · rcases hSave.eq with rfl | ⟨rfl, _⟩
    · exact (saveToken_retains hKeeps b).part hToken id
    · exact ((preserves_retains hKeeps).trigger (saveToken_retains hKeeps) (fun _ _ => rfl)
        (fun _ _ => rfl) b).part hToken id
  · exact (perform_other hKeeps hSave hRestore).1.part hQuery id

end Step

/-! ## 3. Whole runs -/

/-- **Over any run a failure is not forgotten and the earlier key of the token holds what it held.** -/
theorem run_retains {env : Environment σ} {stored : σ → String → Option String}
    {failed : σ → Prop} (hKeeps : KeepsSettings env stored failed) :
    ∀ (ops : List Operation) (b : Bench σ),
      Retains stored failed (· = earlierTokenKey) (fun _ => ()) b (Bench.run env ops b)
  | [], b => isFrame_retains.refl b
  | op :: rest, b =>
      isFrame_retains.trans (perform_retains hKeeps op b) (run_retains hKeeps rest _)

end PageQuery
