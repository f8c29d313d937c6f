import PageQuery.Proofs.Workbench.Task
/-!
What the tasks of a workbench preserve.

A relation between benches may survive some calls and not others, and some changes of the desk and not
others. `Preserves` names both: the calls that `may` be made, and a `view` of the desk that has to stay
the same. Each task is followed here once, and what is asked for in its lemma is which calls it makes
and which parts of the desk it changes. Whatever is to be shown of a task that goes on step by step is
then an instance.
-/

namespace PageQuery

open Text

variable {σ α β γ : Type}

/-- A frame that survives the calls that may be made, and changes of the desk that keep a view. -/
structure Preserves (env : Environment σ) (may : Call → Prop) (view : Desk → γ)
    (R : Bench σ → Bench σ → Prop) : Prop extends IsFrame R where
  ask {c : Call} : may c → (PageQuery.ask env c).Moves R
  onDesk {f : Desk → Desk} : (∀ d, view (f d) = view d) → (PageQuery.onDesk f).Moves R

/-! ## 1. Tasks in parts

Where a task goes on by cases of an answer, what follows the answer is named, so that each part can be
followed on its own. -/

/-- Move what was found under the earlier key. -/
def moveEarlier (env : Environment σ) (key : String) (answer : Except Fault (Option String)) :
    Task σ (Option String) := do
  match filled (← orStorage answer) with
  | none => return none
  | some value =>
    orStorage (← ask env (.writeSetting key value))
    return some value

/-- Go on with what was found under the key. -/
def loadFrom (env : Environment σ) (key earlier : String)
    (answer : Except Fault (Option String)) : Task σ (Option String) := do
  match filled (← orStorage answer) with
  | some value => return some value
  | none => moveEarlier env key (← ask env (.readSetting earlier))

theorem loadSetting_eq (env : Environment σ) (key earlier : String) :
    loadSetting env key earlier = ask env (.readSetting key) >>= loadFrom env key earlier := rfl

/-- Show a token that is in the settings. -/
def noteSaved (token : String) : Task σ Unit :=
  if token = "" then onDesk fun d => { d with token := "", tokenEditor := .forToken "" true }
  else
    onDesk fun d =>
      { d with tokenEditor := .forToken token false, token := token, status := "Token saved." }

theorem saveToken_eq (env : Environment σ) :
    saveToken env = theDesk >>= fun d => ask env (.writeSetting tokenKey (trim d.token)) >>=
      fun answer => orStorage answer >>= fun _ => noteSaved (trim d.token) := rfl

/-- Open or close the token editor, and restore the snapshot. -/
def restoreRest (env : Environment σ) : Task σ Unit := do
  onDesk fun d => { d with tokenEditor := .forToken d.token false }
  setStatus (restoredStatus (← restoreSnapshot env))

def takeQuery (found : Option String) : Task σ Unit :=
  match found with
  | some query => onDesk fun d => { d with editor := .ofText query.toList }
  | none => pure ()

def takeToken (found : Option String) : Task σ Unit :=
  match found with
  | some token => onDesk fun d => { d with token := token }
  | none => pure ()

/-- Restore all but the token. -/
def restoreAfterToken (env : Environment σ) : Task σ Unit := do
  takeQuery (← loadSetting env queryKey earlierQueryKey)
  restoreRest env

theorem restore_eq (env : Environment σ) :
    restore env = loadSetting env tokenKey earlierTokenKey >>= fun found =>
      takeToken found >>= fun _ => restoreAfterToken env := by
  have hRest : ∀ found : Option String,
      (match found with
        | some query => do
          onDesk fun d => { d with editor := .ofText query.toList }
          restoreRest env
        | none => restoreRest env : Task σ Unit) = takeQuery found >>= fun _ => restoreRest env := by
    intro found
    cases found with
    | none => rfl
    | some query => rfl
  rw [restore]
  congr 1
  funext found
  cases found with
  | none =>
    show _ = restoreAfterToken env
    rw [restoreAfterToken]
    simp only [← hRest]
    rfl
  | some token =>
    rw [restoreAfterToken]
    simp only [← hRest]
    rfl

namespace Preserves

variable {env : Environment σ} {may : Call → Prop} {view : Desk → γ}
variable {R : Bench σ → Bench σ → Prop} (h : Preserves env may view R)

include h

/-! ## 2. Reading the stores -/

theorem moveEarlier (key : String) (hWrite : ∀ value, may (.writeSetting key value))
    (answer : Except Fault (Option String)) : (moveEarlier env key answer).Moves R := by
  refine h.bind (h.orStorage answer) fun found => ?_
  cases filled found with
  | none => exact h.pure _
  | some value =>
    refine h.bind (h.ask (hWrite value)) fun answer => ?_
    exact h.bind (h.orStorage answer) fun _ => h.pure _

theorem loadFrom (key earlier : String) (hRead : may (.readSetting earlier))
    (hWrite : ∀ value, may (.writeSetting key value)) (answer : Except Fault (Option String)) :
    (loadFrom env key earlier answer).Moves R := by
  refine h.bind (h.orStorage answer) fun found => ?_
  cases filled found with
  | some value => exact h.pure _
  | none => exact h.bind (h.ask hRead) fun answer => h.moveEarlier key hWrite answer

theorem loadSetting (key earlier : String) (hRead : ∀ key, may (.readSetting key))
    (hWrite : ∀ value, may (.writeSetting key value)) :
    (loadSetting env key earlier).Moves R :=
  h.bind (h.ask (hRead key)) (h.loadFrom key earlier (hRead earlier) hWrite)

theorem sessionValue (key : String) (hRead : may (.readSession key)) :
    (sessionValue env key).Moves R := by
  refine h.bind (h.ask hRead) fun answer => ?_
  cases answer with
  | ok value => exact h.pure _
  | error f => exact h.pure _

theorem cachedMarkup (hRead : ∀ key, may (.readSession key))
    (hWrite : ∀ entries, may (.writeSession entries)) : (cachedMarkup env).Moves R := by
  refine h.bind (h.sessionValue _ (hRead _)) fun current => ?_
  cases current with
  | some html => exact h.pure _
  | none =>
    refine h.bind (h.sessionValue _ (hRead _)) fun before => ?_
    cases before with
    | none => exact h.pure _
    | some html => exact h.bind (h.ask (hWrite _)) fun _ => h.pure _

/-- Restoring the snapshot changes nothing else on the desk. -/
theorem restoreSnapshot (hRead : ∀ key, may (.readSession key))
    (hWrite : ∀ entries, may (.writeSession entries))
    (hView : ∀ d snapshot, view { d with snapshot := snapshot } = view d) :
    (restoreSnapshot env).Moves R := by
  refine h.bind (h.cachedMarkup hRead hWrite) fun markup => ?_
  cases markup with
  | none => exact h.pure _
  | some html =>
    refine h.bind (h.sessionValue _ (hRead _)) fun name => ?_
    cases name.bind Scope.parse? with
    | none => exact h.pure _
    | some scope => exact h.bind (h.onDesk fun d => hView d _) fun _ => h.pure _

theorem takeToken (hView : ∀ d token, view { d with token := token } = view d)
    (found : Option String) : (takeToken found).Moves R := by
  cases found with
  | none => exact h.pure _
  | some token => exact h.onDesk fun d => hView d _

theorem takeQuery (hView : ∀ d editor, view { d with editor := editor } = view d)
    (found : Option String) : (takeQuery found).Moves R := by
  cases found with
  | none => exact h.pure _
  | some query => exact h.onDesk fun d => hView d _

/-- Restoring changes the token and its editor, the query and the status, and the snapshot as
`restoreSnapshot` does. -/
theorem restore (hRead : ∀ key, may (.readSetting key))
    (hToken : ∀ token, may (.writeSetting tokenKey token))
    (hQuery : ∀ query, may (.writeSetting queryKey query))
    (hView : ∀ d status token tokenEditor editor,
      view { d with
        status := status, token := token, tokenEditor := tokenEditor, editor := editor } = view d)
    (hSnapshot : (PageQuery.restoreSnapshot env).Moves R) : (restore env).Moves R := by
  rw [restore_eq]
  refine h.bind (h.loadSetting _ _ hRead hToken) fun found => ?_
  refine h.bind (h.takeToken (fun d _ => hView d _ _ _ _) found) fun _ => ?_
  refine h.bind (h.loadSetting _ _ hRead hQuery) fun found => ?_
  refine h.bind (h.takeQuery (fun d _ => hView d _ _ _ _) found) fun _ => ?_
  refine h.bind (h.onDesk fun d => hView d _ _ _ _) fun _ => ?_
  exact h.bind hSnapshot fun _ => h.onDesk fun d => hView d _ _ _ _

/-! ## 3. Captures and queries -/

theorem requestSnapshot (tab : Nat) (scope : Scope) (hCapture : ∀ r, may (.capture r)) :
    (requestSnapshot env tab scope).Moves R := by
  refine h.bind (h.ask (hCapture _)) fun answer => ?_
  exact h.bind (h.orFail answer) fun _ => h.orFail _

theorem requestEither (tab : Nat) (hCapture : ∀ r, may (.capture r))
    (hStatus : ∀ d status, view { d with status := status } = view d) :
    (requestEither env tab).Moves R := by
  refine h.bind h.theDesk fun d => ?_
  refine h.bind (h.requestSnapshot tab _ hCapture).attempt fun outcome => ?_
  cases outcome with
  | ok s => exact h.pure _
  | error e =>
    by_cases hSame : d.options.fallback = d.options.primary
    · simp only [hSame, if_true]
      exact h.throw e
    · simp only [hSame, if_false]
      exact h.bind (h.onDesk fun d => hStatus d _) fun _ => h.requestSnapshot tab _ hCapture

/-- A capture changes the status and the snapshot. -/
theorem capture (force : Bool) (hTab : may .activeTab) (hCapture : ∀ r, may (.capture r))
    (hWrite : ∀ entries, may (.writeSession entries))
    (hView : ∀ d status snapshot,
      view { d with status := status, snapshot := snapshot } = view d) :
    (capture env force).Moves R := by
  have hStatus : ∀ d status, view { d with status := status } = view d :=
    fun d status => hView d status d.snapshot
  refine h.bind h.theDesk fun d => ?_
  cases (if force then none else d.reusable?) with
  | some s => exact h.pure _
  | none =>
    refine h.bind h.theDesk fun d => ?_
    refine h.bind (h.onDesk fun d => hStatus d _) fun _ => ?_
    refine h.bind (h.ask hTab) fun answer => ?_
    refine h.bind (h.orFail answer) fun tab => ?_
    refine h.bind (h.requestEither tab hCapture hStatus) fun s => ?_
    refine h.bind ?_ fun cached => ?_
    · refine h.bind (h.ask (hWrite _)) fun answer => ?_
      cases answer with
      | ok _ => exact h.pure _
      | error f => exact h.pure _
    · refine h.bind (h.onDesk fun d => hStatus d _) fun _ => ?_
      exact h.bind (h.onDesk fun d => hView d d.status _) fun _ => h.pure _

/-- A query changes the status, the token editor, the inputs of numbers and the result, and what a
capture does. -/
theorem runQuery (hCapture : (PageQuery.capture env false).Moves R)
    (hWrite : ∀ query, may (.writeSetting queryKey query)) (hQuery : ∀ token r, may (.query token r))
    (hView : ∀ d status editor rows timeout result,
      view { d with
        status := status, tokenEditor := editor, maxRowsInput := rows, timeoutInput := timeout
        result := result } = view d) :
    (runQuery env).Moves R := by
  refine h.bind h.theDesk fun d => ?_
  refine h.bind ?_ fun _ => ?_
  · rw [noteMissingToken.eq_def]
    split
    · exact h.onDesk fun d => hView d d.status _ d.maxRowsInput d.timeoutInput d.result
    · exact h.pure _
  · refine h.bind (h.orFail _) fun checked => ?_
    refine h.bind (h.ask (hWrite _)) fun answer => ?_
    refine h.bind (h.orStorage answer) fun _ => ?_
    refine h.bind hCapture fun s => ?_
    refine h.bind h.theDesk fun d => ?_
    refine h.bind (h.onDesk fun d => hView d _ d.tokenEditor _ _ d.result) fun _ => ?_
    refine h.bind (h.ask (hQuery _ _)) fun answer => ?_
    refine h.bind (h.orFail answer) fun result => ?_
    exact h.onDesk fun d => hView d _ d.tokenEditor d.maxRowsInput d.timeoutInput _

/-! ## 4. Exports -/

theorem bench_ask {c : Call} (hMay : may c) (b : Bench σ) : R b (b.ask env c).2 := h.ask hMay b

theorem writeTo (hFile : ∀ path text, may (.writeFile path text)) (path : Option String)
    (rendered : String) (b : Bench σ) : R b ((benchOutlets env).writeTo path rendered b).2 := by
  cases path with
  | none => exact h.refl b
  | some p =>
    rw [writeTo_run]
    exact h.bench_ask (hFile p rendered) b

theorem copyIf (hCopy : ∀ text, may (.copy text)) (wanted : Bool) (rendered : String)
    (b : Bench σ) : R b ((benchOutlets env).copyIf wanted rendered b).2 := by
  cases wanted with
  | false => exact h.refl b
  | true =>
    rw [copyIf_run]
    exact h.bench_ask (hCopy rendered) b

/-- An export changes nothing on the desk. -/
theorem deliver (hFile : ∀ path text, may (.writeFile path text)) (hCopy : ∀ text, may (.copy text))
    (options : ExportOptions) : (deliver env options).Moves R := by
  intro b
  rw [PageQuery.deliver]
  cases b.desk.result with
  | none => exact h.refl b
  | some r =>
    have hWrite : R b ((benchOutlets env).writeTo options.path (options.format.render r) b).2 :=
      h.writeTo hFile _ _ b
    rw [exportResult]
    split
    · next hRun =>
      rw [hRun] at hWrite
      exact hWrite
    · next written hRun =>
      rw [hRun] at hWrite
      have hCopied : R written
          ((benchOutlets env).copyIf options.copy (options.format.render r) written).2 :=
        h.copyIf hCopy _ _ written
      split
      · next hRun =>
        rw [hRun] at hCopied
        exact h.trans hWrite hCopied
      · next hRun =>
        rw [hRun] at hCopied
        exact h.trans hWrite hCopied

theorem copyExport (hFile : ∀ path text, may (.writeFile path text))
    (hCopy : ∀ text, may (.copy text))
    (hStatus : ∀ d status, view { d with status := status } = view d) (format : ExportFormat) :
    (copyExport env format).Moves R := by
  refine h.bind (h.deliver hFile hCopy _) fun e => ?_
  exact h.bind (h.onDesk fun d => hStatus d _) fun _ => h.pure _

theorem exportToFile (hFile : ∀ path text, may (.writeFile path text))
    (hCopy : ∀ text, may (.copy text))
    (hStatus : ∀ d status, view { d with status := status } = view d) (format : ExportFormat)
    (path : String) : (exportToFile env format path).Moves R := by
  refine h.bind (h.deliver hFile hCopy _) fun e => ?_
  exact h.bind (h.onDesk fun d => hStatus d _) fun _ => h.pure _

/-! ## 5. The token and triggered actions -/

/-- Saving the token changes the token, its editor and the status. -/
theorem saveToken (hWrite : ∀ token, may (.writeSetting tokenKey token))
    (hView : ∀ d status token editor,
      view { d with status := status, token := token, tokenEditor := editor } = view d) :
    (saveToken env).Moves R := by
  rw [saveToken_eq]
  refine h.bind h.theDesk fun d => ?_
  refine h.bind (h.ask (hWrite _)) fun answer => ?_
  refine h.bind (h.orStorage answer) fun _ => ?_
  rw [noteSaved]
  by_cases hToken : trim d.token = ""
  · rw [if_pos hToken]
    exact h.onDesk fun d => hView d d.status _ _
  · rw [if_neg hToken]
    exact h.onDesk fun d => hView d _ _ _

/-- The work of an action is preserved if captures are, and what queries and exports do, and if it is
not to save the token or that is preserved too. -/
theorem work (hCapture : ∀ force, (PageQuery.capture env force).Moves R)
    (hWrite : ∀ query, may (.writeSetting queryKey query)) (hQuery : ∀ token r, may (.query token r))
    (hFile : ∀ path text, may (.writeFile path text)) (hCopy : ∀ text, may (.copy text))
    (hView : ∀ d status editor rows timeout result,
      view { d with
        status := status, tokenEditor := editor, maxRowsInput := rows, timeoutInput := timeout
        result := result } = view d)
    {a : Action} (hSave : a = .saveToken → (PageQuery.saveToken env).Moves R) :
    (a.work env).Moves R := by
  have hExport : ∀ format, (PageQuery.copyExport env format).Moves R :=
    h.copyExport hFile hCopy fun d status =>
      hView d status d.tokenEditor d.maxRowsInput d.timeoutInput d.result
  cases a with
  | capture => exact h.bind (hCapture true) fun _ => h.pure _
  | runQuery => exact h.runQuery (hCapture false) hWrite hQuery hView
  | copyCsv => exact h.bind (hExport .csv) fun _ => h.pure _
  | copyJson => exact h.bind (hExport .json) fun _ => h.pure _
  | saveToken => exact hSave rfl

/-- What the work of an action preserves, triggering the action preserves, but for the gate and the
status. -/
theorem trigger {a : Action} (hWork : (a.work env).Moves R)
    (hGate : ∀ d gate, view { d with gate := gate } = view d)
    (hStatus : ∀ d status, view { d with status := status } = view d) :
    (trigger env a).Moves R := by
  refine h.bind h.theDesk fun d => ?_
  refine h.bind (h.orFail _) fun held => ?_
  refine h.bind (h.onDesk fun d => hGate d _) fun _ => ?_
  refine h.bind hWork.attempt fun outcome => ?_
  refine h.bind ?_ fun _ => ?_
  · cases outcome with
    | ok _ => exact h.pure _
    | error e => exact h.onDesk fun d => hStatus d _
  · exact h.bind (h.onDesk fun d => hGate d _) fun _ => h.orFail _

end Preserves

end PageQuery
