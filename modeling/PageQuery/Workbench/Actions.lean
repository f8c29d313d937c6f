import PageQuery.Workbench.Desk
import PageQuery.Result.Export
/-!
The actions of a workbench (specification §4.3).

Restoring (`restore`, `load_setting`, `restore_snapshot`) takes token and query from the settings, the
snapshot from the session cache. A value that is not there under its key is looked for under the key
that earlier versions used, and is put under the current one. Markup without a scope is reported but
not taken over.

Capturing (`capture`, `request_snapshot`, `persist_snapshot`) uses a snapshot of the primary scope again
unless a new one is forced. A failed request is made a second time, to the same tab in the fallback
scope, if that is another one; there is no third. The session cache is written as far as it can be.

`trigger` runs one action with the gate held and turns a failure into the status. A query is checked,
remembered, given a snapshot and only then sent to the agent (`run_query`). The other actions are
`copy_export`, `export_to_file`, `save_token` and `edit_token`.
-/

namespace PageQuery

open Text Query

/-! ## 1. Keys -/

def tokenKey : String := "markqlAgentToken"
def queryKey : String := "markqlLastQuery"
def snapshotKey : String := "markqlSnapshotHtml"
def scopeKey : String := "markqlSnapshotScope"
def earlierTokenKey : String := "xsqlAgentToken"
def earlierQueryKey : String := "xsqlLastQuery"
def earlierSnapshotKey : String := "xsqlSnapshotHtml"

/-! ## 2. Reading the stores -/

variable {σ : Type}

/-- An empty value counts as none. -/
def filled (value : Option String) : Option String := value.filter (· ≠ "")

/-- A setting under its key or else under the earlier one, which moves it. -/
def loadSetting (env : Environment σ) (key earlier : String) : Task σ (Option String) := do
  match filled (← orStorage (← ask env (.readSetting key))) with
  | some value => return some value
  | none =>
    match filled (← orStorage (← ask env (.readSetting earlier))) with
    | none => return none
    | some value =>
      orStorage (← ask env (.writeSetting key value))
      return some value

/-- A value of the session cache. A cache that cannot be read has none. -/
def sessionValue (env : Environment σ) (key : String) : Task σ (Option String) := do
  match ← ask env (.readSession key) with
  | .ok value => return filled value
  | .error _ => return none

/-- The markup of the cached snapshot, moved from the earlier key if it is there. -/
def cachedMarkup (env : Environment σ) : Task σ (Option String) := do
  match ← sessionValue env snapshotKey with
  | some html => return some html
  | none =>
    match ← sessionValue env earlierSnapshotKey with
    | none => return none
    | some html =>
      let _ ← ask env (.writeSession [(snapshotKey, html)])
      return some html

/-- Take over the cached snapshot. The answer is its size, and its scope if that is known. -/
def restoreSnapshot (env : Environment σ) : Task σ (Option (Nat × Option Scope)) := do
  match ← cachedMarkup env with
  | none => return none
  | some html =>
    let scope := (← sessionValue env scopeKey).bind Scope.parse?
    match scope with
    | some s => onDesk fun d => { d with snapshot := some (.ofHtml html s .unknown) }
    | none => pure ()
    return some (html.utf8ByteSize, scope)

/-! ## 3. Restoring -/

def restoredStatus : Option (Nat × Option Scope) → String
  | none => readyStatus
  | some (bytes, scope) =>
    "Restored cached snapshot (" ++ natText bytes ++ " bytes, scope=" ++
      ((scope.map Scope.name).getD "unknown") ++ ")."

/-- Load token, query and snapshot. -/
def restore (env : Environment σ) : Task σ Unit := do
  match ← loadSetting env tokenKey earlierTokenKey with
  | some token => onDesk fun d => { d with token := token }
  | none => pure ()
  match ← loadSetting env queryKey earlierQueryKey with
  | some query => onDesk fun d => { d with editor := .ofText query.toList }
  | none => pure ()
  onDesk fun d => { d with tokenEditor := .forToken d.token false }
  setStatus (restoredStatus (← restoreSnapshot env))

/-! ## 4. Capturing -/

/-- The snapshot that need not be captured again. -/
def Desk.reusable? (d : Desk) : Option Snapshot :=
  d.snapshot.filter fun s => s.scope == d.options.primary && s.html != ""

/-- Ask a tab for a snapshot. -/
def requestSnapshot (env : Environment σ) (tab : Nat) (scope : Scope) : Task σ Snapshot := do
  let reply ← orFail (← ask env (.capture ⟨tab, scope⟩))
  orFail (reply.snapshot scope)

/-- Put a snapshot into the session cache. The answer says whether it is there. -/
def persistSnapshot (env : Environment σ) (s : Snapshot) : Task σ Bool := do
  match ← ask env (.writeSession [(snapshotKey, s.html), (scopeKey, s.scope.name)]) with
  | .ok _ => return true
  | .error _ => return false

def scopeTitle : Scope → String
  | .full => "Full"
  | .main => "Main"

def capturingStatus (scope : Scope) : String := "Capturing " ++ scope.name ++ " snapshot..."

def retryingStatus (primary fallback : Scope) : String :=
  scopeTitle primary ++ " capture failed, retrying " ++ fallback.name ++ "..."

def capturedStatus (s : Snapshot) (cached : Bool) : String :=
  "Captured " ++ natText s.sizeBytes ++ " bytes (" ++ s.scope.name ++ "/" ++ s.source.name ++ ")" ++
    (if cached then "" else " | cache skipped") ++ "."

/-- Ask for a snapshot in the primary scope, and failing that in the fallback scope. -/
def requestEither (env : Environment σ) (tab : Nat) : Task σ Snapshot := do
  let options := (← theDesk).options
  match ← attempt (requestSnapshot env tab options.primary) with
  | .ok s => return s
  | .error e =>
    if options.fallback = options.primary then throw e
    else
      setStatus (retryingStatus options.primary options.fallback)
      requestSnapshot env tab options.fallback

/-- Capture a new snapshot. -/
def captureAfresh (env : Environment σ) : Task σ Snapshot := do
  setStatus (capturingStatus (← theDesk).options.primary)
  let tab ← orFail (← ask env .activeTab)
  let s ← requestEither env tab
  let cached ← persistSnapshot env s
  setStatus (capturedStatus s cached)
  onDesk fun d => { d with snapshot := some s }
  return s

/-- The snapshot at hand, or a new one. -/
def capture (env : Environment σ) (force : Bool) : Task σ Snapshot := do
  let d ← theDesk
  match if force then none else d.reusable? with
  | some s => return s
  | none => captureAfresh env

/-! ## 5. Queries -/

/-- What is to be run: the token and the query, without the blanks around them. -/
def checkInputs (d : Desk) : Except ClientError (String × String) :=
  let token := trim d.token
  let query := trim (String.ofList d.editor.text)
  if token = "" then .error .missingToken
  else if query = "" then .error .emptyQuery
  else .ok (token, query)

def queryStatus (snapshotBytes : Nat) (r : QueryResult) : String :=
  "Snapshot " ++ natText snapshotBytes ++ " bytes | elapsed " ++ natText r.elapsedMs ++
    " ms | rows " ++ natText r.rows.length ++
    (if r.truncated then " (truncated)" else "") ++
    match r.fault with
    | some f => " error=" ++ f.message
    | none => ""

/-- Open the token editor if the token is what is missing. -/
def noteMissingToken : Except ClientError (String × String) → Task σ Unit
  | .error .missingToken => onDesk fun d => { d with tokenEditor := .forToken "" true }
  | _ => pure ()

/-- Run the query in the editor. -/
def runQuery (env : Environment σ) : Task σ Unit := do
  let checked := checkInputs (← theDesk)
  noteMissingToken checked
  let (token, query) ← orFail checked
  orStorage (← ask env (.writeSetting queryKey query))
  let s ← capture env false
  let options := (← theDesk).queryOptions
  onDesk fun d =>
    { d with
      maxRowsInput := natText options.maxRows
      timeoutInput := natText options.timeoutMs
      status := "Running query..." }
  let result ← orFail (← ask env (.query token ⟨s.html, query, options⟩))
  onDesk fun d => { d with status := queryStatus s.sizeBytes result, result := some result }

/-! ## 6. Exports -/

/-- Exports of a workbench go through its environment. -/
def benchOutlets (env : Environment σ) : Outlets (Bench σ) where
  write path text b := b.ask env (.writeFile path text)
  copy text b := b.ask env (.copy text)

/-- Deliver the result as the options ask. -/
def deliver (env : Environment σ) (options : ExportOptions) : Task σ Exported := fun b =>
  exportResult (benchOutlets env) b.desk.result options b

/-- Copy the result to the clipboard. -/
def copyExport (env : Environment σ) (format : ExportFormat) : Task σ Exported := do
  let e ← deliver env ⟨format, none, true⟩
  setStatus ("Copied " ++ format.label ++ " (" ++ natText e.rows ++ " rows).")
  return e

/-- Write the result to a file. -/
def exportToFile (env : Environment σ) (format : ExportFormat) (path : String) :
    Task σ Exported := do
  let e ← deliver env ⟨format, some path, false⟩
  setStatus ("Saved " ++ format.label ++ " (" ++ natText e.rows ++ " rows) to " ++ path ++ ".")
  return e

/-! ## 7. The token -/

/-- Remember the token without the blanks around it. A blank token clears what was remembered. -/
def saveToken (env : Environment σ) : Task σ Unit := do
  let token := trim (← theDesk).token
  orStorage (← ask env (.writeSetting tokenKey token))
  if token = "" then
    onDesk fun d => { d with token := "", tokenEditor := .forToken "" true }
  else
    onDesk fun d =>
      { d with tokenEditor := .forToken token false, token := token, status := "Token saved." }

/-! ## 8. Triggered actions -/

/-- What the user can set off. -/
inductive Action where
  | capture
  | runQuery
  | copyCsv
  | copyJson
  | saveToken
  deriving DecidableEq, Repr

namespace Action

def all : List Action := [capture, runQuery, copyCsv, copyJson, saveToken]

def name : Action → String
  | capture => "Capture"
  | runQuery => "RunQuery"
  | copyCsv => "CopyCsv"
  | copyJson => "CopyJson"
  | saveToken => "SaveToken"

/-- The action of exactly this name. -/
def ofName? (s : String) : Option Action := all.find? (·.name == s)

@[simp] theorem ofName?_name (a : Action) : ofName? a.name = some a := by
  cases a <;> decide

end Action

/-- The work of an action. -/
def Action.work (env : Environment σ) : Action → Task σ Unit
  | .capture => do let _ ← PageQuery.capture env true
  | .runQuery => PageQuery.runQuery env
  | .copyCsv => do let _ ← copyExport env .csv
  | .copyJson => do let _ ← copyExport env .json
  | .saveToken => PageQuery.saveToken env

def setGate (g : Gate) : Task σ Unit := onDesk fun d => { d with gate := g }

/-- The status after a failure. -/
def errorStatus (e : ClientError) : String := "Error: " ++ e.message

/-- Report a failure in the status. -/
def report : Except ClientError Unit → Task σ Unit
  | .ok _ => pure ()
  | .error e => setStatus (errorStatus e)

/-- Run an action with the gate held, unless another one holds it. -/
def trigger (env : Environment σ) (a : Action) : Task σ Unit := do
  let held ← orFail (← theDesk).gate.acquire
  setGate held
  let outcome ← attempt (a.work env)
  report outcome
  setGate held.release
  orFail outcome

end PageQuery
