import PageQuery.CommandLine.Job
import PageQuery.CommandLine.Arguments
import PageQuery.Workbench.Actions
/-!
Capturing a page and running a query from the command line (specification §10, `capture`,
`capture_exact` and `query`).

With a scope, exactly that scope is captured and nothing is configured. Without one, the page is
captured through a workbench, which knows a fallback.

`queryOnBench` is the whole course of a query on a bench, whatever answers its calls: restore, take
over the arguments, run, then deliver the result to the output or to a file, and to the clipboard if
that is asked for.
-/

namespace PageQuery.CommandLine

open Query

variable {σ : Type}

/-! ## 1. Capturing -/

/-- Capture a page in a scope. -/
def captureExactly (page : PageSource) (scope : Scope) : Job World Snapshot := do
  let pages := Pages.ofSources [page]
  let tab ← orStopWith pages.activeTab
  let (reply, _, w) := Pages.send ⟨tab, scope⟩ (pages, ← here)
  change fun _ => w
  let answer ← orStopWith reply
  orStopWith (answer.snapshot scope)

/-- Capture a page as configured. -/
def captureConfigured (s : Surroundings) (page : PageSource) : Job World Snapshot := do
  let c ← loadConfig s
  onWorkbench s c [page] do
    onBench (trigger Station.environment .capture)
    match (← here).desk.snapshot with
    | some snapshot => return snapshot
    | none => throw "capture produced no snapshot"

/-- What is noted about a snapshot. -/
def snapshotNote (s : Snapshot) : String :=
  "Captured " ++ natText s.sizeBytes ++ " bytes (" ++ s.scope.name ++ "/" ++ s.source.name ++ ")."

/-- Write a text to a file that lies in a directory which is there. -/
def writeOutput (path text : String) : Job World Unit := do
  let w ← here
  match w.disk.writeText path text with
  | .ok disk => change fun _ => { w with disk := disk }
  | .error _ => throw ("failed to write " ++ path)

/-- Capture a page and deliver its markup. -/
def captureJob (s : Surroundings) (a : CaptureArguments) : Job World Unit := do
  let snapshot ← match a.scope with
    | some scope => captureExactly a.page scope
    | none => captureConfigured s a.page
  note (snapshotNote snapshot)
  match a.output with
  | some path => writeOutput path snapshot.html
  | none => emit snapshot.html

/-! ## 2. Querying -/

/-- Take over a token, and remember it if that is asked for. -/
def takeToken (env : Environment σ) (a : QueryArguments) : Job (Bench σ) Unit := do
  match a.token with
  | none => pure ()
  | some token =>
    onBench (onDesk fun d => { d with token := token })
    if a.saveToken then onBench (trigger env .saveToken)

/-- The desk with the query and the inputs of the arguments. -/
def withInputs (a : QueryArguments) (query : String) (d : Desk) : Desk :=
  { d with
    editor := .ofText query.toList
    maxRowsInput := a.maxRows.getD d.maxRowsInput
    timeoutInput := a.timeoutMs.getD d.timeoutInput }

/-- Note the status of the bench. -/
def noteStatus : Job (Bench σ) Unit := do note (← here).desk.status

/-- Write the result to a file or print it. -/
def deliverResult (env : Environment σ) (format : ExportFormat) (output : Option String) :
    Job (Bench σ) Unit := do
  match output with
  | some path =>
    let _ ← onBench (exportToFile env format path)
    noteStatus
  | none => emit (← orStopWith ((← here).desk.buildExport format))

/-- The action that copies a result in a format. -/
def copyAction : ExportFormat → Action
  | .csv => .copyCsv
  | .json => .copyJson

/-- Run a query and deliver its result. -/
def queryOnBench (env : Environment σ) (a : QueryArguments) (query : String)
    (format : ExportFormat) : Job (Bench σ) Unit := do
  onBench (restore env)
  takeToken env a
  onBench (onDesk (withInputs a query))
  onBench (trigger env .runQuery)
  noteStatus
  deliverResult env format a.output
  if a.copy then
    onBench (trigger env (copyAction format))
    noteStatus

/-- The query's text, as given or from its file. -/
def queryText (a : QueryArguments) : Job World String := do
  match a.query, a.queryFile with
  | some query, _ => return query
  | none, some path =>
    match (← here).disk.readText path with
    | .ok query => return query
    | .error _ => throw ("failed to read query file " ++ path)
  | none, none => throw "a query or --query-file is required"

/-- Capture a page and run a query against it. -/
def queryJob (s : Surroundings) (a : QueryArguments) : Job World Unit := do
  let c ← loadConfig s
  let query ← queryText a
  let c := { c with agentUrl := a.agentUrl.or c.agentUrl }
  onWorkbench s c [a.page]
    (queryOnBench Station.environment a query (a.format.getD c.effectiveFormat))

end PageQuery.CommandLine
