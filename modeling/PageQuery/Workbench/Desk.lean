import PageQuery.Fault
import PageQuery.Capture.Message
import PageQuery.Agent.Request
import PageQuery.Result.Table
import PageQuery.Query.Editor
import PageQuery.Config.Basic
/-!
The state of a workbench, and what it asks of the outside (specification §4.3).

A `Call` is one question to a collaborator (§1), and its type of answer depends on it. An
`Environment` answers calls from a state of its own, which can be anything; so what is said of every
environment is said of every behaviour of pages, agent, stores, clipboard and file system. The gate
lets one action run at a time: it is the action guard of §4.3 (`ActionGate`, `try_acquire`).

A `Desk` is what the user sees and works on: the fields of `Workbench`, with `TokenEditor`,
`WorkbenchOptions` and `query_options`. A `Bench` puts it beside the state of the outside and keeps a
record of every call made, with the gate as it stood then. A `Task` works on a bench and may fail.
-/

namespace PageQuery

open Text Query

/-! ## 1. The gate -/

/-- Held while an action runs. -/
structure Gate where
  isHeld : Bool
  deriving DecidableEq, Repr

namespace Gate

def free : Gate := ⟨false⟩

/-- Take the gate, unless it is held. -/
def acquire (g : Gate) : Except ClientError Gate :=
  if g.isHeld then .error .busy else .ok ⟨true⟩

/-- Give the gate back. -/
def release (_ : Gate) : Gate := free

end Gate

/-! ## 2. Calls and what answers them -/

inductive Call where
  /-- Which tab is to be captured? -/
  | activeTab
  /-- Capture a page. -/
  | capture (r : CaptureRequest)
  /-- Run a query under a token. -/
  | query (token : String) (r : QueryRequest)
  | readSetting (key : String)
  | writeSetting (key value : String)
  | readSession (key : String)
  /-- Store entries in the session cache, all or none. -/
  | writeSession (entries : List (String × String))
  | copy (text : String)
  | writeFile (path text : String)
  deriving DecidableEq

namespace Call

/-- What a call is answered with. -/
abbrev Reply : Call → Type
  | activeTab => Except ClientError Nat
  | capture _ => Except ClientError CaptureReply
  | query _ _ => Except ClientError QueryResult
  | readSetting _ => Except Fault (Option String)
  | writeSetting _ _ => Except Fault Unit
  | readSession _ => Except Fault (Option String)
  | writeSession _ => Except Fault Unit
  | copy _ => Except Fault Unit
  | writeFile _ _ => Except Fault Unit

end Call

/-- What answers calls, from and into a state. -/
abbrev Environment (σ : Type) := (c : Call) → σ → c.Reply × σ

/-! ## 3. The desk -/

/-- Whether the token can be typed in, and the help beside it. -/
structure TokenEditor where
  isVisible : Bool
  help : String
  deriving DecidableEq, Repr

namespace TokenEditor

def missingHelp : String := "Start MarkQL agent and copy token from terminal output."

def replaceHelp : String := "Paste a new token and save."

/-- The editor for a token. Without a token it is always open. -/
def forToken (token : String) (isOpen : Bool) : TokenEditor :=
  if isAllBlank token then ⟨true, missingHelp⟩
  else if isOpen then ⟨true, replaceHelp⟩
  else ⟨false, ""⟩

end TokenEditor

/-- What is fixed when a workbench is set up. -/
structure WorkbenchOptions where
  primary : Scope
  fallback : Scope
  maxRows : OptionBounds
  timeoutMs : OptionBounds
  deriving DecidableEq, Repr

namespace WorkbenchOptions

def standard : WorkbenchOptions := ⟨.full, .main, .maxRows, .timeoutMs⟩

def ofConfig (c : Config) : WorkbenchOptions :=
  ⟨c.effectivePrimary, c.effectiveFallback, c.rowBounds, c.timeoutBounds⟩

end WorkbenchOptions

/-- The status of a workbench with nothing to report. -/
def readyStatus : String := "Ready."

structure Desk where
  options : WorkbenchOptions
  snapshot : Option Snapshot
  result : Option QueryResult
  status : String
  tokenEditor : TokenEditor
  token : String
  editor : Editor
  maxRowsInput : String
  timeoutInput : String
  gate : Gate

/-- A number as it is shown. -/
def natText (n : Nat) : String := String.ofList (Number.naturalDigits n)

namespace Desk

/-- A desk on which nothing has been done. -/
def new (options : WorkbenchOptions) : Desk where
  options := options
  snapshot := none
  result := none
  status := readyStatus
  tokenEditor := .forToken "" true
  token := ""
  editor := .empty
  maxRowsInput := natText options.maxRows.default
  timeoutInput := natText options.timeoutMs.default
  gate := .free

/-- Controls can be used while no action runs. -/
def isEnabled (d : Desk) : Bool := !d.gate.isHeld

/-- Open the token editor. -/
def editToken (d : Desk) : Desk := { d with tokenEditor := .forToken d.token true }

/-- The options of the next query: what was typed, kept in range. -/
def queryOptions (d : Desk) : QueryOptions :=
  ⟨d.options.maxRows.clampInput d.maxRowsInput, d.options.timeoutMs.clampInput d.timeoutInput⟩

/-- Render the result, if there is one. -/
def buildExport (d : Desk) (format : ExportFormat) : Except ClientError String :=
  match d.result with
  | some r => .ok (format.render r)
  | none => .error .noResult

end Desk

/-! ## 4. The bench -/

/-- A call that was made, with the gate as it stood. -/
structure Event where
  call : Call
  gate : Gate

/-- A desk, what is outside, and the calls made so far. -/
structure Bench (σ : Type) where
  desk : Desk
  outside : σ
  trace : List Event

namespace Bench

def new {σ : Type} (options : WorkbenchOptions) (outside : σ) : Bench σ :=
  ⟨.new options, outside, []⟩

end Bench

/-- Work on a bench that may fail. -/
abbrev Task (σ α : Type) := ExceptT ClientError (StateM (Bench σ)) α

variable {σ : Type}

/-- Make a call. -/
def Bench.ask (env : Environment σ) (c : Call) (b : Bench σ) : c.Reply × Bench σ :=
  let (reply, outside) := env c b.outside
  (reply, { b with outside := outside, trace := b.trace ++ [⟨c, b.desk.gate⟩] })

/-- Make a call within a task. -/
def ask (env : Environment σ) (c : Call) : Task σ c.Reply := fun b =>
  let (reply, b) := b.ask env c
  (.ok reply, b)

/-- Do a task and go on with its outcome, whether it failed or not. -/
def attempt {α : Type} (t : Task σ α) : Task σ (Except ClientError α) := fun b =>
  let (outcome, b) := t b
  (.ok outcome, b)

/-- Change the desk. -/
def onDesk (f : Desk → Desk) : Task σ Unit := modify fun b => { b with desk := f b.desk }

def theDesk : Task σ Desk := do return (← get).desk

def setStatus (s : String) : Task σ Unit := onDesk fun d => { d with status := s }

/-- Go on with an answer, or fail as it does. -/
def orFail {α : Type} : Except ClientError α → Task σ α
  | .ok a => pure a
  | .error e => throw e

/-- Go on with an answer of a store, or fail. -/
def orStorage {α : Type} : Except Fault α → Task σ α
  | .ok a => pure a
  | .error f => throw (.ofStore f)

end PageQuery
