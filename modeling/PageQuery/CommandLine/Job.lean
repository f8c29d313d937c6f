import PageQuery.Workbench.Desk
import PageQuery.Config.Basic
import PageQuery.Workbench.Station
import PageQuery.Workbench.Actions
/-!
Work that prints, and what a command finds around it (specification §10).

A `Job` works on a state, prints to an output, leaves notes beside it and may stop with a message.
What was printed before it stopped stays printed. `onWorkbench` sets up the workbench of a command
from the configuration, as the program's `workbench` does.
-/

namespace PageQuery.CommandLine

/-! ## 1. Jobs -/

/-- What has been printed: the output, and the lines of notes. -/
structure Printed where
  out : String
  notes : List String
  deriving DecidableEq, Repr

/-- Nothing yet. -/
def Printed.nothing : Printed := ⟨"", []⟩

/-- A state, and what has been printed. -/
structure Shell (σ : Type) where
  state : σ
  printed : Printed

/-- Work that prints and may stop with a message. -/
abbrev Job (σ α : Type) := ExceptT String (StateM (Shell σ)) α

variable {σ : Type}

/-- Print a text and end the line. -/
def emit (text : String) : Job σ Unit :=
  modify fun s => { s with printed := { s.printed with out := s.printed.out ++ text ++ "\n" } }

/-- Leave a line of notes. -/
def note (line : String) : Job σ Unit :=
  modify fun s => { s with printed := { s.printed with notes := s.printed.notes ++ [line] } }

/-- The state. -/
def here : Job σ σ := do return (← get).state

/-- Change the state. -/
def change (f : σ → σ) : Job σ Unit := modify fun s => { s with state := f s.state }

/-- Go on with a value, or stop as the fault says on its outside. -/
def orStop {α : Type} : Except Fault α → Job σ α
  | .ok a => pure a
  | .error f => throw f.outer

/-- Go on with a value, or stop with the wording of a failed action. -/
def orStopWith {α : Type} : Except ClientError α → Job σ α
  | .ok a => pure a
  | .error e => throw e.message

/-- Do a task on a bench. -/
def onBench {α : Type} (t : Task σ α) : Job (Bench σ) α := do
  let (outcome, b) := t (← here)
  change fun _ => b
  orStopWith outcome

/-- Do a job on a state of its own that is made from, and leads back to, the state at hand. -/
def onOther {τ α : Type} (enter : σ → τ) (leave : τ → σ) (j : Job τ α) : Job σ α := fun s =>
  let (outcome, inner) := j ⟨enter s.state, s.printed⟩
  (outcome, ⟨leave inner.state, inner.printed⟩)

/-! ## 2. Surroundings -/

/-- What a command is given beside its arguments. -/
structure Surroundings where
  /-- The directory of configuration files, if there is one. -/
  home : Option String
  overrides : Config.Overrides
  /-- A token in the environment. -/
  token : Option String
  /-- The standard input. -/
  input : String
  /-- What the parsers say of texts that they refuse. -/
  words : Wording

/-- Load the configuration. -/
def loadConfig (s : Surroundings) : Job World Config := do
  orStop (Config.load s.words.config (← here).disk s.home s.overrides)

/-- The directory of configuration files, which has to be there. -/
def theHome (s : Surroundings) : Job World String :=
  match s.home with
  | some h => pure h
  | none => throw "unable to determine configuration directory"

/-- Do a job on a new workbench over pages. -/
def onWorkbench {α : Type} (s : Surroundings) (c : Config) (pages : List PageSource)
    (j : Job (Bench Station) α) : Job World α := do
  let home ← theHome s
  onOther (fun w => .new (.ofConfig c) (.ofConfig s.words c home pages w)) (·.outside.world) j

end PageQuery.CommandLine
