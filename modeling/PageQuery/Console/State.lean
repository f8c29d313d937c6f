import PageQuery.Workbench.Actions
import PageQuery.Screen.Drawing
/-!
The state of an interactive session: a bench, the part of the screen that takes the keys, and the
chosen row of the result (specification §10, `UiApp`, `Focus`).

A session performs the actions that its input asks for (`perform`). A failure is in the status
already, so it goes no further. A query chooses the first row of its result, and a token that was
saved sends the focus to the query.
-/

namespace PageQuery

open Screen

/-! ## 1. The state -/

/-- The part of the screen that takes the keys. -/
inductive Focus where
  | query
  | token
  | maxRows
  | timeout
  | results
  deriving DecidableEq, Repr

namespace Focus

/-- The order in which the focus moves on. -/
def next : Focus → Focus
  | query => results
  | results => token
  | token => maxRows
  | maxRows => timeout
  | timeout => query

def name : Focus → String
  | query => "Query"
  | token => "Token"
  | maxRows => "MaxRows"
  | timeout => "Timeout"
  | results => "Results"

end Focus

structure Console (σ : Type) where
  bench : Bench σ
  focus : Focus
  selection : Selection
  /-- The session is to end. -/
  isDone : Bool

namespace Console

variable {σ : Type}

/-- A session begins where something is to be typed: the token if its editor is open. -/
def new (b : Bench σ) : Console σ :=
  ⟨b, if b.desk.tokenEditor.isVisible then .token else .query, .none, false⟩

def desk (c : Console σ) : Desk := c.bench.desk

def onDesk (c : Console σ) (f : Desk → Desk) : Console σ :=
  { c with bench := { c.bench with desk := f c.bench.desk } }

def onEditor (c : Console σ) (f : Query.Editor → Query.Editor) : Console σ :=
  c.onDesk fun d => { d with editor := f d.editor }

/-- The number of rows of the result. -/
def rowCount (c : Console σ) : Nat := (c.desk.result.map (·.rows.length)).getD 0

/-! ## 2. Performing an action -/

/-- The selection over a new result. -/
def freshSelection (s : Selection) (rows : Nat) : Selection :=
  if rows = 0 then .none else s.choose 0

/-- What a session makes of an action that has been run. -/
def afterAction (a : Action) (c : Console σ) : Console σ :=
  match a with
  | .runQuery => { c with selection := freshSelection c.selection c.rowCount }
  | .saveToken => if c.desk.tokenEditor.isVisible then c else { c with focus := .query }
  | _ => c

/-- Run an action. -/
def perform (env : Environment σ) (a : Action) (c : Console σ) : Console σ :=
  let (_, b) := trigger env a c.bench
  afterAction a { c with bench := b }

end Console

end PageQuery
