import PageQuery.CommandLine.Job
import PageQuery.CommandLine.Arguments
import PageQuery.Json.Value
import PageQuery.Query.Style
import PageQuery.Capture.Pages
import PageQuery.Json.Draft
import PageQuery.CommandLine.Query
/-!
The other commands, and a run of the program from its arguments to its exit code (specification §10,
`highlight`, `relay`, `tui` and `run`).

A query is printed with terminal colours, as HTML, or as one JSON object for each token.

Capture messages are answered line by line. Each line of input that is not blank is one message and
has one line of answer. A line that is no JSON is answered too, in the words of the JSON parser, and
a message that is for no one is answered by null.
-/

namespace PageQuery.CommandLine

open Query Text Json

/-! ## 1. Printing a query -/

/-- A token as JSON. -/
def tokenRecord (t : Token) : Json :=
  .obj [("kind", .str t.kind.name), ("text", .str (String.ofList t.text))]

/-- The lines that show a query. -/
def highlightLines (a : HighlightArguments) : List String :=
  let query := a.query.toList
  if a.markup then [String.ofList (markup (tokenize query))]
  else if a.tokens then (tokenize query).map fun t => (tokenRecord t).render
  else [String.ofList (ansi query)]

/-- Print a query. -/
def highlightJob {σ : Type} (a : HighlightArguments) : Job σ Unit := (highlightLines a).forM emit

/-! ## 2. Answering messages -/

/-- The answer to a line that is no JSON, with what the parser says of it. -/
def invalidMessage (cause : String) : Json :=
  (CaptureReply.failed ("invalid message: " ++ cause)).toJson

/-- The lines of an input that hold messages. -/
def messageLines (input : String) : List String :=
  ((lines input.toList).map String.ofList).filter fun line => !isAllBlank line

/-- Answer one line. `refusal` is what the parser says of a line that is no JSON. -/
def answerLine (refusal : String → String) (line : String) (s : Pages × World) :
    String × Pages × World :=
  match Json.ofText? Levels.document line with
  | none => ((invalidMessage (refusal line)).render, s)
  | some message =>
    let (reply, s) := Pages.dispatch message s
    ((reply.getD .null).render, s)

/-- Answer lines in order. -/
def answerLines (refusal : String → String) :
    List String → Pages × World → List String × Pages × World
  | [], s => ([], s)
  | line :: rest, s =>
    let (answer, s) := answerLine refusal line s
    let (answers, s) := answerLines refusal rest s
    (answer :: answers, s)

/-- Print the answers to an input. -/
def relayJob (s : Surroundings) (pages : List PageSource) : Job World Unit := do
  let (answers, _, w) :=
    answerLines s.words.message (messageLines s.input) (.ofSources pages, ← here)
  change fun _ => w
  answers.forM emit

/-! ## 3. A run -/

/-- What a run comes to. -/
structure Outcome where
  code : Nat
  printed : Printed
  deriving DecidableEq, Repr

def versionLine : String := "markql-client 0.1.0\n"

/-- What arguments that are no command come to: the version and help are successes. -/
def usageOutcome : UsageError → Outcome
  | .version => ⟨0, versionLine, []⟩
  | .help => ⟨0, "", []⟩
  | _ => ⟨2, "", []⟩

/-- Set up an interactive workbench, which then needs a terminal. -/
def interactiveJob (s : Surroundings) (pages : List PageSource) : Job World Unit := do
  let c ← loadConfig s
  onWorkbench s c pages do
    onBench (restore Station.environment)
    throw "failed to enable raw mode"

/-- The work of a command. There are no completions to print. -/
def Command.job (s : Surroundings) : Command → Job World Unit
  | .capture a => captureJob s a
  | .query a => queryJob s a
  | .highlight a => highlightJob a
  | .relay pages => relayJob s pages
  | .completions _ => pure ()
  | .tui pages => interactiveJob s pages

/-- What a finished job comes to. -/
def outcomeOf (printed : Printed) : Except String Unit → Outcome
  | .ok _ => ⟨0, printed⟩
  | .error message => ⟨1, { printed with notes := printed.notes ++ ["Error: " ++ message] }⟩

/-- Run the program. -/
def run (s : Surroundings) (args : List String) (w : World) : Outcome × World :=
  match parse s.token args with
  | .error e => (usageOutcome e, w)
  | .ok i =>
    let (outcome, shell) := (i.command.job s) ⟨w, .nothing⟩
    (outcomeOf shell.printed outcome, shell.state)

end PageQuery.CommandLine
