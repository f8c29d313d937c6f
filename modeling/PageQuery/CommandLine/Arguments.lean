import PageQuery.CommandLine.Syntax
import PageQuery.Capture.Pages
import PageQuery.Result.Export
/-!
The commands and their arguments.

Specification §10: `CaptureArgs`, `QueryArgs`, `HighlightArgs`, `RelayArgs`, `TuiArgs`.
-/

namespace PageQuery.CommandLine

/-! ## 1. Commands -/

structure CaptureArguments where
  page : PageSource
  scope : Option Scope
  output : Option String
  deriving DecidableEq, Repr

structure QueryArguments where
  page : PageSource
  query : Option String
  queryFile : Option String
  token : Option String
  saveToken : Bool
  maxRows : Option String
  timeoutMs : Option String
  format : Option ExportFormat
  output : Option String
  copy : Bool
  agentUrl : Option String
  deriving DecidableEq, Repr

structure HighlightArguments where
  query : String
  markup : Bool
  tokens : Bool
  deriving DecidableEq, Repr

inductive Command where
  | capture (a : CaptureArguments)
  | query (a : QueryArguments)
  | highlight (a : HighlightArguments)
  | relay (pages : List PageSource)
  | completions (shell : String)
  | tui (pages : List PageSource)
  deriving DecidableEq, Repr

structure Invocation where
  verbose : Nat
  command : Command
  deriving DecidableEq, Repr

/-! ## 2. Grammars -/

def anyText (_ : String) : Bool := true

/-- Paths may not be empty. -/
def isPath (s : String) : Bool := s != ""

def isScopeName (s : String) : Bool := (Scope.ofName? s).isSome

def isFormatName (s : String) : Bool := (ExportFormat.ofName? s).isSome

def shells : List String := ["bash", "elvish", "fish", "powershell", "zsh"]

def verboseOption : Opt := ⟨"verbose", "verbose", some 'v', .count⟩

def helpOption : Opt := ⟨"help", "help", some 'h', .help⟩

/-- Every command knows these. -/
def commonOptions : List Opt := [verboseOption, helpOption]

def valued (name long : String) (short : Option Char) (accepts : String → Bool) : Opt :=
  ⟨name, long, short, .value accepts⟩

def flag (name long : String) : Opt := ⟨name, long, none, .flag⟩

def outputOption : Opt := valued "output" "output" (some 'o') isPath

def captureGrammar : Grammar :=
  ⟨[valued "scope" "scope" none isScopeName, outputOption] ++ commonOptions,
   [⟨"page", false, anyText⟩]⟩

def queryGrammar : Grammar :=
  ⟨[valued "query" "query" (some 'q') anyText, valued "query_file" "query-file" none isPath,
    valued "token" "token" none anyText, flag "save_token" "save-token",
    valued "max_rows" "max-rows" none anyText, valued "timeout_ms" "timeout-ms" none anyText,
    valued "format" "format" (some 'f') isFormatName, outputOption, flag "copy" "copy",
    valued "agent_url" "agent-url" none anyText] ++ commonOptions,
   [⟨"page", false, anyText⟩]⟩

def highlightGrammar : Grammar :=
  ⟨[flag "markup" "markup", flag "tokens" "tokens"] ++ commonOptions,
   [⟨"query", false, anyText⟩]⟩

def pagesGrammar : Grammar := ⟨commonOptions, [⟨"pages", true, anyText⟩]⟩

def completionsGrammar : Grammar := ⟨commonOptions, [⟨"shell", false, shells.contains⟩]⟩

/-! ## 3. From arguments to commands -/

def required (value : Option String) : Except UsageError String :=
  match value with
  | some v => .ok v
  | none => .error .missingArgument

/-- Two things that exclude each other. -/
def exclusive (r : Reading) (a b : String) : Except UsageError Unit :=
  if r.has a && r.has b then .error .conflict else .ok ()

def pageOf (r : Reading) : Except UsageError PageSource :=
  (required (r.first? "page")).map PageSource.ofText

def pagesOf (r : Reading) : List PageSource := (r.values "pages").map PageSource.ofText

def captureOf (r : Reading) : Except UsageError Command := do
  return .capture ⟨← pageOf r, (r.first? "scope").bind Scope.ofName?, r.first? "output"⟩

/-- A query command. The token may come from the environment. -/
def queryOf (tokenVariable : Option String) (r : Reading) : Except UsageError Command := do
  exclusive r "query" "query_file"
  let page ← pageOf r
  let token := (r.first? "token").or tokenVariable
  if !r.has "query" && !r.has "query_file" then throw .missingArgument
  if r.has "save_token" && token.isNone then throw .missingArgument
  return .query
    { page := page
      query := r.first? "query"
      queryFile := r.first? "query_file"
      token := token
      saveToken := r.has "save_token"
      maxRows := r.first? "max_rows"
      timeoutMs := r.first? "timeout_ms"
      format := (r.first? "format").bind ExportFormat.ofName?
      output := r.first? "output"
      copy := r.has "copy"
      agentUrl := r.first? "agent_url" }

def highlightOf (r : Reading) : Except UsageError Command := do
  exclusive r "markup" "tokens"
  return .highlight ⟨← required (r.first? "query"), r.has "markup", r.has "tokens"⟩

def relayOf (r : Reading) : Except UsageError Command :=
  if (pagesOf r).isEmpty then .error .missingArgument else .ok (.relay (pagesOf r))

def completionsOf (r : Reading) : Except UsageError Command :=
  (required (r.first? "shell")).map .completions

/-- The commands by name: what they read, and what that means. -/
def commandTable (tokenVariable : Option String) :
    List (String × Grammar × (Reading → Except UsageError Command)) :=
  [("capture", captureGrammar, captureOf),
   ("query", queryGrammar, queryOf tokenVariable),
   ("highlight", highlightGrammar, highlightOf),
   ("relay", pagesGrammar, relayOf),
   ("completions", completionsGrammar, completionsOf),
   ("tui", pagesGrammar, fun r => .ok (.tui (pagesOf r)))]

def commandNames : List String := (commandTable none).map (·.1)

/-! ## 4. The whole line -/

/-- Options before the command. -/
def topGrammar : Grammar :=
  ⟨commonOptions ++ [⟨"version", "version", some 'V', .version⟩], []⟩

/-- How often a command line is verbose at most. -/
def verboseLimit : Nat := 255

def verbosity (r : Reading) : Nat := min verboseLimit (r.values "verbose").length

/-- Help about commands by name: none, or one that is there. -/
def helpError : List String → UsageError
  | [] => .help
  | [name] => if name == "help" || commandNames.contains name then .help else .unknownSubcommand
  | _ => .unknownSubcommand

/-- A line without a command. -/
def missingCommand (r : Reading) : UsageError :=
  if r.has "verbose" then .missingSubcommand else .helpForMissing

/-- Read what stands before the command, and then the command. -/
def parseFrom (tokenVariable : Option String) (r : Reading) :
    List String → Except UsageError Invocation
  | [] => .error (missingCommand r)
  | arg :: rest =>
    let isName := arg == "help" || commandNames.contains arg
    if r.isPastOptions then .error (if isName then .unknownArgument else .unknownSubcommand)
    else if arg == "help" then .error (helpError rest)
    else
      match (commandTable tokenVariable).find? (·.1 == arg) with
      | some (_, grammar, meaning) => do
        let inner ← grammar.read rest
        let command ← meaning inner
        return ⟨if inner.has "verbose" then verbosity inner else verbosity r, command⟩
      | none =>
        match r.step topGrammar arg with
        | .ok r => parseFrom tokenVariable r rest
        | .error e =>
          .error (if arg.toList.head? == some '-' && arg != "-" then e else .unknownSubcommand)

/-- Read a command line. -/
def parse (tokenVariable : Option String) (args : List String) :
    Except UsageError Invocation :=
  parseFrom tokenVariable (Reading.start topGrammar) args

end PageQuery.CommandLine
