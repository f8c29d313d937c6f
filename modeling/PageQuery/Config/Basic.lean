import PageQuery.Agent.Client
import PageQuery.Result.Export
import PageQuery.Toml.Document
import PageQuery.Disk.Basic
/-!
Configuration and its files (specification §9).

A `Config` is one layer: each of its eight settings may be given or left open. `merge` lays one layer
over another, and the accessors say what holds where no layer has spoken; `WorkbenchOptions` takes its
values from them.

The layers are, from the lowest up, the built-in one, the user's file and the workspace's file; the
environment comes last. A workspace is the nearest directory around the current one that holds
`.git`, or else the current directory. A file that does not decode is a fault with the cause that the
TOML parser gives.
-/

namespace PageQuery

open Text

/-- A layer of settings. -/
structure Config where
  agentUrl : Option String
  tokenHeader : Option String
  maxRows : Option Nat
  timeoutMs : Option Nat
  primaryScope : Option Scope
  fallbackScope : Option Scope
  sessionQuota : Option Nat
  exportFormat : Option String
  deriving DecidableEq, Repr

namespace Config

/-- The layer that sets nothing. -/
def empty : Config := ⟨none, none, none, none, none, none, none, none⟩

/-- Bytes that the session cache may take unless configured otherwise: ten binary megabytes. -/
def defaultQuota : Nat := 10 * 1024 * 1024

/-- The layer that is always there. -/
def builtIn : Config where
  agentUrl := some defaultAgentUrl
  tokenHeader := some defaultTokenHeader
  maxRows := some OptionBounds.maxRows.default
  timeoutMs := some OptionBounds.timeoutMs.default
  primaryScope := some .full
  fallbackScope := some .main
  sessionQuota := some defaultQuota
  exportFormat := some ExportFormat.csv.name

/-! ## 1. Layers -/

/-- Lay a second layer over the first. -/
def merge (lower upper : Config) : Config where
  agentUrl := upper.agentUrl.or lower.agentUrl
  tokenHeader := upper.tokenHeader.or lower.tokenHeader
  maxRows := upper.maxRows.or lower.maxRows
  timeoutMs := upper.timeoutMs.or lower.timeoutMs
  primaryScope := upper.primaryScope.or lower.primaryScope
  fallbackScope := upper.fallbackScope.or lower.fallbackScope
  sessionQuota := upper.sessionQuota.or lower.sessionQuota
  exportFormat := upper.exportFormat.or lower.exportFormat

/-- All layers, from the lowest up. -/
def mergeAll : List Config → Config
  | [] => empty
  | layer :: rest => rest.foldl merge layer

/-! ## 2. Overrides -/

/-- What the environment sets. -/
structure Overrides where
  agentUrl : Option String
  exportFormat : Option String
  deriving DecidableEq, Repr

/-- Lay the environment over a configuration. A blank address does not count. -/
def withOverrides (c : Config) (o : Overrides) : Config where
  agentUrl := (o.agentUrl.filter fun url => !isAllBlank url).or c.agentUrl
  tokenHeader := c.tokenHeader
  maxRows := c.maxRows
  timeoutMs := c.timeoutMs
  primaryScope := c.primaryScope
  fallbackScope := c.fallbackScope
  sessionQuota := c.sessionQuota
  exportFormat := o.exportFormat.or c.exportFormat

/-! ## 3. What holds -/

def effectiveUrl (c : Config) : String := c.agentUrl.getD defaultAgentUrl

def effectiveHeader (c : Config) : String := c.tokenHeader.getD defaultTokenHeader

def rowBounds (c : Config) : OptionBounds :=
  match c.maxRows with
  | none => .maxRows
  | some n => OptionBounds.maxRows.withDefault n

def timeoutBounds (c : Config) : OptionBounds :=
  match c.timeoutMs with
  | none => .timeoutMs
  | some n => OptionBounds.timeoutMs.withDefault n

def effectivePrimary (c : Config) : Scope := c.primaryScope.getD .full

def effectiveFallback (c : Config) : Scope := c.fallbackScope.getD .main

def effectiveQuota (c : Config) : Nat := c.sessionQuota.getD defaultQuota

/-- The export format; a name that is not known means comma separated values. -/
def effectiveFormat (c : Config) : ExportFormat :=
  match c.exportFormat.map ExportFormat.parse with
  | some (.ok format) => format
  | _ => .csv

/-! ## 4. One file -/

/-- The fields of a section: by name, or by place where the section is a list. -/
def sectionFields (names : List String) : Toml → Option (List (Option Toml))
  | .table _ entries => some (names.map (Toml.lookup · entries))
  | .list items => some (names.zipIdx.map fun (_, i) => items[i]?)
  | .tables each => some (names.zipIdx.map fun (_, i) =>
      each.reverse[i]?.map (Toml.table .header))
  | _ => none

def text? : Toml → Option String
  | .str s => some s
  | _ => none

/-- A whole number that is not negative. -/
def nat? : Toml → Option Nat
  | .int i => if 0 ≤ i then some i.toNat else none
  | _ => none

def isEmptyValue : Toml → Bool
  | .table _ [] => true
  | .list [] => true
  | .tables [] => true
  | _ => false

/-- A scope by its exact name, which may also be the one name in a table that holds nothing. -/
def scope? : Toml → Option Scope
  | .str s => Scope.ofName? s
  | .table _ [(name, value)] => if isEmptyValue value then Scope.ofName? name else none
  | _ => none

/-- A setting that may be missing, but not wrong. -/
def setting {α : Type} (read : Toml → Option α) : Option Toml → Option (Option α)
  | none => some none
  | some v => (read v).map some

/-- A section that may be missing. -/
def fieldsAt (name : String) (names : List String) (entries : Toml.Entries) :
    Option (List (Option Toml)) :=
  match Toml.lookup name entries with
  | none => some (names.map fun _ => none)
  | some v => sectionFields names v

/-- The layer that a document makes. -/
def ofEntries? (entries : Toml.Entries) : Option Config := do
  let agent ← fieldsAt "agent" ["url", "token_header"] entries
  let query ← fieldsAt "query" ["max_rows", "timeout_ms"] entries
  let capture ←
    fieldsAt "capture" ["primary_scope", "fallback_scope", "session_quota_bytes"] entries
  let output ← fieldsAt "export" ["format"] entries
  match agent, query, capture, output with
  | [url, header], [rows, timeout], [primary, fallback, quota], [format] =>
    return ⟨← setting text? url, ← setting text? header, ← setting nat? rows,
      ← setting nat? timeout, ← setting scope? primary, ← setting scope? fallback,
      ← setting nat? quota, ← setting text? format⟩
  | _, _, _, _ => none

/-- The layer that a file's text makes. -/
def ofText? (text : String) : Option Config := (Toml.ofText? text).bind ofEntries?

/-- The layer of a file that is there. `refusal` is what the parser says of a text that is none. -/
def readFile (refusal : String → String) (d : Disk) (path : String) : Except Fault Config :=
  match d.readText path with
  | .error e => .error (e.fault.within ("failed to read config file: " ++ path))
  | .ok text =>
    match ofText? text with
    | some c => .ok c
    | none =>
      let fault := (Fault.root (refusal text)).within "failed to parse TOML config"
      .error (fault.within ("in config file " ++ path))

/-- The layer of a file that may not be there. -/
def layerOf (refusal : String → String) (d : Disk) (path : String) :
    Except Fault (List Config) :=
  if d.exists? path then (readFile refusal d path).map fun c => [c] else .ok []

/-! ## 5. All layers -/

/-- The directory of the workspace. -/
def workspaceRoot (d : Disk) : String :=
  ((Path.ancestors d.currentPath).find? fun p => d.exists? (Path.join p ".git")).getD
    d.currentPath

/-- Load the configuration. `home` is the directory of the user's configuration files. -/
def load (refusal : String → String) (d : Disk) (home : Option String) (overrides : Overrides) :
    Except Fault Config := do
  let user ← match home with
    | some h => layerOf refusal d (Path.join h "markql/config.toml")
    | none => .ok []
  let workspace ← layerOf refusal d (Path.join (workspaceRoot d) ".markql/config.toml")
  return (mergeAll (builtIn :: (user ++ workspace))).withOverrides overrides

end Config

end PageQuery
