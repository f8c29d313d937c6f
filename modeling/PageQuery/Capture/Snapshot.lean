import PageQuery.Text.Basic
/-!
Snapshots of pages.

A snapshot is captured markup with the scope it was taken in and the strategy that chose it. Scopes
and sources have wire names; a source that is not known by name counts as `unknown`.

Specification §3: `ScopeSelection`, `SnapshotSource`, `Snapshot`.
-/

namespace PageQuery

open Text

/-! ## 1. Scopes -/

/-- Which part of a page a capture serializes. -/
inductive Scope where
  /-- The whole document element. -/
  | full
  /-- The main content. -/
  | main
  deriving DecidableEq, Repr

/-- A text in lower case, ASCII letters only. -/
def lowered (s : String) : String := String.ofList (s.toList.map Char.toLower)

namespace Scope

def name : Scope → String
  | full => "full"
  | main => "main"

/-- The scope of exactly this name. -/
def ofName? (s : String) : Option Scope :=
  if s = "full" then some full else if s = "main" then some main else none

/-- The scope that a text names, whatever its case and the blanks around it. The text that was
looked up is the failure's. -/
def parse (s : String) : Except String Scope :=
  let key := lowered (trim s)
  match ofName? key with
  | some scope => .ok scope
  | none => .error key

/-- A scope that may be unreadable. -/
def parse? (s : String) : Option Scope := (parse s).toOption

/-- The wording for a text that names no scope. -/
def unknownMessage (key : String) : String := "unknown capture scope '" ++ key ++ "'"

@[simp] theorem ofName?_name (s : Scope) : ofName? s.name = some s := by
  cases s <;> decide

@[simp] theorem parse?_name (s : Scope) : parse? s.name = some s := by
  cases s <;> decide

end Scope

/-! ## 2. Sources -/

/-- Which strategy chose the markup of a snapshot. -/
inductive Source where
  | preferred
  | heuristic
  | fullFallback
  | empty
  | full
  /-- The reply did not say. -/
  | unknown
  deriving DecidableEq, Repr

namespace Source

def name : Source → String
  | preferred => "preferred"
  | heuristic => "heuristic"
  | fullFallback => "full_fallback"
  | empty => "empty"
  | full => "full"
  | unknown => "unknown"

/-- The source of a wire name. -/
def ofName (s : String) : Source :=
  if s = "preferred" then preferred
  else if s = "heuristic" then heuristic
  else if s = "full_fallback" then fullFallback
  else if s = "empty" then empty
  else if s = "full" then full
  else unknown

@[simp] theorem ofName_name (s : Source) : ofName s.name = s := by
  cases s <;> decide

end Source

/-! ## 3. Snapshots -/

/-- Captured markup and where it comes from. -/
structure Snapshot where
  html : String
  scope : Scope
  source : Source
  sizeBytes : Nat
  deriving DecidableEq, Repr

namespace Snapshot

/-- A snapshot whose size is that of its markup in UTF-8. -/
def ofHtml (html : String) (scope : Scope) (source : Source) : Snapshot :=
  ⟨html, scope, source, html.utf8ByteSize⟩

/-- The snapshot of a document without a root. -/
def blank (scope : Scope) : Snapshot := ofHtml "" scope .empty

end Snapshot

end PageQuery
