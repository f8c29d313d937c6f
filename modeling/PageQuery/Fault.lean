/-!
What can go wrong.

A `Fault` is a failure of the outside world: a cause with the contexts that were put around it. A
`ClientError` is the failure of an action; `ClientError.message` gives each its one wording. A
`Wording` is what the parsers in use say of a text that they refuse.

Specification §7: `ClientError` and its parts.
-/

namespace PageQuery

/-! ## 1. Faults of the outside world -/

/-- A cause and its contexts, the outermost first. -/
structure Fault where
  outer : String
  causes : List String
  deriving DecidableEq, Repr

namespace Fault

/-- A fault without a context. -/
def root (message : String) : Fault := ⟨message, []⟩

/-- Put a context around a fault. -/
def within (context : String) (f : Fault) : Fault := ⟨context, f.outer :: f.causes⟩

/-- All contexts and the cause, from the outside in. -/
def message (f : Fault) : String := ": ".intercalate (f.outer :: f.causes)

end Fault

/-! ## 2. Failures of actions -/

inductive ClientError where
  | missingToken
  | emptyQuery
  | capture (message : String)
  | network (message : String)
  | noResult
  | clipboard (cause : String)
  | write (cause : String)
  | storage (cause : String)
  | busy
  deriving DecidableEq, Repr

namespace ClientError

/-- The wording of a failure. -/
def message : ClientError → String
  | missingToken => "Missing token"
  | emptyQuery => "Query is required"
  | capture m => m
  | network m => m
  | noResult => "No query result to export"
  | clipboard cause => "clipboard unavailable: " ++ cause
  | write cause => "failed to write export: " ++ cause
  | storage cause => "storage failed: " ++ cause
  | busy => "another action is still running"

/-- The failure was found in the inputs, before anything was asked of the outside. -/
def isValidation : ClientError → Bool
  | missingToken | emptyQuery => true
  | _ => false

/-- A failed read or write of a store, with its contexts. -/
def ofStore (f : Fault) : ClientError := storage f.message

end ClientError

/-! ## 3. The words of parsers -/

/-- What the parsers in use say of a text that they refuse: what is wrong with it, and where. The
words are the parsers' own, so all that is said here holds whatever they are. -/
structure Wording where
  /-- Of a line that is no JSON. -/
  message : String → String
  /-- Of the body of a success that is no result. -/
  result : String → String
  /-- Of settings that are no object of texts. -/
  settings : String → String
  /-- Of a configuration that is no layer. -/
  config : String → String

end PageQuery
