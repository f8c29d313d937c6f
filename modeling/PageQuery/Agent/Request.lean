import PageQuery.Number.Double
import PageQuery.Text.Basic
import PageQuery.Json.Draft
/-!
Query requests and their numeric options (specification §4.3 and §6, Agent HTTP contract).

An option has a least, a greatest and a default value (`OptionBounds`). `clampInput` turns what was
typed into a value in range: a finite number is floored and clamped, anything else is the default.
Comparisons are made in double precision, so a bound counts as the double nearest to it.

Every field of a request and of its options is required in JSON; either may be written as an array of
its fields in order.
-/

namespace PageQuery

open Number Text Json Draft

/-! ## 1. Options -/

/-- The range of an option and what it is when nothing usable is given. -/
structure OptionBounds where
  default : Nat
  min : Nat
  max : Nat
  deriving DecidableEq, Repr

/-- A natural number after rounding to double precision. -/
def roundedNat (n : Nat) : Nat :=
  match Double.ofNat? n with
  | some x => x.floor.toNat
  | none => n

namespace OptionBounds

/-- How many rows a query may return. -/
def maxRows : OptionBounds := ⟨2000, 1, 10000⟩

/-- How long the agent may work on a query. -/
def timeoutMs : OptionBounds := ⟨5000, 100, 120000⟩

/-- The same range with another default, itself kept in range. -/
def withDefault (b : OptionBounds) (default : Nat) : OptionBounds :=
  { b with default := if default < b.min then b.min else if b.max < default then b.max else default }

/-- A whole number clamped into the range. -/
def clampWhole (b : OptionBounds) (floored : Int) : Nat :=
  if floored ≤ roundedNat b.min then b.min
  else if (roundedNat b.max : Int) ≤ floored then b.max
  else floored.toNat

/-- A number floored and clamped into the range. What is no number compares with nothing and counts
as zero. -/
def clampValue (b : OptionBounds) : Extended → Nat
  | .finite x => b.clampWhole x.floor
  | .infinite true => b.min
  | .infinite false => b.max
  | .notANumber => 0

/-- What was typed, as a value in range. -/
def clampInput (b : OptionBounds) (input : String) : Nat :=
  match readNumeral (trimChars input.toList) with
  | some (.finite x) => b.clampValue (.finite x)
  | _ => b.default

end OptionBounds

/-- The options of a query. -/
structure QueryOptions where
  maxRows : Nat
  timeoutMs : Nat
  deriving DecidableEq, Repr

/-- The options of a query for which nothing was typed or configured. -/
def QueryOptions.standard : QueryOptions :=
  ⟨OptionBounds.maxRows.default, OptionBounds.timeoutMs.default⟩

/-! ## 2. Requests -/

/-- What the agent is asked. -/
structure QueryRequest where
  html : String
  query : String
  options : QueryOptions
  deriving DecidableEq, Repr

namespace QueryOptions

def toJson (o : QueryOptions) : Json :=
  .obj [("max_rows", .nat o.maxRows), ("timeout_ms", .nat o.timeoutMs)]

def ofDraft? (levels : Levels) (d : Draft) : Option QueryOptions := do
  match ← record? levels ["max_rows", "timeout_ms"] d with
  | (_, [maxRows, timeoutMs]) => return ⟨← required nat? maxRows, ← required nat? timeoutMs⟩
  | _ => none

end QueryOptions

namespace QueryRequest

def toJson (r : QueryRequest) : Json :=
  .obj [("html", .str r.html), ("query", .str r.query), ("options", r.options.toJson)]

def ofDraft? (levels : Levels) (d : Draft) : Option QueryRequest := do
  match ← record? levels ["html", "query", "options"] d with
  | (inner, [html, query, options]) =>
    return ⟨← required string? html, ← required string? query,
      ← required (QueryOptions.ofDraft? inner) options⟩
  | _ => none

def ofJson? (v : Json) : Option QueryRequest := ofDraft? none v.toDraft

end QueryRequest

end PageQuery
