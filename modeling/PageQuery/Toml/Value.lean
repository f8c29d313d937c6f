/-!
TOML values, and how a document's tables come together.

A document names tables in three ways: by a header, by a header of a table inside, and by a dotted
key. Which way decides what may still be added to a table, so a table remembers it. The functions
here answer nothing where a document would define something twice.
-/

namespace PageQuery

/-- How a table came to be. -/
inductive Origin where
  /-- By its own header. -/
  | header
  /-- By the header of a table inside it. -/
  | implied
  /-- By a dotted key. -/
  | dotted
  /-- As a value, complete where it stands. -/
  | closed
  deriving DecidableEq

inductive Toml where
  | str (value : String)
  | int (value : Int)
  | bool (value : Bool)
  /-- A number that is not whole. -/
  | fraction
  /-- A date, a time or both. -/
  | moment
  | list (items : List Toml)
  | table (origin : Origin) (entries : List (String × Toml))
  /-- Tables under repeated headers, the latest first. -/
  | tables (each : List (List (String × Toml)))

namespace Toml

instance : Inhabited Toml := ⟨bool false⟩

/-- Values under names, in the order in which they were defined. -/
abbrev Entries := List (String × Toml)

def lookup (name : String) (entries : Entries) : Option Toml :=
  (entries.find? (·.1 == name)).map (·.2)

/-- Put another value under a name that is there. -/
def replace (name : String) (value : Toml) (entries : Entries) : Entries :=
  entries.map fun e => if e.1 == name then (name, value) else e

/-- Define a name that is not there yet. -/
def define (name : String) (value : Toml) (entries : Entries) : Option Entries :=
  match lookup name entries with
  | none => some (entries ++ [(name, value)])
  | some _ => none

/-! ## 1. Dotted keys -/

/-- A dotted key may go on inside a table: one made by dotted keys, or on the way also one that a
header implied. -/
def acceptsDotted (origin : Origin) (isLast : Bool) : Bool :=
  match origin with
  | .dotted => true
  | .implied => !isLast
  | _ => false

/-- Define the value of a dotted key. -/
def insertDotted : List String → Toml → Entries → Option Entries
  | [], _, _ => none
  | [name], value, entries => define name value entries
  | name :: next :: rest, value, entries =>
    match lookup name entries with
    | none => do
      let inner ← insertDotted (next :: rest) value []
      return entries ++ [(name, .table .dotted inner)]
    | some (.table origin inner) =>
      if acceptsDotted origin rest.isEmpty then do
        let inner ← insertDotted (next :: rest) value inner
        return replace name (.table origin inner) entries
      else none
    | some (.tables (last :: before)) =>
      if rest.isEmpty then none
      else do
        let last ← insertDotted (next :: rest) value last
        return replace name (.tables (last :: before)) entries
    | some _ => none

/-! ## 2. Headers -/

/-- Change the table at a path of headers, making the tables on the way. -/
def within (change : Entries → Option Entries) : List String → Entries → Option Entries
  | [], entries => change entries
  | name :: rest, entries =>
    match lookup name entries with
    | none => do
      let inner ← within change rest []
      return entries ++ [(name, .table .implied inner)]
    | some (.table origin inner) =>
      if origin = .closed then none
      else do
        let inner ← within change rest inner
        return replace name (.table origin inner) entries
    | some (.tables (last :: before)) => do
      let last ← within change rest last
      return replace name (.tables (last :: before)) entries
    | some _ => none

/-- Define a table by its header. A table that was only implied may still be defined. -/
def openTable (name : String) (entries : Entries) : Option Entries :=
  match lookup name entries with
  | none => some (entries ++ [(name, .table .header [])])
  | some (.table .implied inner) => some (replace name (.table .header inner) entries)
  | some _ => none

/-- Start another table under a repeated header. -/
def openNext (name : String) (entries : Entries) : Option Entries :=
  match lookup name entries with
  | none => some (entries ++ [(name, .tables [[]])])
  | some (.tables each) => some (replace name (.tables ([] :: each)) entries)
  | some _ => none

end Toml

end PageQuery
