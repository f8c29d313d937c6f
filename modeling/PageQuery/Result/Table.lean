import PageQuery.Json.Value
import PageQuery.Json.Draft
/-!
Query results: named columns and rows of JSON cells (specification §3, `QueryResult`).

Rows may be shorter or longer than the column list. `padded` fills a short row with nulls up to the
column count and keeps the cells of a long one (`padded_row`).

A cell has a text (`value_to_text`): null is empty and a string stands for itself; containers are
compact JSON. A double that is a whole number below 10 ^ 21 is written without fraction or exponent,
and zero without its sign.

As JSON, `toJson` writes every field. Decoding lets every field of the result be absent, and takes
its default then; a field of the wrong kind makes the whole decoding fail.
-/

namespace PageQuery

open Number Json

/-! ## 1. Tables -/

/-- What the agent says went wrong inside a query that it answered. -/
structure QueryFault where
  code : Option String
  message : String

/-- The table that a query yields. -/
structure QueryResult where
  columns : List String
  rows : List (List Json)
  elapsedMs : Nat
  truncated : Bool
  fault : Option QueryFault

namespace QueryResult

def empty : QueryResult := ⟨[], [], 0, false, none⟩

instance : Inhabited QueryResult := ⟨empty⟩

/-- A row with nulls up to the column count. -/
def padded (r : QueryResult) (row : List Json) : List Json :=
  row ++ List.replicate (r.columns.length - row.length) Json.null

/-- The cell of a row under a column index; a short row has null there. -/
def cell (row : List Json) (column : Nat) : Json := row.getD column Json.null

@[simp] theorem length_padded (r : QueryResult) (row : List Json) :
    (r.padded row).length = max r.columns.length row.length := by
  simp [padded]; omega

end QueryResult

/-! ## 2. The text of a cell -/

/-- A whole double of this magnitude or more keeps its JSON text. -/
def wholeCellLimit : Nat := Nat.pow 10 21

def doubleCell (x : Double) : List Char :=
  if x.isZero then ['0']
  else if x.isIntegral ∧ x.floor.natAbs < wholeCellLimit then x.plainText
  else x.jsonText

/-- The text of one cell. -/
def cellText : Json → List Char
  | .null => []
  | .str s => s.toList
  | .bool b => boolText b
  | .int i => intText i
  | .double x => doubleCell x
  | .arr items => (Json.arr items).compact
  | .obj fields => (Json.obj fields).compact

end PageQuery

namespace PageQuery.QueryResult

open Json Draft

/-! ## 3. Writing -/

def faultJson (f : QueryFault) : Json :=
  .obj [("code", Json.ofOption .str f.code), ("message", .str f.message)]

def columnJson (name : String) : Json := .obj [("name", .str name)]

def toJson (r : QueryResult) : Json :=
  .obj [("columns", .arr (r.columns.map columnJson)),
        ("rows", .arr (r.rows.map .arr)),
        ("elapsed_ms", Json.nat r.elapsedMs),
        ("truncated", .bool r.truncated),
        ("error", Json.ofOption faultJson r.fault)]

/-! ## 4. Reading -/

/-- A column is a record of its name alone. -/
def column? (levels : Levels) (d : Draft) : Option String := do
  match ← record? levels ["name"] d with
  | (_, [name]) => required string? name
  | _ => none

def fault? (levels : Levels) (d : Draft) : Option QueryFault := do
  match ← record? levels ["code", "message"] d with
  | (_, [code, message]) =>
    return ⟨← orElse none (nullable? string?) code, ← orElse "" string? message⟩
  | _ => none

/-- Decode a result, opening at most the given number of levels. -/
def ofDraft? (levels : Levels) (d : Draft) : Option QueryResult := do
  match ← record? levels ["columns", "rows", "elapsed_ms", "truncated", "error"] d with
  | (inner, [columns, rows, elapsed, truncated, fault]) =>
    return { columns := ← orElse [] (list? column? inner) columns
             rows := ← orElse [] (list? (list? Draft.value?) inner) rows
             elapsedMs := ← orElse 0 nat? elapsed
             truncated := ← orElse false bool? truncated
             fault := ← orElse none (nullable? (fault? inner)) fault }
  | _ => none

/-- Decode a result from a JSON value. -/
def ofJson? (v : Json) : Option QueryResult := ofDraft? none v.toDraft

/-- Decode a result from JSON text. -/
def ofText? (s : String) : Option QueryResult :=
  (Draft.ofText? s.toList).bind (ofDraft? Levels.document)

end PageQuery.QueryResult
