import PageQuery.Result.Table
import PageQuery.Text.Basic
import PageQuery.Json.Value
import PageQuery.Capture.Snapshot
import PageQuery.Calendar
import PageQuery.Disk.Basic
import PageQuery.Fault
/-!
Writing results down and delivering them (specification §4.3, Export).

`Csv` is `csv_escape` and `build_csv`: a field is quoted only if it holds a quote, a comma or a line
break, and a quote inside it is written twice; the header comes first, then a line for each row, with
line feeds between them.

`Records` is `build_json`: each row becomes an object of its cells under the column names. Where a
name comes again the object keeps the name's first place and its last cell.

`exportResult` is the exporter's `export`: it renders the result once. The file is written before the
text is copied, a failed write ends the export, and without a result nothing is touched.
-/

namespace PageQuery.Csv

open Text

/-! ## 1. Comma separated values -/

/-- The characters that make a field need quotes. -/
def isSpecial (c : Char) : Bool := c == '"' || c == ',' || c == '\r' || c == '\n'

/-- Write every quote twice. -/
def doubleQuotes (cs : List Char) : List Char :=
  cs.flatMap fun c => if c = '"' then ['"', '"'] else [c]

/-- A field as it is written. -/
def escape (cs : List Char) : List Char :=
  if cs.any isSpecial then '"' :: (doubleQuotes cs ++ ['"']) else cs

/-- A record: its fields with commas between them. -/
def record (fields : List (List Char)) : List Char := joinWith [','] (fields.map escape)

/-- The fields of a row, nulls added for the columns it does not reach. -/
def rowFields (r : QueryResult) (row : List Json) : List (List Char) :=
  (r.padded row).map cellText

/-- A result as comma separated values. -/
def render (r : QueryResult) : List Char :=
  joinWith ['\n'] (record (r.columns.map String.toList) :: r.rows.map fun row =>
    record (rowFields r row))

end PageQuery.Csv

namespace PageQuery.Records

open Json

/-! ## 2. JSON records -/

/-- The object of a row. -/
def record (columns : List String) (row : List Json) : Json :=
  .obj (ofFields (columns.zipIdx.map fun (name, i) => (name, QueryResult.cell row i)))

/-- All rows as an array of objects. -/
def value (r : QueryResult) : Json := .arr (r.rows.map (record r.columns))

/-- A result as indented JSON text. -/
def render (r : QueryResult) : List Char := (value r).indented 0

end PageQuery.Records

namespace PageQuery

open Text

/-! ## 3. Formats and file names -/

/-- How a result is written down. -/
inductive ExportFormat where
  /-- Comma separated values with a header. -/
  | csv
  /-- An indented array of objects. -/
  | json
  deriving DecidableEq, Repr

namespace ExportFormat

def name : ExportFormat → String
  | csv => "csv"
  | json => "json"

/-- The name in status lines. -/
def label : ExportFormat → String
  | csv => "CSV"
  | json => "JSON"

/-- The ending of a file in this format. -/
def extension (f : ExportFormat) : String := f.name

/-- The format of exactly this name. -/
def ofName? (s : String) : Option ExportFormat :=
  if s = "csv" then some csv else if s = "json" then some json else none

/-- The format that a text names, whatever its case and the blanks around it. The text that was
looked up is the failure's. -/
def parse (s : String) : Except String ExportFormat :=
  let key := lowered (trim s)
  match ofName? key with
  | some format => .ok format
  | none => .error key

/-- The wording for a text that names no format. -/
def unknownMessage (key : String) : String := "unknown export format '" ++ key ++ "'"

/-- A result in this format. -/
def render (f : ExportFormat) (r : QueryResult) : String :=
  match f with
  | csv => String.ofList (Csv.render r)
  | json => String.ofList (Records.render r)

end ExportFormat

/-- The path of an export made at a time, in a directory. -/
def defaultExportPath (directory : String) (format : ExportFormat) (t : Calendar.Time) : String :=
  Path.join directory
    ("markql-results-" ++ String.ofList (Calendar.stamp t) ++ "." ++ format.extension)

/-! ## 4. Delivery -/

/-- Where exports go. Each outlet answers from, and may change, a state that is not ours. -/
structure Outlets (σ : Type) where
  write : String → String → σ → Except Fault Unit × σ
  copy : String → σ → Except Fault Unit × σ

structure ExportOptions where
  format : ExportFormat
  path : Option String
  copy : Bool

/-- What an export delivered. -/
structure Exported where
  rendered : String
  rows : Nat
  path : Option String
  copied : Bool

/-- Write the rendering to the path, if one is given. -/
def Outlets.writeTo {σ : Type} (o : Outlets σ) (path : Option String) (rendered : String)
    (s : σ) : Except ClientError Unit × σ :=
  match path with
  | none => (.ok (), s)
  | some p =>
    match o.write p rendered s with
    | (.ok _, s) => (.ok (), s)
    | (.error f, s) => (.error (.write f.message), s)

/-- Copy the rendering, if that is asked for. -/
def Outlets.copyIf {σ : Type} (o : Outlets σ) (wanted : Bool) (rendered : String) (s : σ) :
    Except ClientError Unit × σ :=
  if wanted then
    match o.copy rendered s with
    | (.ok _, s) => (.ok (), s)
    | (.error f, s) => (.error (.clipboard f.message), s)
  else (.ok (), s)

/-- Render the result and deliver it as the options ask. -/
def exportResult {σ : Type} (o : Outlets σ) (result : Option QueryResult)
    (options : ExportOptions) (s : σ) : Except ClientError Exported × σ :=
  match result with
  | none => (.error .noResult, s)
  | some r =>
    let rendered := options.format.render r
    match o.writeTo options.path rendered s with
    | (.error e, s) => (.error e, s)
    | (.ok _, s) =>
      match o.copyIf options.copy rendered s with
      | (.error e, s) => (.error e, s)
      | (.ok _, s) => (.ok ⟨rendered, r.rows.length, options.path, options.copy⟩, s)

end PageQuery
