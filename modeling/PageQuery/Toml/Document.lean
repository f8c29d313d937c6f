import PageQuery.Toml.Scalar
/-!
TOML documents.

A document is read line by line: a header says which table the definitions after it belong to. Lists
and inline tables nest to a fixed depth, on which reading them recurses.

This is the TOML library behind the configuration (specification §9).
-/

namespace PageQuery.Toml

/-! ## 1. Between values -/

/-- A comment at the head of a text is cut off; it may hold no control characters. -/
def dropComment (cs : List Char) : Option (List Char) :=
  match cs with
  | '#' :: rest =>
    some (rest.dropWhile fun c => !isControl c)
  | other => some other

/-- The end of a line: blanks, a comment perhaps, and a line break or the end of the text. -/
def lineEnd? (cs : List Char) : Option (List Char) := do
  let rest ← dropComment (cs.dropWhile isGap)
  match rest with
  | [] => return []
  | rest => if isBreak rest then return dropBreak rest else none

/-- Blanks, line breaks and whole comments, in at most the given number of steps. -/
def dropLoose : Nat → List Char → List Char
  | 0, cs => cs
  | steps + 1, cs =>
    match cs.dropWhile isGap with
    | '#' :: rest =>
      let after := rest.dropWhile fun c => !isControl c
      if isBreak after then dropLoose steps (dropBreak after) else '#' :: rest
    | rest => if isBreak rest then dropLoose steps (dropBreak rest) else rest

def loose (cs : List Char) : List Char := dropLoose cs.length cs

/-! ## 2. Keys -/

def isBareKeyChar (c : Char) : Bool := c.isAlphanum || c == '_' || c == '-'

def simpleKey? (cs : List Char) : Option (String × List Char) :=
  match cs with
  | '"' :: rest => (basicString (rest.length + 1) rest).map fun (s, r) => (String.ofList s, r)
  | '\'' :: rest => (literalString rest).map fun (s, r) => (String.ofList s, r)
  | cs =>
    let name := cs.takeWhile isBareKeyChar
    if name.isEmpty then none else some (String.ofList name, cs.dropWhile isBareKeyChar)

/-- A key of names with dots between them, blanks around each, in at most the given number of
names. -/
def key? : Nat → List Char → Option (List String × List Char)
  | 0, _ => none
  | names + 1, cs => do
    let (name, rest) ← simpleKey? (cs.dropWhile isGap)
    match rest.dropWhile isGap with
    | '.' :: rest =>
      let (more, after) ← key? names rest
      return (name :: more, after)
    | rest => return ([name], rest)

/-- Keys of more names than this are refused. -/
def keyLimit : Nat := 79

/-! ## 3. Values -/

/-- Items up to the closing bracket, in at most the given number of steps. -/
def listItems (item? : List Char → Option (Toml × List Char)) :
    Nat → List Char → Option (List Toml × List Char)
  | 0, _ => none
  | steps + 1, cs =>
    match loose cs with
    | ']' :: rest => some ([], rest)
    | cs => do
      let (item, rest) ← item? cs
      match loose rest with
      | ',' :: rest =>
        let (more, after) ← listItems item? steps rest
        return (item :: more, after)
      | ']' :: rest => return ([item], rest)
      | _ => none

/-- A key, an equals sign and a value. -/
def definition? (value? : List Char → Option (Toml × List Char)) (cs : List Char) :
    Option (List String × Toml × List Char) := do
  let (key, rest) ← key? keyLimit cs
  match rest with
  | '=' :: rest =>
    let (value, after) ← value? (rest.dropWhile isGap)
    return (key, value, after)
  | _ => none

/-- The definitions of an inline table up to its closing brace, in at most the given number of
steps. -/
def tableItems (value? : List Char → Option (Toml × List Char)) :
    Nat → Entries → List Char → Option (Entries × List Char)
  | 0, _, _ => none
  | steps + 1, entries, cs => do
    let (key, value, rest) ← definition? value? cs
    let entries ← insertDotted key value entries
    match rest.dropWhile isGap with
    | ',' :: rest => tableItems value? steps entries rest
    | '\x7d' :: rest => return (entries, rest)
    | _ => none

/-- A value, with lists and tables nested to the given depth. -/
def value? : Nat → List Char → Option (Toml × List Char)
  | 0, cs => scalarValue? cs
  | depth + 1, cs =>
    match cs with
    | '[' :: rest => do
      let (items, after) ← listItems (value? depth) (rest.length + 1) rest
      return (.list items, after)
    | '\x7b' :: rest =>
      match rest.dropWhile isGap with
      | '\x7d' :: after => some (.table .closed [], after)
      | rest => do
        let (entries, after) ← tableItems (value? depth) (rest.length + 1) [] rest
        return (.table .closed entries, after)
    | cs => scalarValue? cs

/-- How deep lists and inline tables may nest. -/
def depthLimit : Nat := 79

/-! ## 4. Lines -/

/-- A document as far as it was read: all its entries, and the header that is in force. -/
structure Reading where
  entries : Entries
  header : List String

def Reading.start : Reading := ⟨[], []⟩

/-- Take a header of a single table. -/
def Reading.openTable (r : Reading) (path : List String) : Option Reading := do
  let name ← path.getLast?
  return ⟨← within (Toml.openTable name) path.dropLast r.entries, path⟩

/-- Take a header of repeated tables. -/
def Reading.openNext (r : Reading) (path : List String) : Option Reading := do
  let name ← path.getLast?
  return ⟨← within (Toml.openNext name) path.dropLast r.entries, path⟩

/-- Take a definition. -/
def Reading.define (r : Reading) (key : List String) (value : Toml) : Option Reading := do
  return { r with entries := ← within (insertDotted key value) r.header r.entries }

/-- Read one line, and more where a value goes on. -/
def readLine (r : Reading) (cs : List Char) : Option (Reading × List Char) := do
  match cs.dropWhile isGap with
  | [] => return (r, [])
  | '#' :: rest => return (r, ← lineEnd? ('#' :: rest))
  | '[' :: '[' :: rest =>
    let (path, rest) ← key? keyLimit rest
    match rest with
    | ']' :: ']' :: rest => return (← r.openNext path, ← lineEnd? rest)
    | _ => none
  | '[' :: rest =>
    let (path, rest) ← key? keyLimit rest
    match rest with
    | ']' :: rest => return (← r.openTable path, ← lineEnd? rest)
    | _ => none
  | rest =>
    if isBreak rest then return (r, dropBreak rest)
    else
      let (key, value, rest) ← definition? (value? depthLimit) rest
      return (← r.define key value, ← lineEnd? rest)

/-- Read lines, in at most the given number. -/
def readLines : Nat → Reading → List Char → Option Reading
  | _, r, [] => some r
  | 0, _, _ => none
  | steps + 1, r, cs => do
    let (r, rest) ← readLine r cs
    readLines steps r rest

/-- The entries of a document. A byte order mark in front says nothing. -/
def ofText? (s : String) : Option Entries :=
  let cs := match s.toList with
    | '\ufeff' :: rest => rest
    | other => other
  (readLines (cs.length + 1) .start cs).map (·.entries)

end PageQuery.Toml
