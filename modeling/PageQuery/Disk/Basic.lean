import PageQuery.Text.Basic
import PageQuery.Fault
/-!
A file system as a value.

A path is a text whose names are separated by slashes. Empty names and dots after the first place
say nothing, so `parent?` passes over them; the text that is left keeps its spelling.

A `Disk` maps absolute places to files and directories and has a current directory. Reading and
writing answer as a hierarchical file system does: a name that is missing, a file where a directory
is needed and a directory where a file is needed are told apart. A file's content is kept as text
where its bytes are UTF-8, so reading text back gives exactly what was written.

`writeExport` is the specification's export to a file (§4.3, `write_export`): the directories that
the file lies in are made first.
-/

namespace PageQuery.Path

open Text

/-! ## 1. Paths as text -/

/-- The pieces of a path between slashes. -/
def parts (path : String) : List String := (pieces '/' path.toList).map String.ofList

def isAbsolute (path : String) : Bool := path.toList.head? == some '/'

/-- A piece that names something; a leading dot in a relative path counts. -/
def isName (absolute : Bool) (index : Nat) (part : String) : Bool :=
  part != "" && (part != "." || (index == 0 && !absolute))

/-- The indices of the pieces that name something. -/
def nameIndices (path : String) : List Nat :=
  ((parts path).zipIdx.filter fun (part, i) => isName (isAbsolute path) i part).map (·.2)

/-- The path without its last name. The root and the empty path have no parent; the parent of a
single relative name is the empty path. -/
def parent? (path : String) : Option String :=
  match (nameIndices path).reverse with
  | [] => none
  | [_] => some (if isAbsolute path then "/" else "")
  | _ :: previous :: _ => some ("/".intercalate ((parts path).take (previous + 1)))

/-- A path inside a directory. An absolute path stays as it is. -/
def join (directory path : String) : String :=
  if isAbsolute path || directory == "" then path
  else if directory.toList.getLast? == some '/' then directory ++ path
  else directory ++ "/" ++ path

/-- The path and all that it lies in, innermost first. -/
def ancestors (path : String) : List String := go path.length path
where
  go : Nat → String → List String
    | 0, p => [p]
    | steps + 1, p =>
      match parent? p with
      | none => [p]
      | some q => p :: go steps q

end PageQuery.Path

namespace PageQuery

/-- What stands in the way of a file operation. -/
inductive DiskError where
  | notFound
  | isDirectory
  | alreadyExists
  | notDirectory
  | notText
  | noTree
  deriving DecidableEq, Repr

/-- The system's wording. -/
def DiskError.message : DiskError → String
  | notFound => "No such file or directory (os error 2)"
  | isDirectory => "Is a directory (os error 21)"
  | alreadyExists => "File exists (os error 17)"
  | notDirectory => "Not a directory (os error 20)"
  | notText => "stream did not contain valid UTF-8"
  | noTree => "failed to create whole tree"

def DiskError.fault (e : DiskError) : Fault := .root e.message

/-- What a file holds. -/
inductive Content where
  | text (s : String)
  /-- Bytes that are not UTF-8. -/
  | raw (bytes : List UInt8)

/-- The content that bytes make. -/
def Content.ofBytes (bytes : List UInt8) : Content :=
  match String.fromUTF8? ⟨bytes.toArray⟩ with
  | some s => .text s
  | none => .raw bytes

inductive Entry where
  | file (content : Content)
  | directory

/-- A place in the tree: the names from the root. -/
abbrev Place := List String

structure Disk where
  current : Place
  entries : List (Place × Entry)

namespace Disk

/-! ## 2. Places -/

/-- The entry at a place. The root is always there. -/
def entry? (d : Disk) (place : Place) : Option Entry :=
  if place = [] then some .directory
  else (d.entries.find? (fun item => item.1 == place)).map (·.2)

/-- Put an entry at a place, over what was there. -/
def put (d : Disk) (place : Place) (e : Entry) : Disk :=
  { d with entries := (place, e) :: d.entries.filter (fun item => item.1 != place) }

/-- Where a path starts: at the root or in the current directory. -/
def origin (d : Disk) (path : String) : Place :=
  if Path.isAbsolute path then [] else d.current

/-- Go from a place by one name. The place must be a directory. -/
def enter (d : Disk) (place : Place) (name : String) : Except DiskError Place :=
  match d.entry? place with
  | none => .error .notFound
  | some (.file _) => .error .notDirectory
  | some .directory =>
    if name = "" ∨ name = "." then .ok place
    else if name = ".." then .ok place.dropLast
    else
      let next := place ++ [name]
      match d.entry? next with
      | none => .error .notFound
      | some _ => .ok next

/-- The place that a path names, if everything on the way is there. -/
def find (d : Disk) (path : String) : Except DiskError Place :=
  if path = "" then .error .notFound
  else (Path.parts path).foldlM d.enter (d.origin path)

def exists? (d : Disk) (path : String) : Bool :=
  match d.find path with
  | .ok place => (d.entry? place).isSome
  | .error _ => false

def isDirectory (d : Disk) (path : String) : Bool :=
  match d.find path with
  | .error _ => false
  | .ok place =>
    match d.entry? place with
    | some .directory => true
    | _ => false

/-- The path of the current directory. -/
def currentPath (d : Disk) : String := "/" ++ "/".intercalate d.current

/-! ## 3. Files -/

/-- The text of a file. -/
def readText (d : Disk) (path : String) : Except DiskError String := do
  match d.entry? (← d.find path) with
  | some (.file (.text s)) => .ok s
  | some (.file (.raw _)) => .error .notText
  | some .directory => .error .isDirectory
  | none => .error .notFound

/-- The place at which a path would make an entry: its directory must be there. The second part is
missing where the path ends in no name of its own. -/
def target (d : Disk) (path : String) : Except DiskError (Place × Option String) := do
  if path = "" then .error .notFound
  else
    let parts := Path.parts path
    let directory ← parts.dropLast.foldlM d.enter (d.origin path)
    match parts.getLast? with
    | none => .error .notFound
    | some name =>
      if name = "" ∨ name = "." ∨ name = ".." then .ok (directory, none)
      else .ok (directory, some name)

/-- Give a file a new content, making the file if it is not there. -/
def writeContent (d : Disk) (path : String) (content : Content) : Except DiskError Disk :=
  match d.find path with
  | .error _ => do
    let (directory, name) ← d.target path
    match d.entry? directory, name with
    | none, _ => .error .notFound
    | some (.file _), _ => .error .notDirectory
    | some .directory, none => .error .isDirectory
    | some .directory, some name => .ok (d.put (directory ++ [name]) (.file content))
  | .ok place =>
    match d.entry? place with
    | some .directory => .error .isDirectory
    | _ => .ok (d.put place (.file content))

def writeText (d : Disk) (path : String) (s : String) : Except DiskError Disk :=
  d.writeContent path (.text s)

/-- Take a file away. -/
def removeFile (d : Disk) (path : String) : Except DiskError Disk := do
  let place ← d.find path
  match d.entry? place with
  | some .directory => .error .isDirectory
  | _ => .ok { d with entries := d.entries.filter (fun item => item.1 != place) }

/-! ## 4. Directories -/

/-- Make one directory. -/
def makeDirectory (d : Disk) (path : String) : Except DiskError Disk :=
  match d.find path with
  | .ok _ => .error .alreadyExists
  | .error _ => do
    let trimmed := String.ofList ((path.toList.reverse.dropWhile (· == '/')).reverse)
    let (directory, name) ← d.target trimmed
    match d.entry? directory, name with
    | none, _ => .error .notFound
    | some (.file _), _ => .error .notDirectory
    | some .directory, none => .error .notFound
    | some .directory, some name => .ok (d.put (directory ++ [name]) .directory)

/-- Make a directory and the directories it lies in, in at most the given number of steps. -/
def makeDirectoriesIn : Nat → Disk → String → Except DiskError Disk
  | 0, _, _ => .error .noTree
  | steps + 1, d, path =>
    if path = "" then .ok d
    else
      let again (d : Disk) : Except DiskError Disk :=
        match d.makeDirectory path with
        | .ok d => .ok d
        | .error e => if d.isDirectory path then .ok d else .error e
      match d.makeDirectory path with
      | .ok d => .ok d
      | .error .notFound =>
        match Path.parent? path with
        | none => .error .noTree
        | some parent => (makeDirectoriesIn steps d parent).bind again
      | .error e => if d.isDirectory path then .ok d else .error e

/-- Make a directory and the directories it lies in. A directory that is there is left alone. -/
def makeDirectories (d : Disk) (path : String) : Except DiskError Disk :=
  makeDirectoriesIn (path.length + 2) d path

/-! ## 5. Exports -/

/-- Write a text to a path whose directories may still have to be made. -/
def writeExport (d : Disk) (path text : String) : Except Fault Unit × Disk :=
  let write (d : Disk) : Except Fault Unit × Disk :=
    match d.writeText path text with
    | .ok d => (.ok (), d)
    | .error e => (.error (e.fault.within ("failed to write export output to " ++ path)), d)
  match Path.parent? path with
  | none => write d
  | some parent =>
    match d.makeDirectories parent with
    | .ok d => write d
    | .error e => (.error (e.fault.within ("failed to create export directory: " ++ parent)), d)

end Disk

end PageQuery
