import PageQuery.CommandLine.Run
/-!
The program.

A run works on an image of the files that its arguments and its configuration can name; what it
changed in the image is written back at the end. Neither network nor clipboard is within reach here,
so addresses do not answer and copies are refused. The readers of this library only say that a text is
refused, so they have one word for it each.
-/

namespace PageQuery.Program

open CommandLine

/-! ## 1. Which files -/

/-- What an argument can name: itself, or what stands behind an equals sign. -/
def namedPaths (arg : String) : List String :=
  match Text.pieces '=' arg.toList with
  | _ :: value :: more => [arg, String.ofList (Text.joinWith ['='] (value :: more))]
  | _ => [arg]

/-- The paths that a run can look at. -/
def imagePaths (current : String) (home : Option String) (args : List String) : List String :=
  let around := (Path.ancestors current).flatMap fun p =>
    [p, Path.join p ".git", Path.join p ".markql/config.toml"]
  let settings := home.toList.flatMap fun h =>
    [Path.join h "markql/config.toml", Station.settingsPath h]
  let given := (args.flatMap namedPaths).flatMap fun p => (Path.parent? p).toList ++ [p]
  around ++ settings ++ given

/-! ## 2. The image -/

/-- What is at a path, if anything is. What is of the wrong type to be read is a directory. -/
def entryAt (path : String) : IO (Option Entry) := do
  try return some (.file (.ofBytes (← IO.FS.readBinFile path).toList))
  catch
    | .inappropriateType .. => return some .directory
    | _ => return none

/-- Put a file into an image, with the directories it lies in. -/
def withFile (d : Disk) (path : String) (content : Content) : Disk :=
  let d := ((Path.parent? path).bind fun p => (d.makeDirectories p).toOption).getD d
  (d.writeContent path content).toOption.getD d

/-- Take what is at a path into an image. -/
def takePath (d : Disk) (path : String) : IO Disk := do
  match ← entryAt path with
  | some .directory => return (d.makeDirectories path).toOption.getD d
  | some (.file content) => return withFile d path content
  | none => return d

def imageOf (current : String) (paths : List String) : IO Disk := do
  let root : Disk := ⟨[], []⟩
  let d := (root.makeDirectories current).toOption.getD root
  let d := { d with current := (d.find current).toOption.getD [] }
  paths.foldlM takePath d

/-- Write back the files whose text is not what it was. -/
def writeBack (before after : Disk) : IO Unit := do
  for (place, entry) in after.entries do
    match entry with
    | .file (.text s) =>
      let path := "/" ++ "/".intercalate place
      if (before.readText path).toOption != some s then
        if let some parent := Path.parent? path then IO.FS.createDirAll parent
        IO.FS.writeFile path s
    | _ => pure ()

/-! ## 3. The run -/

/-- The directory of configuration files. -/
def configHome : IO (Option String) := do
  match ← IO.getEnv "XDG_CONFIG_HOME", ← IO.getEnv "HOME" with
  | some h, userHome =>
    if Path.isAbsolute h then return some h else return userHome.map (Path.join · ".config")
  | none, userHome => return userHome.map (Path.join · ".config")

/-- What the readers of this library say of a text that they refuse. -/
def plainWords : Wording where
  message _ := "not JSON"
  result _ := "not a query result"
  settings _ := "not an object of texts"
  config _ := "not a configuration"

/-- Run the program on an image of the files at hand. -/
def runOnFiles (args : List String) : IO UInt32 := do
  let home ← configHome
  let current := toString (← IO.currentDir)
  let disk ← imageOf current (imagePaths current home args)
  let input ← if args.contains "relay" then (← IO.getStdin).readToEnd else pure ""
  let surroundings : Surroundings :=
    { home := home
      overrides := ⟨← IO.getEnv "MARKQL_AGENT_URL", ← IO.getEnv "MARKQL_EXPORT_FORMAT"⟩
      token := ← IO.getEnv "MARKQL_TOKEN"
      input := input
      words := plainWords }
  let (outcome, world) := run surroundings args ⟨disk, .silent, .absent⟩
  writeBack disk world.disk
  (← IO.getStdout).putStr outcome.printed.out
  for line in outcome.printed.notes do (← IO.getStderr).putStrLn line
  return outcome.code.toUInt32

end PageQuery.Program

def main (args : List String) : IO UInt32 := PageQuery.Program.runOnFiles args
