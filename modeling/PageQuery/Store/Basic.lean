import PageQuery.Disk.Basic
import PageQuery.Json.Draft
import PageQuery.Json.Value
import PageQuery.Fault
import PageQuery.Number.Double
/-!
Stores of texts under keys (specification §6, Persisted state).

The settings file (`FileSettingsStore`) holds one JSON object of texts, indented, with its keys in
order. A file that is not there counts as empty; one that does not decode is never overwritten, and
the fault carries the cause that the JSON parser gives.

The session cache (`MemorySessionCache`) keeps texts in memory, and all its keys and values together
never take more bytes than its quota. Several entries are stored at once or not at all.
-/

namespace PageQuery

open Json Number

/-! ## 1. Values -/

/-- Texts under keys, in the order of the keys. -/
abbrev SettingsMap := List (String × String)

namespace SettingsMap

def get? (m : SettingsMap) (key : String) : Option String := (m.find? (·.1 == key)).map (·.2)

/-- Put a value under a key, in its place in the order. -/
def insert (key value : String) : SettingsMap → SettingsMap
  | [] => [(key, value)]
  | (k, v) :: rest =>
    if key < k then (key, value) :: (k, v) :: rest
    else if k = key then (key, value) :: rest
    else (k, v) :: insert key value rest

/-- The map of a list of entries in which the last one for a key counts. -/
def ofList (entries : List (String × String)) : SettingsMap :=
  entries.foldl (fun m e => insert e.1 e.2 m) []

/-- A field of the object. -/
def entry? : Option String × Draft → Option (String × String)
  | (some k, .leaf (some (.str v))) => some (k, v)
  | _ => none

/-- Read a file's text. -/
def ofText? (text : String) : Option SettingsMap :=
  match Draft.ofText? text.toList with
  | some (.obj fields) => (fields.mapM entry?).map ofList
  | _ => none

/-- Write a file's text. -/
def toText (m : SettingsMap) : String :=
  (Json.obj (m.map fun (k, v) => (k, .str v))).renderPretty

end SettingsMap

/-! ## 2. The file -/

/-- Settings kept in the file at a path. -/
structure SettingsFile where
  path : String
  /-- What the parser says of a text that is no object of texts. -/
  refusal : String → String

namespace SettingsFile

def load (f : SettingsFile) (d : Disk) : Except Fault SettingsMap :=
  if d.exists? f.path then
    match d.readText f.path with
    | .error e => .error (e.fault.within ("failed to read settings file at " ++ f.path))
    | .ok text =>
      match SettingsMap.ofText? text with
      | some m => .ok m
      | none =>
        .error ((Fault.root (f.refusal text)).within ("invalid settings data in " ++ f.path))
  else .ok []

def get (f : SettingsFile) (key : String) (d : Disk) : Except Fault (Option String) :=
  (f.load d).map fun m => m.get? key

/-- Make the directory that the file lies in. -/
def makeHome (f : SettingsFile) (d : Disk) : Except Fault Disk :=
  match Path.parent? f.path with
  | none => .ok d
  | some directory =>
    match d.makeDirectories directory with
    | .ok d => .ok d
    | .error e =>
      .error (e.fault.within ("failed to create settings directory " ++ directory))

/-- Put a value under a key, and keep all others. -/
def set (f : SettingsFile) (key value : String) (d : Disk) : Except Fault Unit × Disk :=
  match f.load d with
  | .error e => (.error e, d)
  | .ok m =>
    match f.makeHome d with
    | .error e => (.error e, d)
    | .ok d =>
      match d.writeText f.path (m.insert key value).toText with
      | .ok d => (.ok (), d)
      | .error e => (.error (e.fault.within ("failed to write settings file to " ++ f.path)), d)

end SettingsFile

/-! ## 3. The session cache -/

/-- Texts under keys, with a limit on their bytes. -/
structure SessionCache where
  quota : Nat
  entries : List (String × String)
  deriving DecidableEq, Repr

namespace SessionCache

def empty (quota : Nat) : SessionCache := ⟨quota, []⟩

def get? (c : SessionCache) (key : String) : Option String :=
  (c.entries.find? (·.1 == key)).map (·.2)

/-- The bytes that entries take. -/
def bytes (entries : List (String × String)) : Nat :=
  (entries.map fun e => e.1.utf8ByteSize + e.2.utf8ByteSize).foldr (· + ·) 0

/-- The entries that stay when others are stored: those whose key is not given anew. -/
def kept (c : SessionCache) (fresh : List (String × String)) : List (String × String) :=
  c.entries.filter fun e => !fresh.any (·.1 == e.1)

/-- The bytes that the cache is charged with for storing entries. -/
def projected (c : SessionCache) (fresh : List (String × String)) : Nat :=
  bytes (c.kept fresh) + bytes fresh

/-- Put a value under a key. -/
def put (entries : List (String × String)) (e : String × String) : List (String × String) :=
  match entries with
  | [] => [e]
  | old :: rest => if old.1 = e.1 then e :: rest else old :: put rest e

def quotaFault (needed quota : Nat) : Fault :=
  .root ("session cache quota exceeded (" ++ String.ofList (naturalDigits needed) ++ " > " ++
    String.ofList (naturalDigits quota) ++ " bytes)")

/-- Store entries, unless that would take more bytes than the quota. -/
def setMany (c : SessionCache) (fresh : List (String × String)) : Except Fault SessionCache :=
  if c.quota < c.projected fresh then .error (quotaFault (c.projected fresh) c.quota)
  else .ok { c with entries := fresh.foldl put c.entries }

end SessionCache

end PageQuery
