import PageQuery.Workbench.Desk
import PageQuery.Capture.Pages
import PageQuery.Config.Basic
import PageQuery.Store.Basic
import PageQuery.Disk.Basic
/-!
Two outsides of a workbench.

A `Station` is that of the command line: pages in tabs, an agent on the network, settings in a file,
and a session cache. These are the collaborators that the program's `workbench` puts together
(specification §10).

The answers of a `Script` are laid down in advance, as they are for a trial (specification §11).
Captures are answered from a list of replies, or from real pages; queries from a list of results. The
stores are kept in memory, and reads and writes of chosen keys fail.
-/

namespace PageQuery

/-! ## 1. The command line -/

structure Station where
  pages : Pages
  agent : Agent
  settings : SettingsFile
  session : SessionCache
  world : World

namespace Station

/-- Where the user's settings are kept, in the directory of configuration files. -/
def settingsPath (home : String) : String := Path.join home "markql/settings.json"

/-- The station that a configuration sets up for pages. -/
def ofConfig (words : Wording) (c : Config) (home : String) (pages : List PageSource) (w : World) :
    Station where
  pages := .ofSources pages
  agent := { Agent.ofBaseUrl words.result c.effectiveUrl with tokenHeader := c.effectiveHeader }
  settings := ⟨settingsPath home, words.settings⟩
  session := .empty c.effectiveQuota
  world := w

def send : Sender Station := fun r s =>
  let (reply, pages, world) := Pages.send r (s.pages, s.world)
  (reply, { s with pages := pages, world := world })

def query (s : Station) (token : String) (r : QueryRequest) :
    Except ClientError QueryResult × Station :=
  let (answer, network) := s.agent.query token r s.world.network
  let s := { s with world := { s.world with network := network } }
  match answer with
  | .ok result => (.ok result, s)
  | .error f => (.error f.toError, s)

def withDisk {α : Type} (s : Station) (outcome : α × Disk) : α × Station :=
  (outcome.1, { s with world := { s.world with disk := outcome.2 } })

def writeSession (s : Station) (entries : List (String × String)) : Except Fault Unit × Station :=
  match s.session.setMany entries with
  | .ok session => (.ok (), { s with session := session })
  | .error f => (.error f, s)

def copy (s : Station) (text : String) : Except Fault Unit × Station :=
  let (outcome, clipboard) := s.world.clipboard.copy text
  (outcome, { s with world := { s.world with clipboard := clipboard } })

/-- What answers the workbench's calls. -/
def environment : Environment Station
  | .activeTab, s => (s.pages.activeTab, s)
  | .capture r, s => send r s
  | .query token r, s => s.query token r
  | .readSetting key, s => (s.settings.get key s.world.disk, s)
  | .writeSetting key value, s => s.withDisk (s.settings.set key value s.world.disk)
  | .readSession key, s => (.ok (s.session.get? key), s)
  | .writeSession entries, s => s.writeSession entries
  | .copy text, s => s.copy text
  | .writeFile path text, s => s.withDisk (s.world.disk.writeExport path text)

end Station

/-! ## 2. The script -/

/-- The keys on which a store fails, and how. -/
structure StoreFaults where
  reads : List String
  writes : List String
  fault : Fault
  deriving DecidableEq, Repr

def StoreFaults.none : StoreFaults := ⟨[], [], .root "fault"⟩

structure Script where
  tab : Except ClientError Nat
  /-- The replies to come. -/
  replies : List (Except ClientError CaptureReply)
  /-- Pages that answer captures instead. -/
  pages : Option Pages
  /-- The results to come. -/
  results : List (Except ClientError QueryResult)
  settings : SettingsMap
  settingsFaults : StoreFaults
  session : SessionCache
  sessionFaults : StoreFaults
  /-- How the clipboard refuses, if it does. -/
  refusal : Option Fault
  /-- What was copied, the latest first. -/
  copies : List String
  world : World

namespace Script

def noReply : ClientError := .capture "no scripted reply"

def noResult : ClientError := .network "no scripted result"

/-! ## 3. Answers -/

def activeTab (s : Script) : Except ClientError Nat :=
  match s.pages with
  | some p => p.activeTab
  | Option.none => s.tab

/-- Answer a capture request. -/
def send : Sender Script := fun r s =>
  match s.pages with
  | some p =>
    let (reply, p, w) := Pages.send r (p, s.world)
    (reply, { s with pages := some p, world := w })
  | Option.none =>
    match s.replies with
    | reply :: rest => (reply, { s with replies := rest })
    | [] => (.error noReply, s)

def answerQuery (s : Script) : Except ClientError QueryResult × Script :=
  match s.results with
  | result :: rest => (result, { s with results := rest })
  | [] => (.error noResult, s)

def readSetting (s : Script) (key : String) : Except Fault (Option String) :=
  if s.settingsFaults.reads.contains key then .error s.settingsFaults.fault
  else .ok (s.settings.get? key)

def writeSetting (s : Script) (key value : String) : Except Fault Unit × Script :=
  if s.settingsFaults.writes.contains key then (.error s.settingsFaults.fault, s)
  else (.ok (), { s with settings := s.settings.insert key value })

def readSession (s : Script) (key : String) : Except Fault (Option String) :=
  if s.sessionFaults.reads.contains key then .error s.sessionFaults.fault
  else .ok (s.session.get? key)

def writeSession (s : Script) (entries : List (String × String)) : Except Fault Unit × Script :=
  if entries.any fun e => s.sessionFaults.writes.contains e.1 then
    (.error s.sessionFaults.fault, s)
  else
    match s.session.setMany entries with
    | .ok session => (.ok (), { s with session := session })
    | .error f => (.error f, s)

def copy (s : Script) (text : String) : Except Fault Unit × Script :=
  match s.refusal with
  | some f => (.error f, s)
  | Option.none => (.ok (), { s with copies := text :: s.copies })

def writeFile (s : Script) (path text : String) : Except Fault Unit × Script :=
  let (outcome, disk) := s.world.disk.writeExport path text
  (outcome, { s with world := { s.world with disk := disk } })

/-- The scripted outside. -/
def environment : Environment Script
  | .activeTab, s => (s.activeTab, s)
  | .capture r, s => send r s
  | .query _ _, s => s.answerQuery
  | .readSetting key, s => (s.readSetting key, s)
  | .writeSetting key value, s => s.writeSetting key value
  | .readSession key, s => (s.readSession key, s)
  | .writeSession entries, s => s.writeSession entries
  | .copy text, s => s.copy text
  | .writeFile path text, s => s.writeFile path text

end Script

end PageQuery
