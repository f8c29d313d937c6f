import PageQuery.Capture.Message
import PageQuery.Page.Extract
import PageQuery.Html.Document
import PageQuery.World
/-!
Answering capture messages, and pages kept in tabs (specification §6, Capture channel).

`relay` takes a message that names a tab to whatever answers captures (`relay_message`); `answerPage`
answers from a document at hand (`handle_page_message`). Either leaves a message of another type
alone.

A tab's markup comes from a file, from the network or from the command itself, and is loaded anew for
every capture (`LocalPageChannel`, `load_markup`). A handler is installed for a tab before its first
capture (`ensure_handler`); for a file that needs the file to be there. What is installed stays
installed, so it can only change how a failure is worded.
-/

namespace PageQuery

open Json Page Net

/-! ## 1. Answering messages -/

/-- What answers capture requests, from and into a state of its own. -/
abbrev Sender (σ : Type) := CaptureRequest → σ → Except ClientError CaptureReply × σ

/-- The reply that an attempt comes to: what could not be delivered counts as a failed capture. -/
def replyOf : Except ClientError CaptureReply → CaptureReply
  | .ok reply => reply
  | .error e => .failed e.message

/-- The failure of a message without a usable tab. -/
def invalidTab : CaptureReply := .failed "Invalid tab id"

/-- Pass a message on and write the answer. -/
def relay {σ : Type} (send : Sender σ) (message : Json) (s : σ) : Option Json × σ :=
  if messageType? message = some captureMessage then
    match (message.get? "tabId").bind CaptureRequest.tab? with
    | none => (some invalidTab.toJson, s)
    | some tab =>
      let (outcome, s) := send ⟨tab, messageScope message⟩ s
      (some (replyOf outcome).toJson, s)
  else (none, s)

/-- The message asks the page itself. -/
def isPageMessage (message : Json) : Bool :=
  match messageType? message with
  | some type => pageMessages.contains type
  | none => false

/-- Answer a message from the page's document. -/
def answerPage (root : Option Outline) (message : Json) : Option Json :=
  if isPageMessage message then
    some (CaptureReply.ofSnapshot (extract root (messageScope message))).toJson
  else none

/-! ## 2. Sources -/

/-- Where a tab's markup comes from. -/
inductive PageSource where
  | file (path : String)
  | url (url : String)
  | inline (markup : String)
  deriving DecidableEq, Repr

namespace PageSource

/-- An address on the network, by its exact beginning; else the path of a file. -/
def ofText (s : String) : PageSource :=
  if "http://".toList.isPrefixOf s.toList || "https://".toList.isPrefixOf s.toList then url s
  else file s

/-- The source as it is shown. -/
def text : PageSource → String
  | file path => path
  | url u => u
  | inline _ => "<inline>"

end PageSource

/-! ## 3. Documents from markup -/

/-- The outline of a page's markup. -/
def outlineOf (markup : String) : Option Outline :=
  (Html.document markup).bind fun root => root.outline? Node.html

/-- The part of a page that a scope asks for. -/
def captureMarkup (markup : String) (scope : Scope) : Snapshot := extract (outlineOf markup) scope

/-! ## 4. Tabs -/

/-- Open tabs, numbered from one. -/
structure Pages where
  tabs : List PageSource
  active : Option Nat
  /-- The tabs that have a handler. -/
  installed : List Nat
  deriving DecidableEq, Repr

namespace Pages

/-- A tab for each source; the first is active. -/
def ofSources (sources : List PageSource) : Pages :=
  ⟨sources, if sources.isEmpty then none else some 1, []⟩

def source? (p : Pages) (tab : Nat) : Option PageSource :=
  if tab = 0 then none else p.tabs[tab - 1]?

def noTab (tab : Nat) : ClientError :=
  .capture ("No tab with id " ++ String.ofList (Number.naturalDigits tab))

def source (p : Pages) (tab : Nat) : Except ClientError PageSource :=
  match p.source? tab with
  | some s => .ok s
  | none => .error (noTab tab)

def activeTab (p : Pages) : Except ClientError Nat :=
  match p.active with
  | some tab => .ok tab
  | none => .error (.capture "No active tab available")

def setActive (p : Pages) (tab : Nat) : Except ClientError Pages :=
  (p.source tab).map fun _ => { p with active := some tab }

/-! ## 5. Loading -/

/-- Load an address. -/
def loadUrl (url : String) (w : World) : Except ClientError String × World :=
  match w.network.fetch "GET" url [] "" with
  | (.error e, n) =>
    (.error (.capture ("failed to load " ++ url ++ ": " ++ e.message)), { w with network := n })
  | (.ok response, n) =>
    let w := { w with network := n }
    if response.isSuccess then
      match response.text? with
      | some markup => (.ok markup, w)
      | none => (.error (.capture ("failed to read " ++ url ++ ": " ++ brokenBody)), w)
    else (.error (.capture ("HTTP " ++ statusText response.status ++ " for " ++ url)), w)

/-- Load a source's markup. -/
def loadSource (w : World) : PageSource → Except ClientError String × World
  | .inline markup => (.ok markup, w)
  | .file path =>
    match w.disk.readText path with
    | .ok markup => (.ok markup, w)
    | .error e => (.error (.capture ("failed to read " ++ path ++ ": " ++ e.message)), w)
  | .url url => loadUrl url w

/-- Load a tab's markup. -/
def load (p : Pages) (tab : Nat) (w : World) : Except ClientError String × World :=
  match p.source tab with
  | .ok s => loadSource w s
  | .error e => (.error e, w)

/-! ## 6. Captures -/

/-- A handler can be installed over this source. -/
def canInstall (d : Disk) : PageSource → Except ClientError Unit
  | .file path =>
    if d.exists? path then .ok ()
    else .error (.capture ("Could not establish connection: " ++ path ++ " not found"))
  | _ => .ok ()

/-- Make sure that a tab has a handler. -/
def ensureHandler (p : Pages) (tab : Nat) (d : Disk) : Except ClientError Pages :=
  if p.installed.contains tab then .ok p
  else do
    canInstall d (← p.source tab)
    .ok { p with installed := tab :: p.installed }

/-- Answer a capture request. -/
def send : Sender (Pages × World) := fun r (p, w) =>
  match p.ensureHandler r.tab w.disk with
  | .error e => (.error e, p, w)
  | .ok p =>
    match p.load r.tab w with
    | (.error e, w) => (.error e, p, w)
    | (.ok markup, w) => (.ok (.ofSnapshot (captureMarkup markup r.scope)), p, w)

/-- The markup of the active tab. -/
def loadActive (p : Pages) (w : World) : Except ClientError String × World :=
  match p.activeTab with
  | .ok tab => p.load tab w
  | .error e => (.error e, w)

/-- Answer a message: one that asks the page itself from the active tab, any other by relay. -/
def dispatch (message : Json) (s : Pages × World) : Option Json × Pages × World :=
  if isPageMessage message then
    match s.1.loadActive s.2 with
    | (.ok markup, w) => (answerPage (outlineOf markup) message, s.1, w)
    | (.error e, w) => (some (CaptureReply.failed e.message).toJson, s.1, w)
  else relay send message s

end Pages

end PageQuery
