import PageQuery.Capture.Snapshot
import PageQuery.Json.Draft
import PageQuery.Fault
/-!
Capture messages.

A `CaptureRequest` asks for a tab's markup in a scope, and a `CaptureReply` answers it. Both have a
JSON form. Reading a reply never fails: what does not claim success with a text of markup is a
failed capture. A reply may leave the scope or the size open; `CaptureReply.snapshot` fills them in
from the request and the markup.

Requests and replies are those of the specification's capture channel (§6; `CaptureRequest`,
`CaptureReply`, `from_value`, `into_snapshot`).
-/

namespace PageQuery

open Json

/-! ## 1. Requests -/

/-- The type of a message that asks for a capture of a given tab. -/
def captureMessage : String := "captureSnapshot"

/-- The types of messages that ask the page itself. -/
def pageMessages : List String := ["markql_capture", "xsql_capture"]

/-- Tab ids are numbers of at most 32 bits. -/
def isTabId (n : Nat) : Bool := n < Nat.pow 2 32

structure CaptureRequest where
  tab : Nat
  scope : Scope
  deriving DecidableEq, Repr

namespace CaptureRequest

def toJson (r : CaptureRequest) : Json :=
  .obj [("type", .str captureMessage), ("tabId", .nat r.tab), ("scope", .str r.scope.name)]

def tab? (v : Json) : Option Nat := v.asNat?.filter isTabId

/-- A scope by its exact name, which may also stand as the one field of an object that says no
more. -/
def scope? : Json → Option Scope
  | .str s => Scope.ofName? s
  | .obj [(s, .null)] => Scope.ofName? s
  | .obj [(s, .obj [])] => Scope.ofName? s
  | _ => none

/-- Read a request: an object of its fields, or its type, tab and scope in order. -/
def ofJson? : Json → Option CaptureRequest
  | .obj fields => do
    let v := Json.obj fields
    if v.string? "type" = some captureMessage then
      return ⟨← (v.get? "tabId").bind tab?, ← (v.get? "scope").bind scope?⟩
    else none
  | .arr [.str type, tab, scope] =>
    if type = captureMessage then return ⟨← tab? tab, ← scope? scope⟩ else none
  | _ => none

end CaptureRequest

/-! ## 2. Replies -/

/-- Markup as a page reports it. -/
structure CapturedPage where
  scope : Option Scope
  source : Source
  html : String
  sizeBytes : Option Nat
  deriving DecidableEq, Repr

inductive CaptureReply where
  | captured (page : CapturedPage)
  | failed (error : String)
  deriving DecidableEq, Repr

/-- The error of a failure that gives none. -/
def genericCaptureFailure : String := "Capture failed"

namespace CapturedPage

/-- The size as reported, else that of the markup. -/
def size (p : CapturedPage) : Nat := p.sizeBytes.getD p.html.utf8ByteSize

end CapturedPage

namespace CaptureReply

def ofSnapshot (s : Snapshot) : CaptureReply :=
  .captured ⟨some s.scope, s.source, s.html, some s.sizeBytes⟩

/-- The error that a reply gives, unless it is empty. -/
def errorOf (v : Json) : String :=
  match v.string? "error" with
  | some e => if e = "" then genericCaptureFailure else e
  | none => genericCaptureFailure

/-- The page that a reply reports. -/
def pageOf (v : Json) (html : String) : CapturedPage where
  scope := (v.string? "scope").bind Scope.parse?
  source := ((v.string? "source").map Source.ofName).getD .unknown
  html := html
  sizeBytes := (v.get? "size_bytes").bind asNat?

/-- Read a reply. Success must be claimed with `true` and carry markup. -/
def ofJson (v : Json) : CaptureReply :=
  match (v.get? "ok").bind asBool?, v.string? "html" with
  | some true, some html => .captured (pageOf v html)
  | _, _ => .failed (errorOf v)

/-- Write a reply. The size is always given, the scope where it is known. -/
def toJson : CaptureReply → Json
  | .captured p =>
    .obj ([("ok", .bool true), ("source", .str p.source.name), ("html", .str p.html),
           ("size_bytes", .nat p.size)] ++
      match p.scope with
      | some s => [("scope", .str s.name)]
      | none => [])
  | .failed error => .obj [("ok", .bool false), ("error", .str error)]

/-- The snapshot that a reply to a request yields. A scope left open is the requested one. -/
def snapshot (requested : Scope) : CaptureReply → Except ClientError Snapshot
  | .captured p => .ok ⟨p.html, p.scope.getD requested, p.source, p.size⟩
  | .failed error => .error (.capture error)

end CaptureReply

/-! ## 3. Messages -/

/-- The type of a message. -/
def messageType? (message : Json) : Option String := message.string? "type"

/-- The scope that a message names: anything but `full` is the main content. -/
def messageScope (message : Json) : Scope :=
  if message.string? "scope" = some "full" then .full else .main

end PageQuery
