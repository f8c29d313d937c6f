import PageQuery.Fault
import PageQuery.Disk.Basic
import PageQuery.Net.Exchange
/-!
The outside world: a disk, a network and a clipboard.

The clipboard is that of a session without a display: text is handed to the helper programs in order
until one of them takes it (`fallback_copy`, `pipe_to_command`).
-/

namespace PageQuery

/-! ## 1. The clipboard -/

/-- A helper program that puts its input on the clipboard. -/
structure ClipboardTool where
  program : String
  arguments : List String
  deriving DecidableEq, Repr

/-- The programs that are tried, in order. -/
def clipboardTools : List ClipboardTool :=
  [⟨"wl-copy", []⟩, ⟨"xclip", ["-selection", "clipboard"]⟩]

/-- What a program was given. -/
structure ClipboardRun where
  tool : ClipboardTool
  text : String
  deriving DecidableEq, Repr

structure Clipboard where
  /-- The exit code of each program that is there. -/
  exitCodes : List (String × Int)
  /-- The runs so far, in order. -/
  runs : List ClipboardRun
  deriving DecidableEq, Repr

namespace Clipboard

/-- A clipboard that no program serves. -/
def absent : Clipboard := ⟨[], []⟩

def noTool : Fault := .root "no clipboard backend accepted the text"

def exitCode? (c : Clipboard) (program : String) : Option Int :=
  (c.exitCodes.find? (·.1 == program)).map (·.2)

/-- Hand a text to the first of the programs that takes it. -/
def copyWith (text : String) : List ClipboardTool → Clipboard → Except Fault Unit × Clipboard
  | [], c => (.error noTool, c)
  | tool :: rest, c =>
    match c.exitCode? tool.program with
    | none => copyWith text rest c
    | some code =>
      let c := { c with runs := c.runs ++ [⟨tool, text⟩] }
      if code = 0 then (.ok (), c) else copyWith text rest c

def copy (c : Clipboard) (text : String) : Except Fault Unit × Clipboard :=
  copyWith text clipboardTools c

end Clipboard

/-! ## 2. The world -/

structure World where
  disk : Disk
  network : Net.Network
  clipboard : Clipboard

end PageQuery
