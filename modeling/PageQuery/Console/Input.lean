import PageQuery.Console.State
/-!
What input does to a session (specification §10).

A key has a written name: what happened to it unless it was pressed, then what was held with it, then
the key, as in `ctrl+r` or `release:shift+tab`. `KeyEvent.ofName?` reads such names. These are the key
events of the terminal library that the program reads.

Shortcuts come first; any other key goes to the part of the screen that has the focus (`handle_event`,
`handle_paste`, `handle_key_event` and the handlers of the query, the results and the fields). An event
can ask for an action, which is then for the caller to perform. A key that is let go does nothing.
-/

namespace PageQuery.Console

open Text Query Screen

/-! ## 1. Events -/

inductive Key where
  | char (c : Char)
  | function (n : Nat)
  | tab
  | backTab
  | enter
  | backspace
  | delete
  | left
  | right
  | up
  | down
  | home
  | toEnd
  | pageUp
  | pageDown
  | esc
  | insert
  | null
  deriving DecidableEq, Repr

/-- What happens to a key. -/
inductive Motion where
  | press
  | again
  | release
  deriving DecidableEq, Repr

structure KeyEvent where
  key : Key
  motion : Motion
  ctrl : Bool
  alt : Bool
  shift : Bool
  deriving DecidableEq, Repr

inductive Event where
  | key (e : KeyEvent)
  | paste (text : List Char)
  /-- The screen has another size. -/
  | resize
  deriving DecidableEq, Repr

/-! ## 2. Names -/

/-- The keys that have a name of more than one character. -/
def keyNames : List (String × Key) :=
  [("tab", .tab), ("backtab", .backTab), ("enter", .enter), ("backspace", .backspace),
   ("delete", .delete), ("left", .left), ("right", .right), ("up", .up), ("down", .down),
   ("home", .home), ("end", .toEnd), ("pageup", .pageUp), ("pagedown", .pageDown), ("esc", .esc),
   ("insert", .insert), ("null", .null)]

/-- The key of a name. -/
def Key.ofName? : List Char → Option Key
  | [c] => some (.char c)
  | 'f' :: digits =>
    if digits.all Char.isDigit then (String.ofList digits).toNat?.map .function
    else keyNames.lookup (String.ofList ('f' :: digits))
  | cs => keyNames.lookup (String.ofList cs)

/-- Take a mark off the front of a name, if it is there and something follows. -/
def takeMark (mark : String) (cs : List Char) : Bool × List Char :=
  let rest := cs.drop mark.length
  if mark.toList.isPrefixOf cs && !rest.isEmpty then (true, rest) else (false, cs)

/-- The event of a name. -/
def KeyEvent.ofName? (name : String) : Option KeyEvent := do
  let (released, cs) := takeMark "release:" name.toList
  let (repeated, cs) := takeMark "repeat:" cs
  let (ctrl, cs) := takeMark "ctrl+" cs
  let (alt, cs) := takeMark "alt+" cs
  let (shift, cs) := takeMark "shift+" cs
  let key ← Key.ofName? cs
  return ⟨key, if released then .release else if repeated then .again else .press, ctrl, alt, shift⟩

variable {σ : Type}

/-- An action that is asked for, and the session after the event. -/
abbrev Response (σ : Type) := Option Action × Console σ

/-- Nothing is asked for. -/
def quiet (c : Console σ) : Response σ := (none, c)

/-! ## 3. The query -/

/-- A key in the query. -/
def onQuery (e : KeyEvent) (c : Console σ) : Console σ :=
  match e.key with
  | .tab => c.onEditor Editor.insertTab
  | .enter => c.onEditor (·.insert ['\n'])
  | .backspace => c.onEditor Editor.backspace
  | .delete => c.onEditor Editor.deleteForward
  | .left => c.onEditor Editor.moveLeft
  | .right => c.onEditor Editor.moveRight
  | .up => c.onEditor (·.moveVertical (-1))
  | .down => c.onEditor (·.moveVertical 1)
  | .home => c.onEditor Editor.moveLineStart
  | .toEnd => c.onEditor Editor.moveLineEnd
  | .esc => { c with focus := .results }
  | .char ch => if e.ctrl then c else c.onEditor (·.insert [ch])
  | _ => c

/-! ## 4. The results -/

/-- How many rows a page key moves by. -/
def pageRows : Nat := 10

/-- Choose another row, if there are rows. -/
def moveRow (c : Console σ) (target : Nat → Nat) : Console σ :=
  if c.rowCount = 0 then c
  else
    let row := min (target (c.selection.row.getD 0)) (c.rowCount - 1)
    { c with selection := c.selection.choose row }

/-- Choose an earlier row, if there are rows. -/
def moveRowBack (c : Console σ) (rows : Nat) : Console σ :=
  if c.rowCount = 0 then c
  else { c with selection := c.selection.choose (c.selection.row.getD 0 - rows) }

/-- A key in the results. -/
def onResults (e : KeyEvent) (c : Console σ) : Console σ :=
  match e.key with
  | .down | .char 'j' => c.moveRow (· + 1)
  | .up | .char 'k' => c.moveRowBack 1
  | .pageDown => c.moveRow (· + pageRows)
  | .pageUp => c.moveRowBack pageRows
  | .tab | .esc | .enter => { c with focus := .query }
  | _ => c

/-! ## 5. The fields -/

/-- Change the text of the field that has the focus. -/
def onField (f : String → String) (c : Console σ) : Console σ :=
  match c.focus with
  | .token => c.onDesk fun d => { d with token := f d.token }
  | .maxRows => c.onDesk fun d => { d with maxRowsInput := f d.maxRowsInput }
  | .timeout => c.onDesk fun d => { d with timeoutInput := f d.timeoutInput }
  | .query | .results => c

/-- A text without its last character. -/
def withoutLast (s : String) : String := String.ofList s.toList.dropLast

/-- A key in a field. -/
def onFieldKey (e : KeyEvent) (c : Console σ) : Response σ :=
  match e.key with
  | .char ch => quiet (if e.ctrl then c else onField (·.push ch) c)
  | .backspace => quiet (onField withoutLast c)
  | .enter =>
    if c.focus = .token then (some .saveToken, c) else quiet { c with focus := c.focus.next }
  | .tab | .esc => quiet { c with focus := c.focus.next }
  | _ => quiet c

/-! ## 6. Shortcuts -/

/-- A letter held with the control key, if it is a shortcut. -/
def onControl (ch : Char) (c : Console σ) : Option (Response σ) :=
  match ch with
  | 'c' | 'q' => some (quiet { c with isDone := true })
  | 'r' => some (some .runQuery, c)
  | 'g' => some (some .capture, c)
  | 's' => some (some .saveToken, c)
  | 't' => some (quiet { c.onDesk Desk.editToken with focus := .token })
  | _ => none

/-- A key that is a shortcut wherever the focus is. -/
def onShortcut (e : KeyEvent) (c : Console σ) : Option (Response σ) :=
  match e.key with
  | .char ch => if e.ctrl then onControl ch c else none
  | .function 5 => some (some .runQuery, c)
  | .function 6 => some (some .copyCsv, c)
  | .function 7 => some (some .copyJson, c)
  | .backTab => some (quiet { c with focus := c.focus.next })
  | _ => none

/-- A key, by the focus. -/
def onFocused (e : KeyEvent) (c : Console σ) : Response σ :=
  match c.focus with
  | .query => quiet (onQuery e c)
  | .results => quiet (onResults e c)
  | .token | .maxRows | .timeout => onFieldKey e c

/-! ## 7. Any event -/

/-- A text that is pasted: all of it into the query, without the blanks around it into a field. -/
def onPaste (text : List Char) (c : Console σ) : Console σ :=
  match c.focus with
  | .query => c.onEditor fun e => (e.paste ⟨some text, none⟩).1
  | _ => onField (fun s => s ++ String.ofList (trimChars text)) c

/-- A key that goes down. -/
def onKey (e : KeyEvent) (c : Console σ) : Response σ := (onShortcut e c).getD (onFocused e c)

/-- What an event does. -/
def handle (c : Console σ) : Event → Response σ
  | .key e => if e.motion = .release then quiet c else onKey e c
  | .paste text => quiet (onPaste text c)
  | .resize => quiet c

end PageQuery.Console
