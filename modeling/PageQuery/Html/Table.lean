import PageQuery.Html.Body
/-!
The rules of construction for tables and for lists of choices.

What does not belong among the parts of a table is placed by the rules of the body, but before the
table.
-/

namespace PageQuery.Html

/-! ## 1. Tables -/

/-- Take a lexeme by the rules of the body, placing what lands among the parts of a table before
it. -/
def fosterInBody (l : Lexeme) : Build Outcome := do
  modify fun b => { b with fostering := true }
  let outcome ← inBody l
  modify fun b => { b with fostering := false }
  return outcome

def tableContext : List String := ["table", "template", "html"]

def tableBodyContext : List String := ["tbody", "tfoot", "thead", "template", "html"]

def rowContext : List String := ["tr", "template", "html"]

/-- End tags that mean nothing here. -/
def strayTableEnds : List String :=
  ["body", "caption", "col", "colgroup", "html", "tbody", "td", "tfoot", "th", "thead", "tr"]

def inTableStart (tag : Tag) : Build Outcome := do
  let name := tag.name
  if name == "caption" then
    popDownTo tableContext
    pushMarker
    insertHtml tag
    setMode .inCaption
    return .done
  else if name == "colgroup" then
    popDownTo tableContext
    insertHtml tag
    setMode .inColumnGroup
    return .done
  else if name == "col" then
    popDownTo tableContext
    insertBare "colgroup"
    setMode .inColumnGroup
    return .again
  else if ["tbody", "tfoot", "thead"].contains name then
    popDownTo tableContext
    insertHtml tag
    setMode .inTableBody
    return .done
  else if ["td", "th", "tr"].contains name then
    popDownTo tableContext
    insertBare "tbody"
    setMode .inTableBody
    return .again
  else if name == "table" then
    if ← inScope .table "table" then
      popThrough "table"
      resetMode
      return .again
    else return .done
  else if ["style", "script", "template"].contains name then inHead (.startTag tag) bodyHtml
  else if name == "input" && isHiddenInput tag then
    insertVoid tag
    return .done
  else if name == "form" then
    if !(← isOpen "template") && (← get).form.isNone then
      let id ← insertElement .html tag
      pop
      modify fun b => { b with form := some id }
    return .done
  else fosterInBody (.startTag tag)

/-- Among the parts of a table. -/
def inTable (l : Lexeme) : Build Outcome := do
  match l with
  | .char _ =>
    if ← currentIsIn tableParts then
      modify fun b => { b with returnMode := b.mode, mode := .inTableText, tableText := [] }
      return .again
    else fosterInBody l
  | .comment s => insertComment s; return .done
  | .doctype _ => return .done
  | .finish => inBody l
  | .startTag tag => inTableStart tag
  | .endTag tag =>
    if tag.name == "table" then
      if ← inScope .table "table" then
        popThrough "table"
        resetMode
      return .done
    else if strayTableEnds.contains tag.name then return .done
    else if tag.name == "template" then inHead l bodyHtml
    else fosterInBody l

/-- Collecting the text among the parts of a table. Blank text stays there; any other is placed
before the table. -/
def inTableText (l : Lexeme) : Build Outcome := do
  match l with
  | .char c =>
    if c != '\x00' then modify fun b => { b with tableText := c :: b.tableText }
    return .done
  | .doctype _ => return .done
  | _ =>
    let text := (← get).tableText.reverse
    modify fun b => { b with tableText := [] }
    if text.all isSpace then
      for c in text do insertChar c
    else
      for c in text do
        let _ ← fosterInBody (.char c)
    setMode (← get).returnMode
    return .again

/-- The tags that end a caption or a cell when they start. -/
def tableStarts : List String :=
  ["caption", "col", "colgroup", "tbody", "td", "tfoot", "th", "thead", "tr"]

def closeCaption : Build Bool := do
  if ← inScope .table "caption" then
    closeImplied ""
    popThrough "caption"
    clearToMarker
    setMode .inTable
    return true
  else return false

def inCaption (l : Lexeme) : Build Outcome := do
  match l with
  | .startTag tag =>
    if tableStarts.contains tag.name then
      return if ← closeCaption then .again else .done
    else inBody l
  | .endTag tag =>
    if tag.name == "caption" then
      let _ ← closeCaption
      return .done
    else if tag.name == "table" then
      return if ← closeCaption then .again else .done
    else if strayTableEnds.contains tag.name then return .done
    else inBody l
  | _ => inBody l

def inColumnGroup (l : Lexeme) : Build Outcome := do
  let otherwise : Build Outcome := do
    if ← currentIs "colgroup" then
      pop
      setMode .inTable
      return .again
    else return .done
  match l with
  | .char c => if isSpace c then insertChar c; return .done else otherwise
  | .comment s => insertComment s; return .done
  | .doctype _ => return .done
  | .finish => inBody l
  | .startTag tag =>
    if tag.name == "html" then bodyHtml tag; return .done
    else if tag.name == "col" then insertVoid tag; return .done
    else if tag.name == "template" then inHead l bodyHtml
    else otherwise
  | .endTag tag =>
    if tag.name == "colgroup" then
      if ← currentIs "colgroup" then
        pop
        setMode .inTable
      return .done
    else if tag.name == "col" then return .done
    else if tag.name == "template" then inHead l bodyHtml
    else otherwise

/-- Close the part of a table that the context stands for, and go on in the given mode. -/
def closePart (context : List String) (mode : Mode) : Build Unit := do
  popDownTo context
  pop
  setMode mode

def inTableBody (l : Lexeme) : Build Outcome := do
  match l with
  | .startTag tag =>
    if tag.name == "tr" then
      popDownTo tableBodyContext
      insertHtml tag
      setMode .inRow
      return .done
    else if tag.name == "th" || tag.name == "td" then
      popDownTo tableBodyContext
      insertBare "tr"
      setMode .inRow
      return .again
    else if ["caption", "col", "colgroup", "tbody", "tfoot", "thead"].contains tag.name then
      if ← inScopeAny .table ["table", "tbody", "tfoot"] then
        closePart tableBodyContext .inTable
        return .again
      else return .done
    else inTable l
  | .endTag tag =>
    if ["tbody", "tfoot", "thead"].contains tag.name then
      if ← inScope .table tag.name then closePart tableBodyContext .inTable
      return .done
    else if tag.name == "table" then
      if ← inScopeAny .table ["table", "tbody", "tfoot"] then
        closePart tableBodyContext .inTable
        return .again
      else return .done
    else if strayTableEnds.contains tag.name then return .done
    else inTable l
  | _ => inTable l

def inRow (l : Lexeme) : Build Outcome := do
  let closeRow : Build Outcome := do
    if ← inScope .table "tr" then
      closePart rowContext .inTableBody
      return .again
    else return .done
  match l with
  | .startTag tag =>
    if tag.name == "th" || tag.name == "td" then
      popDownTo rowContext
      insertHtml tag
      setMode .inCell
      pushMarker
      return .done
    else if ["caption", "col", "colgroup", "tbody", "tfoot", "thead", "tr"].contains tag.name then
      closeRow
    else inTable l
  | .endTag tag =>
    if tag.name == "tr" then
      if ← inScope .table "tr" then closePart rowContext .inTableBody
      return .done
    else if tag.name == "table" then closeRow
    else if ["tbody", "tfoot", "thead"].contains tag.name then
      if ← inScope .table tag.name then closeRow else return .done
    else if strayTableEnds.contains tag.name then return .done
    else inTable l
  | _ => inTable l

def closeCell : Build Outcome := do
  closeImplied ""
  popThroughIn ["td", "th"]
  clearToMarker
  setMode .inRow
  return .again

def inCell (l : Lexeme) : Build Outcome := do
  match l with
  | .startTag tag =>
    if tableStarts.contains tag.name then
      if ← inScopeAny .table ["td", "th"] then closeCell else return .done
    else inBody l
  | .endTag tag =>
    if tag.name == "td" || tag.name == "th" then
      if ← inScope .table tag.name then
        closeImplied ""
        popThrough tag.name
        clearToMarker
        setMode .inRow
      return .done
    else if ["table", "tbody", "tfoot", "thead", "tr"].contains tag.name then
      if ← inScope .table tag.name then closeCell else return .done
    else if strayTableEnds.contains tag.name then return .done
    else inBody l
  | _ => inBody l

/-! ## 2. Choices -/

/-- Close the list of choices. -/
def closeSelect : Build Unit := do
  popThrough "select"
  resetMode

def popIf (tag : String) : Build Unit := do
  if ← currentIs tag then pop

def inSelect (l : Lexeme) : Build Outcome := do
  match l with
  | .char c =>
    if c != '\x00' then insertChar c
    return .done
  | .comment s => insertComment s; return .done
  | .doctype _ => return .done
  | .finish => inBody l
  | .startTag tag =>
    if tag.name == "html" then bodyHtml tag; return .done
    else if tag.name == "option" then
      popIf "option"
      insertHtml tag
      return .done
    else if tag.name == "optgroup" then
      popIf "option"
      popIf "optgroup"
      insertHtml tag
      return .done
    else if tag.name == "hr" then
      popIf "option"
      popIf "optgroup"
      insertVoid tag
      return .done
    else if tag.name == "select" then
      if ← inScope .select "select" then closeSelect
      return .done
    else if ["input", "keygen", "textarea"].contains tag.name then
      if ← inScope .select "select" then
        closeSelect
        return .again
      else return .done
    else if tag.name == "script" || tag.name == "template" then inHead l bodyHtml
    else return .done
  | .endTag tag =>
    if tag.name == "optgroup" then
      match (← get).stack with
      | _ :: below :: _ =>
        if (← currentIs "option") && (← isHtml below "optgroup") then pop
      | _ => pure ()
      popIf "optgroup"
      return .done
    else if tag.name == "option" then popIf "option"; return .done
    else if tag.name == "select" then
      if ← inScope .select "select" then closeSelect
      return .done
    else if tag.name == "template" then inHead l bodyHtml
    else return .done

/-- A list of choices inside a table. -/
def inSelectInTable (l : Lexeme) : Build Outcome := do
  let parts := ["caption", "table", "tbody", "tfoot", "thead", "tr", "td", "th"]
  match l with
  | .startTag tag =>
    if parts.contains tag.name then
      closeSelect
      return .again
    else inSelect l
  | .endTag tag =>
    if parts.contains tag.name then
      if ← inScope .table tag.name then
        closeSelect
        return .again
      else return .done
    else inSelect l
  | _ => inSelect l

end PageQuery.Html
