import PageQuery.Html.Foreign
/-!
The rules of construction for the head and the body of a page.

Each rule takes one lexeme and says whether it is dealt with or is to be taken again under the mode
that the rule has set.
-/

namespace PageQuery.Html

open Page

inductive Outcome where
  | done
  | again

def headingTags : List String := ["h1", "h2", "h3", "h4", "h5", "h6"]

/-! ## 1. Resetting the mode -/

/-- The mode that the open elements call for. -/
def modeFor : List Id → Build Mode
  | [] => return .inBody
  | id :: rest => do
    let (v, tag) ← nameOf id
    if v != .html then modeFor rest
    else if tag == "select" then
      for other in rest do
        if ← isHtml other "template" then return .inSelect
        if ← isHtml other "table" then return .inSelectInTable
      return .inSelect
    else if (tag == "td" || tag == "th") && !rest.isEmpty then return .inCell
    else if tag == "tr" then return .inRow
    else if tag == "tbody" || tag == "thead" || tag == "tfoot" then return .inTableBody
    else if tag == "caption" then return .inCaption
    else if tag == "colgroup" then return .inColumnGroup
    else if tag == "table" then return .inTable
    else if tag == "template" then return (← get).templateModes.headD .inTemplate
    else if tag == "head" && !rest.isEmpty then return .inHead
    else if tag == "body" then return .inBody
    else if tag == "frameset" then return .inFrameset
    else if tag == "html" then
      return if (← get).head.isNone then .beforeHead else .afterHead
    else modeFor rest

def resetMode : Build Unit := do setMode (← modeFor (← get).stack)

/-! ## 2. In the head -/

def closeTemplate : Build Unit := do
  if ← isOpen "template" then
    closeImpliedIn thoroughlyImpliedTags
    popThrough "template"
    clearToMarker
    modify fun b => { b with templateModes := b.templateModes.tail }
    resetMode

def inHead (l : Lexeme) (inBodyHtml : Tag → Build Unit) : Build Outcome := do
  let otherwise : Build Outcome := do
    pop
    setMode .afterHead
    return .again
  match l with
  | .char c => if isSpace c then insertChar c; return .done else otherwise
  | .comment s => insertComment s; return .done
  | .doctype _ => return .done
  | .finish => otherwise
  | .startTag tag =>
    if tag.name == "html" then inBodyHtml tag; return .done
    else if ["base", "basefont", "bgsound", "link", "meta"].contains tag.name then
      insertVoid tag
      return .done
    else if tag.name == "title" then insertTextElement tag .rcdata; return .done
    else if tag.name == "noframes" || tag.name == "style" then
      insertTextElement tag .rawtext
      return .done
    else if tag.name == "noscript" then
      insertHtml tag
      setMode .inHeadNoscript
      return .done
    else if tag.name == "script" then insertTextElement tag .script; return .done
    else if tag.name == "template" then
      insertHtml tag
      pushMarker
      modify fun b =>
        { b with framesetOk := false, mode := .inTemplate,
                 templateModes := .inTemplate :: b.templateModes }
      return .done
    else if tag.name == "head" then return .done
    else otherwise
  | .endTag tag =>
    if tag.name == "head" then
      pop
      setMode .afterHead
      return .done
    else if ["body", "html", "br"].contains tag.name then otherwise
    else if tag.name == "template" then closeTemplate; return .done
    else return .done

/-! ## 3. The adoption agency -/

/-- Close elements for an end tag that no other rule is about. -/
def closeOther (name : String) : Build Unit := do
  let rec go : List Id → Build (Option (List Id))
    | [] => return none
    | id :: rest => do
      if ← isHtml id name then return some (id :: rest)
      else if isSpecial (← nameOf id) then return none
      else go rest
  match ← go (← get).stack with
  | none => pure ()
  | some [] => pure ()
  | some (target :: _) =>
    closeImplied name
    modify fun b => { b with stack := (b.stack.dropWhile (· != target)).tail }

/-- Where the reopened element goes in the list of formatting elements. -/
inductive Bookmark where
  | instead (id : Id)
  | above (id : Id)

/-- The elements between the furthest block and the formatting element, innermost first: each is
closed, or made anew around what was moved so far. -/
def rebuildBetween (block : Id) : List Id → Nat → Id → Bookmark → Build (Id × Bookmark)
  | [], _, last, mark => return (last, mark)
  | node :: rest, count, last, mark => do
    let remembered := (← get).formatting.findSome? fun f =>
      match f with
      | .element id tag => if id == node then some tag else none
      | .marker => none
    match remembered with
    | none =>
      removeFromStack node
      rebuildBetween block rest (count + 1) last mark
    | some tag =>
      if count + 1 > 3 then
        removeFormatting node
        removeFromStack node
        rebuildBetween block rest (count + 1) last mark
      else
        let fresh ← createElement .html tag
        modify fun b =>
          { b with
            stack := b.stack.map fun id => if id == node then fresh else id
            formatting := b.formatting.map fun f =>
              match f with
              | .element id t => if id == node then .element fresh t else .element id t
              | .marker => .marker }
        let mark := if last == block then .above fresh else mark
        append fresh last
        rebuildBetween block rest (count + 1) fresh mark

/-- Close the latest formatting element of a tag once, moving what it is torn out of. The answer
says whether there may be more to do. -/
def adoptOnce (name : String) : Build Bool := do
  match (sinceMarker (← get).formatting).find? fun f => f.2.name == name with
  | none =>
    closeOther name
    return false
  | some (element, tag) =>
    let stack := (← get).stack
    if !stack.contains element then
      removeFormatting element
      return false
    if !(← inScopeWhere .ordinary fun id _ => id == element) then return false
    let above := stack.takeWhile (· != element)
    let rec furthest : List Id → Build (Option Id)
      | [] => return none
      | id :: rest => do
        if isSpecial (← nameOf id) then return some id else furthest rest
    match ← furthest above.reverse with
    | none =>
      modify fun b => { b with stack := (b.stack.dropWhile (· != element)).tail }
      removeFormatting element
      return false
    | some block =>
      let ancestor := ((stack.dropWhile (· != element)).tail).headD documentId
      let between := ((above.dropWhile (· != block)).tail)
      let (last, mark) ← rebuildBetween block between 0 block (.instead element)
      detach last
      putAt (← placeFor (some ancestor)) last
      let fresh ← createElement .html tag
      moveChildren block fresh
      append block fresh
      let entry := Formatting.element fresh tag
      let isEntry (id : Id) (f : Formatting) : Bool :=
        match f with
        | .element other _ => other == id
        | .marker => false
      match mark with
      | .instead id =>
        modify fun b =>
          { b with formatting := b.formatting.map fun f => if isEntry id f then entry else f }
      | .above id =>
        modify fun b =>
          { b with formatting := b.formatting.flatMap fun f =>
              if isEntry id f then [entry, f] else if isEntry element f then [] else [f] }
      removeFromStack element
      modify fun b =>
        { b with stack := b.stack.flatMap fun id => if id == block then [fresh, block] else [id] }
      return true

/-- Close a formatting element that may be torn out of others, in at most the given rounds. -/
def adoptionRounds (name : String) : Nat → Build Unit
  | 0 => pure ()
  | rounds + 1 => do
    if ← adoptOnce name then adoptionRounds name rounds

def adoption (name : String) : Build Unit := do
  let b ← get
  let id ← current
  let remembered := b.formatting.any fun f =>
    match f with
    | .element other _ => other == id
    | .marker => false
  if (← currentIs name) && !remembered then pop
  else adoptionRounds name 8

/-! ## 4. In the body -/

def blockTags : List String :=
  ["address", "article", "aside", "blockquote", "center", "details", "dialog", "dir", "div",
   "dl", "fieldset", "figcaption", "figure", "footer", "header", "hgroup", "main", "menu",
   "nav", "ol", "p", "section", "summary", "ul"]

def closableTags : List String :=
  (blockTags.filter (· != "p")) ++ ["button", "listing", "pre"]

def formattingTags : List String :=
  ["b", "big", "code", "em", "font", "i", "s", "small", "strike", "strong", "tt", "u"]

/-- A start tag of the whole page adds what attributes are new. -/
def bodyHtml (tag : Tag) : Build Unit := do
  if !(← isOpen "template") then
    match (← get).stack.getLast? with
    | some root => addAttributes root tag.attributes
    | none => pure ()

/-- The second open element, if it is a body. -/
def openBody? : Build (Option Id) := do
  match (← get).stack.reverse with
  | _ :: second :: _ => return if ← isHtml second "body" then some second else none
  | _ => return none

/-- Close an open list item, or term, that the new one ends. -/
def closeItem (names : List String) : List Id → Build Unit
  | [] => pure ()
  | id :: rest => do
    let name ← nameOf id
    if name.1 == .html && names.contains name.2 then
      closeImplied name.2
      popThrough name.2
    else if isSpecial name && !(← isHtmlIn id ["address", "div", "p"]) then pure ()
    else closeItem names rest

/-- An attribute's value is `hidden`, whatever its case. -/
def isHiddenInput (tag : Tag) : Bool :=
  tag.attributes.any fun a =>
    a.1 == "type" && String.ofList (a.2.toList.map Char.toLower) == "hidden"

def inBodyStart (tag : Tag) : Build Outcome := do
  let name := tag.name
  if name == "html" then bodyHtml tag; return .done
  else if ["base", "basefont", "bgsound", "link", "meta", "noframes", "script", "style",
      "template", "title"].contains name then inHead (.startTag tag) bodyHtml
  else if name == "body" then
    match ← openBody? with
    | some body =>
      if !(← isOpen "template") then
        setFramesetOk false
        addAttributes body tag.attributes
      return .done
    | none => return .done
  else if name == "frameset" then
    match ← openBody? with
    | some body =>
      if (← get).framesetOk then
        detach body
        modify fun b => { b with stack := b.stack.getLast?.toList }
        insertHtml tag
        setMode .inFrameset
      return .done
    | none => return .done
  else if blockTags.contains name then
    closeOpenP
    insertHtml tag
    return .done
  else if headingTags.contains name then
    closeOpenP
    if ← currentIsIn headingTags then pop
    insertHtml tag
    return .done
  else if name == "pre" || name == "listing" then
    closeOpenP
    insertHtml tag
    modify fun b => { b with ignoreLineFeed := true, framesetOk := false }
    return .done
  else if name == "form" then
    let inTemplate ← isOpen "template"
    if (← get).form.isSome && !inTemplate then return .done
    else
      closeOpenP
      let id ← insertElement .html tag
      if !inTemplate then modify fun b => { b with form := some id }
      return .done
  else if name == "li" then
    setFramesetOk false
    closeItem ["li"] (← get).stack
    closeOpenP
    insertHtml tag
    return .done
  else if name == "dd" || name == "dt" then
    setFramesetOk false
    closeItem ["dd", "dt"] (← get).stack
    closeOpenP
    insertHtml tag
    return .done
  else if name == "plaintext" then
    closeOpenP
    insertHtml tag
    modify fun b => { b with model := .plaintext }
    return .done
  else if name == "button" then
    if ← inScope .ordinary "button" then
      closeImplied ""
      popThrough "button"
    reopenFormatting
    insertHtml tag
    setFramesetOk false
    return .done
  else if name == "a" then
    match (sinceMarker (← get).formatting).find? fun f => f.2.name == "a" with
    | some (id, _) =>
      adoption "a"
      removeFormatting id
      removeFromStack id
    | none => pure ()
    reopenFormatting
    insertFormatting tag
    return .done
  else if formattingTags.contains name then
    reopenFormatting
    insertFormatting tag
    return .done
  else if name == "nobr" then
    reopenFormatting
    if ← inScope .ordinary "nobr" then
      adoption "nobr"
      reopenFormatting
    insertFormatting tag
    return .done
  else if ["applet", "marquee", "object"].contains name then
    reopenFormatting
    insertHtml tag
    pushMarker
    setFramesetOk false
    return .done
  else if name == "table" then
    if !(← get).quirks then closeOpenP
    insertHtml tag
    setFramesetOk false
    setMode .inTable
    return .done
  else if ["area", "br", "embed", "img", "keygen", "wbr"].contains name then
    reopenFormatting
    insertVoid tag
    setFramesetOk false
    return .done
  else if name == "input" then
    reopenFormatting
    insertVoid tag
    if !isHiddenInput tag then setFramesetOk false
    return .done
  else if ["param", "source", "track"].contains name then
    insertVoid tag
    return .done
  else if name == "hr" then
    closeOpenP
    insertVoid tag
    setFramesetOk false
    return .done
  else if name == "image" then
    reopenFormatting
    insertVoid { tag with name := "img" }
    setFramesetOk false
    return .done
  else if name == "textarea" then
    insertTextElement tag .rcdata
    modify fun b => { b with ignoreLineFeed := true, framesetOk := false }
    return .done
  else if name == "xmp" then
    closeOpenP
    reopenFormatting
    setFramesetOk false
    insertTextElement tag .rawtext
    return .done
  else if name == "iframe" then
    setFramesetOk false
    insertTextElement tag .rawtext
    return .done
  else if name == "noembed" then
    insertTextElement tag .rawtext
    return .done
  else if name == "select" then
    reopenFormatting
    insertHtml tag
    setFramesetOk false
    let mode := (← get).mode
    setMode (if [Mode.inTable, .inCaption, .inTableBody, .inRow, .inCell].contains mode then
      .inSelectInTable else .inSelect)
    return .done
  else if name == "optgroup" || name == "option" then
    if ← currentIs "option" then pop
    reopenFormatting
    insertHtml tag
    return .done
  else if name == "rb" || name == "rtc" then
    if ← inScope .ordinary "ruby" then closeImplied ""
    insertHtml tag
    return .done
  else if name == "rp" || name == "rt" then
    if ← inScope .ordinary "ruby" then closeImplied "rtc"
    insertHtml tag
    return .done
  else if name == "math" then
    reopenFormatting
    insertForeign .mathml (mathTag tag)
    return .done
  else if name == "svg" then
    reopenFormatting
    insertForeign .svg (svgTag tag)
    return .done
  else if ["caption", "col", "colgroup", "frame", "head", "tbody", "td", "tfoot", "th", "thead",
      "tr"].contains name then return .done
  else
    reopenFormatting
    insertHtml tag
    return .done

def inBodyEnd (tag : Tag) : Build Outcome := do
  let name := tag.name
  if name == "template" then
    closeTemplate
    return .done
  else if name == "body" || name == "html" then
    if ← inScope .ordinary "body" then
      setMode .afterBody
      return if name == "html" then .again else .done
    else return .done
  else if closableTags.contains name then
    if ← inScope .ordinary name then
      closeImplied ""
      popThrough name
    return .done
  else if name == "form" then
    if ← isOpen "template" then
      if ← inScope .ordinary "form" then
        closeImplied ""
        popThrough "form"
    else
      let form := (← get).form
      modify fun b => { b with form := none }
      match form with
      | none => pure ()
      | some id =>
        if ← inScopeWhere .ordinary fun other _ => other == id then
          closeImplied ""
          removeFromStack id
    return .done
  else if name == "p" then
    if !(← inScope .button "p") then insertBare "p"
    closeP
    return .done
  else if name == "li" then
    if ← inScope .listItem "li" then
      closeImplied "li"
      popThrough "li"
    return .done
  else if name == "dd" || name == "dt" then
    if ← inScope .ordinary name then
      closeImplied name
      popThrough name
    return .done
  else if headingTags.contains name then
    if ← inScopeAny .ordinary headingTags then
      closeImplied ""
      popThroughIn headingTags
    return .done
  else if formattingTags.contains name || name == "a" || name == "nobr" then
    adoption name
    return .done
  else if ["applet", "marquee", "object"].contains name then
    if ← inScope .ordinary name then
      closeImplied ""
      popThrough name
      clearToMarker
    return .done
  else if name == "br" then
    reopenFormatting
    insertVoid ⟨"br", [], false⟩
    setFramesetOk false
    return .done
  else
    closeOther name
    return .done

/-- The end of the page inside a template. -/
def finishTemplate : Build Outcome := do
  if ← isOpen "template" then
    popThrough "template"
    clearToMarker
    modify fun b => { b with templateModes := b.templateModes.tail }
    resetMode
    return .again
  else
    modify fun b => { b with finished := true }
    return .done

def inBody (l : Lexeme) : Build Outcome := do
  match l with
  | .char c =>
    if c == '\x00' then return .done
    else
      reopenFormatting
      insertChar c
      if !isSpace c then setFramesetOk false
      return .done
  | .comment s => insertComment s; return .done
  | .doctype _ => return .done
  | .finish =>
    if (← get).templateModes.isEmpty then
      modify fun b => { b with finished := true }
      return .done
    else finishTemplate
  | .startTag tag => inBodyStart tag
  | .endTag tag => inBodyEnd tag

end PageQuery.Html
