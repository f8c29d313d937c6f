import PageQuery.Html.Table
import PageQuery.Page.Node
/-!
HTML pages as document trees.

`document` reads a page lexeme by lexeme. The mode of the builder chooses the rule for each; a rule
may ask for the lexeme to be taken again under another mode. Nothing is refused: every text makes a
document with a root.

This is the page parser that the program takes from a library (specification §2, `PageDocument`).
-/

namespace PageQuery.Html

open Page

/-! ## 1. Before the body -/

/-- Public identifiers that call for the old table rule. -/
def oldPublicIds : List String :=
  ["-//w3o//dtd w3 html strict 3.0//en//", "-/w3c/dtd html 4.0 transitional/en", "html"]

/-- A system identifier that calls for the old table rule. -/
def oldSystemId : String := "http:" ++ "//www.ibm.com/data/dtd/v11/ibmxhtml1-transitional.dtd"

/-- Beginnings of public identifiers that call for the old table rule. -/
def oldPublicStarts : List String :=
  ["+//silmaril//dtd html pro v0r11 19970101//", "-//as//dtd html 3.0 aswedit + extensions//",
   "-//advasoft ltd//dtd html 3.0 aswedit + extensions//", "-//ietf//dtd html 2.0 level 1//",
   "-//ietf//dtd html 2.0 level 2//", "-//ietf//dtd html 2.0 strict level 1//",
   "-//ietf//dtd html 2.0 strict level 2//", "-//ietf//dtd html 2.0 strict//",
   "-//ietf//dtd html 2.0//", "-//ietf//dtd html 2.1e//", "-//ietf//dtd html 3.0//",
   "-//ietf//dtd html 3.2 final//", "-//ietf//dtd html 3.2//", "-//ietf//dtd html 3//",
   "-//ietf//dtd html level 0//", "-//ietf//dtd html level 1//", "-//ietf//dtd html level 2//",
   "-//ietf//dtd html level 3//", "-//ietf//dtd html strict level 0//",
   "-//ietf//dtd html strict level 1//", "-//ietf//dtd html strict level 2//",
   "-//ietf//dtd html strict level 3//", "-//ietf//dtd html strict//", "-//ietf//dtd html//",
   "-//metrius//dtd metrius presentational//",
   "-//microsoft//dtd internet explorer 2.0 html strict//",
   "-//microsoft//dtd internet explorer 2.0 html//",
   "-//microsoft//dtd internet explorer 2.0 tables//",
   "-//microsoft//dtd internet explorer 3.0 html strict//",
   "-//microsoft//dtd internet explorer 3.0 html//",
   "-//microsoft//dtd internet explorer 3.0 tables//",
   "-//netscape comm. corp.//dtd html//", "-//netscape comm. corp.//dtd strict html//",
   "-//o'reilly and associates//dtd html 2.0//",
   "-//o'reilly and associates//dtd html extended 1.0//",
   "-//o'reilly and associates//dtd html extended relaxed 1.0//",
   "-//softquad software//dtd hotmetal pro 6.0::19990601::extensions to html 4.0//",
   "-//softquad//dtd hotmetal pro 4.0::19971010::extensions to html 4.0//",
   "-//spyglass//dtd html 2.0 extended//", "-//sq//dtd html 2.0 hotmetal + extensions//",
   "-//sun microsystems corp.//dtd hotjava html//",
   "-//sun microsystems corp.//dtd hotjava strict html//",
   "-//w3c//dtd html 3 1995-03-24//", "-//w3c//dtd html 3.2 draft//",
   "-//w3c//dtd html 3.2 final//", "-//w3c//dtd html 3.2//", "-//w3c//dtd html 3.2s draft//",
   "-//w3c//dtd html 4.0 frameset//", "-//w3c//dtd html 4.0 transitional//",
   "-//w3c//dtd html experimental 19960712//", "-//w3c//dtd html experimental 970421//",
   "-//w3c//dtd w3 html//", "-//w3o//dtd w3 html 3.0//", "-//webtechs//dtd mozilla html 2.0//",
   "-//webtechs//dtd mozilla html//"]

/-- Beginnings that do so where no system identifier is given. -/
def oldBareStarts : List String :=
  ["-//w3c//dtd html 4.01 frameset//", "-//w3c//dtd html 4.01 transitional//"]

/-- A document type calls for the old table rule, by which a table does not end a paragraph. -/
def Doctype.isOld (d : Doctype) : Bool :=
  let lower (s : String) : String := String.ofList (s.toList.map Char.toLower)
  d.broken || d.name != some "html" ||
    (match d.publicId.map lower with
      | none => false
      | some p => oldPublicIds.contains p || oldPublicStarts.any (p.startsWith ·) ||
        (d.systemId.isNone && oldBareStarts.any (p.startsWith ·))) ||
    d.systemId.map lower == some oldSystemId

/-- Nothing but a document type has been read. -/
def initial (l : Lexeme) : Build Outcome := do
  match l with
  | .char c =>
    if isSpace c then return .done
    modify fun b => { b with quirks := true, mode := .beforeHtml }
    return .again
  | .comment s => insertCommentIn documentId s; return .done
  | .doctype d =>
    modify fun b => { b with quirks := d.isOld, mode := .beforeHtml }
    return .done
  | _ =>
    modify fun b => { b with quirks := true, mode := .beforeHtml }
    return .again

/-- Make the root element. -/
def createRoot (tag : Tag) : Build Unit := do
  let id ← createElement .html tag
  append documentId id
  push id

/-- End tags that are taken for content where others are passed over. -/
def telling (names : List String) (tag : Tag) : Bool := names.contains tag.name

def beforeHtml (l : Lexeme) : Build Outcome := do
  let otherwise : Build Outcome := do
    createRoot ⟨"html", [], false⟩
    setMode .beforeHead
    return .again
  match l with
  | .char c => if isSpace c then return .done else otherwise
  | .comment s => insertCommentIn documentId s; return .done
  | .doctype _ => return .done
  | .finish => otherwise
  | .startTag tag =>
    if tag.name == "html" then
      createRoot tag
      setMode .beforeHead
      return .done
    else otherwise
  | .endTag tag => if telling ["head", "body", "html", "br"] tag then otherwise else return .done

def beforeHead (l : Lexeme) : Build Outcome := do
  let openHead (tag : Tag) : Build Unit := do
    let id ← insertElement .html tag
    modify fun b => { b with head := some id, mode := .inHead }
  let otherwise : Build Outcome := do
    openHead ⟨"head", [], false⟩
    return .again
  match l with
  | .char c => if isSpace c then return .done else otherwise
  | .comment s => insertComment s; return .done
  | .doctype _ => return .done
  | .finish => otherwise
  | .startTag tag =>
    if tag.name == "html" then bodyHtml tag; return .done
    else if tag.name == "head" then openHead tag; return .done
    else otherwise
  | .endTag tag => if telling ["head", "body", "html", "br"] tag then otherwise else return .done

def inHeadNoscript (l : Lexeme) : Build Outcome := do
  let otherwise : Build Outcome := do
    pop
    setMode .inHead
    return .again
  match l with
  | .char c => if isSpace c then inHead l bodyHtml else otherwise
  | .comment _ => inHead l bodyHtml
  | .doctype _ => return .done
  | .finish => otherwise
  | .startTag tag =>
    if tag.name == "html" then bodyHtml tag; return .done
    else if ["basefont", "bgsound", "link", "meta", "noframes", "style"].contains tag.name then
      inHead l bodyHtml
    else if tag.name == "head" || tag.name == "noscript" then return .done
    else otherwise
  | .endTag tag =>
    if tag.name == "noscript" then
      pop
      setMode .inHead
      return .done
    else if tag.name == "br" then otherwise
    else return .done

def afterHead (l : Lexeme) : Build Outcome := do
  let otherwise : Build Outcome := do
    insertBare "body"
    setMode .inBody
    return .again
  match l with
  | .char c => if isSpace c then insertChar c; return .done else otherwise
  | .comment s => insertComment s; return .done
  | .doctype _ => return .done
  | .finish => otherwise
  | .startTag tag =>
    if tag.name == "html" then bodyHtml tag; return .done
    else if tag.name == "body" then
      insertHtml tag
      setFramesetOk false
      setMode .inBody
      return .done
    else if tag.name == "frameset" then
      insertHtml tag
      setMode .inFrameset
      return .done
    else if ["base", "basefont", "bgsound", "link", "meta", "noframes", "script", "style",
        "template", "title"].contains tag.name then
      match (← get).head with
      | none => return .done
      | some head =>
        push head
        let outcome ← inHead l bodyHtml
        removeFromStack head
        return outcome
    else if tag.name == "head" then return .done
    else otherwise
  | .endTag tag =>
    if tag.name == "template" then inHead l bodyHtml
    else if telling ["body", "html", "br"] tag then otherwise
    else return .done

/-! ## 2. Text, templates and frames -/

/-- The text of an element. -/
def inText (l : Lexeme) : Build Outcome := do
  let close : Build Unit := do
    pop
    modify fun b => { b with mode := b.returnMode, model := .data }
  match l with
  | .char c => insertChar c; return .done
  | .finish => close; return .again
  | .endTag _ => close; return .done
  | _ => return .done

def inTemplate (l : Lexeme) : Build Outcome := do
  let goOn (mode : Mode) : Build Outcome := do
    modify fun b => { b with templateModes := mode :: b.templateModes.tail, mode := mode }
    return .again
  match l with
  | .char _ | .comment _ => inBody l
  | .doctype _ => return .done
  | .finish => finishTemplate
  | .startTag tag =>
    if ["base", "basefont", "bgsound", "link", "meta", "noframes", "script", "style", "template",
        "title"].contains tag.name then inHead l bodyHtml
    else if ["caption", "colgroup", "tbody", "tfoot", "thead"].contains tag.name then
      goOn .inTable
    else if tag.name == "col" then goOn .inColumnGroup
    else if tag.name == "tr" then goOn .inTableBody
    else if tag.name == "td" || tag.name == "th" then goOn .inRow
    else goOn .inBody
  | .endTag tag => if tag.name == "template" then inHead l bodyHtml else return .done

def finish : Build Outcome := do
  modify fun b => { b with finished := true }
  return .done

def inFrameset (l : Lexeme) : Build Outcome := do
  match l with
  | .char c =>
    if isSpace c then insertChar c
    return .done
  | .comment s => insertComment s; return .done
  | .doctype _ => return .done
  | .finish => finish
  | .startTag tag =>
    if tag.name == "html" then bodyHtml tag; return .done
    else if tag.name == "frameset" then insertHtml tag; return .done
    else if tag.name == "frame" then insertVoid tag; return .done
    else if tag.name == "noframes" then inHead l bodyHtml
    else return .done
  | .endTag tag =>
    if tag.name == "frameset" && (← get).stack.length != 1 then
      pop
      if !(← currentIs "frameset") then setMode .afterFrameset
    return .done

def afterFrameset (l : Lexeme) : Build Outcome := do
  match l with
  | .char c =>
    if isSpace c then insertChar c
    return .done
  | .comment s => insertComment s; return .done
  | .doctype _ => return .done
  | .finish => finish
  | .startTag tag =>
    if tag.name == "html" then bodyHtml tag; return .done
    else if tag.name == "noframes" then inHead l bodyHtml
    else return .done
  | .endTag tag =>
    if tag.name == "html" then setMode .afterAfterFrameset
    return .done

/-! ## 3. After the body -/

def backToBody : Build Outcome := do
  setMode .inBody
  return .again

def afterBody (l : Lexeme) : Build Outcome := do
  match l with
  | .char c => if isSpace c then inBody l else backToBody
  | .comment s =>
    insertCommentIn ((← get).stack.getLast?.getD documentId) s
    return .done
  | .doctype _ => return .done
  | .finish => finish
  | .startTag tag => if tag.name == "html" then bodyHtml tag; return .done else backToBody
  | .endTag tag =>
    if tag.name == "html" then
      setMode .afterAfterBody
      return .done
    else backToBody

def afterAfterBody (l : Lexeme) : Build Outcome := do
  match l with
  | .char c => if isSpace c then inBody l else backToBody
  | .comment s => insertCommentIn documentId s; return .done
  | .doctype _ => return .done
  | .finish => finish
  | .startTag tag => if tag.name == "html" then bodyHtml tag; return .done else backToBody
  | .endTag _ => backToBody

def afterAfterFrameset (l : Lexeme) : Build Outcome := do
  match l with
  | .char c => if isSpace c then inBody l else return .done
  | .comment s => insertCommentIn documentId s; return .done
  | .doctype _ => return .done
  | .finish => finish
  | .startTag tag =>
    if tag.name == "html" then bodyHtml tag; return .done
    else if tag.name == "noframes" then inHead l bodyHtml
    else return .done
  | .endTag _ => return .done

/-! ## 4. One lexeme -/

/-- The rule of a mode. -/
def ruleOf : Mode → Lexeme → Build Outcome
  | .initial => initial
  | .beforeHtml => beforeHtml
  | .beforeHead => beforeHead
  | .inHead => fun l => inHead l bodyHtml
  | .inHeadNoscript => inHeadNoscript
  | .afterHead => afterHead
  | .inBody => inBody
  | .text => inText
  | .inTable => inTable
  | .inTableText => inTableText
  | .inCaption => inCaption
  | .inColumnGroup => inColumnGroup
  | .inTableBody => inTableBody
  | .inRow => inRow
  | .inCell => inCell
  | .inSelect => inSelect
  | .inSelectInTable => inSelectInTable
  | .inTemplate => inTemplate
  | .afterBody => afterBody
  | .inFrameset => inFrameset
  | .afterFrameset => afterFrameset
  | .afterAfterBody => afterAfterBody
  | .afterAfterFrameset => afterAfterFrameset

/-- What an end tag meets in foreign content. -/
inductive ForeignEnd where
  /-- It closes through an element; the stack below that is left. -/
  | closes (left : List Id)
  /-- Content that is not foreign begins first. -/
  | reachesHtml
  | nothing

/-- Look for the element that an end tag closes among open foreign elements. -/
def foreignEnd (name : String) (first : Bool) : List Id → Build ForeignEnd
  | [] => return .nothing
  | [_] => return .nothing
  | id :: next :: rest => do
    let (v, tag) ← nameOf id
    if !first && v == .html then return .reachesHtml
    else if String.ofList (tag.toList.map Char.toLower) == name then return .closes (next :: rest)
    else foreignEnd name false (next :: rest)

/-- The rules of foreign content. -/
def inForeign (l : Lexeme) : Build Outcome := do
  match l with
  | .char c =>
    if c == '\x00' then insertChar replacement
    else
      insertChar c
      if !isSpace c then setFramesetOk false
    return .done
  | .comment s => insertComment s; return .done
  | .doctype _ => return .done
  | .finish => return .done
  | .startTag tag =>
    if breaksOut tag then
      leaveForeign
      ruleOf (← get).mode l
    else
      let (v, _) ← nameOf (← current)
      insertForeign v (if v == .svg then svgTag tag else mathTag tag)
      return .done
  | .endTag tag =>
    if tag.name == "p" || tag.name == "br" then
      leaveForeign
      ruleOf (← get).mode l
    else
      match ← foreignEnd tag.name true (← get).stack with
      | .closes left => modify fun b => { b with stack := left }; return .done
      | .reachesHtml => ruleOf (← get).mode l
      | .nothing => return .done

/-- Take a lexeme, again while a rule asks for it, in at most the given number of rounds. -/
def take (l : Lexeme) : Nat → Build Unit
  | 0 => pure ()
  | rounds + 1 => do
    let outcome ← if ← isForeign l then inForeign l else ruleOf (← get).mode l
    match outcome with
    | .done => pure ()
    | .again => take l rounds

/-- A line feed right after the start of a preformatted element says nothing. -/
def isIgnored (ignoring : Bool) (l : Lexeme) : Bool :=
  match l with
  | .char c => ignoring && c == '\n'
  | _ => false

/-- Take one lexeme. A round after the first few closes an open element, so the open elements
bound the rounds. -/
def step (l : Lexeme) : Build Unit := do
  let b ← get
  set { b with ignoreLineFeed := false }
  if !isIgnored b.ignoreLineFeed l then take l (4 * b.stack.length + 32)

/-! ## 5. The document -/

/-- Read a page, in at most the given number of steps. -/
def readPage : Nat → List Char → Build Unit
  | 0, _ => pure ()
  | steps + 1, cs =>
    match cs with
    | [] => step .finish
    | cs => do
      let b ← get
      let foreign ← currentIsForeign
      let (lexemes, left) := nextLexemes b.model b.textOf foreign cs
      for l in lexemes do step l
      readPage steps left

/-- The tree under a cell, to the given depth. -/
def treeAt (cells : Array Cell) : Nat → Id → Node
  | 0, _ => .fragment []
  | depth + 1, id =>
    let cell := cells[id]?.getD default
    let children := cell.lastFirst.reverse.map (treeAt cells depth)
    match cell.kind with
    | .document => .fragment children
    | .text content => .text content.toList
    | .comment content => .comment content
    | .fragment => .fragment children
    | .element v tag attributes => .element v tag attributes children

/-- The root element of a page. -/
def document (page : String) : Option Node :=
  let cs := normalized page.toList
  let (_, b) := (readPage (cs.length + 1) cs).run Builder.start
  let children := match treeAt b.cells b.cells.size documentId with
    | .fragment children => children
    | _ => []
  children.find? fun n =>
    match n with
    | .element .. => true
    | _ => false

end PageQuery.Html
