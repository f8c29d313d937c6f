import PageQuery.Html.Lexer
import PageQuery.Page.Node
/-!
A document under construction.

Nodes live in an array and name each other by index, since construction moves them about. The
builder also holds what the rules of construction consult: the open elements, the formatting
elements to be reopened, and the insertion mode.
-/

namespace PageQuery.Html

open Page

/-! ## 1. Cells -/

/-- The index of a node. -/
abbrev Id := Nat

inductive CellKind where
  | document
  | text (content : String)
  | comment (content : List Char)
  /-- The content of a template. -/
  | fragment
  | element (vocabulary : Vocabulary) (tag : String) (attributes : List (String × String))

/-- A node with its place in the tree. -/
structure Cell where
  kind : CellKind
  parent : Option Id
  /-- The children, the last one first. -/
  lastFirst : List Id

instance : Inhabited Cell := ⟨⟨.document, none, []⟩⟩

/-! ## 2. The builder -/

inductive Mode where
  | initial
  | beforeHtml
  | beforeHead
  | inHead
  | inHeadNoscript
  | afterHead
  | inBody
  | text
  | inTable
  | inTableText
  | inCaption
  | inColumnGroup
  | inTableBody
  | inRow
  | inCell
  | inSelect
  | inSelectInTable
  | inTemplate
  | afterBody
  | inFrameset
  | afterFrameset
  | afterAfterBody
  | afterAfterFrameset
  deriving DecidableEq, Inhabited

/-- An entry of the list of formatting elements. -/
inductive Formatting where
  | marker
  | element (id : Id) (tag : Tag)

structure Builder where
  cells : Array Cell
  mode : Mode
  /-- The mode to go back to after text. -/
  returnMode : Mode
  templateModes : List Mode
  /-- The open elements, the current one first. -/
  stack : List Id
  /-- The formatting elements, the latest first. -/
  formatting : List Formatting
  head : Option Id
  form : Option Id
  framesetOk : Bool
  fostering : Bool
  quirks : Bool
  /-- Text of a table that is not placed yet, in reverse. -/
  tableText : List Char
  ignoreLineFeed : Bool
  model : ContentModel
  /-- The element whose text is read. -/
  textOf : String
  finished : Bool

/-- A builder with an empty document. -/
def Builder.start : Builder :=
  { cells := #[⟨.document, none, []⟩]
    mode := .initial
    returnMode := .initial
    templateModes := []
    stack := []
    formatting := []
    head := none
    form := none
    framesetOk := true
    fostering := false
    quirks := false
    tableText := []
    ignoreLineFeed := false
    model := .data
    textOf := ""
    finished := false }

abbrev Build := StateM Builder

/-- The document node. -/
def documentId : Id := 0

/-! ## 3. Looking -/

def cellAt (id : Id) : Build Cell := do return (← get).cells[id]?.getD default

/-- The vocabulary and the tag of an element. -/
def nameOf (id : Id) : Build (Vocabulary × String) := do
  match (← cellAt id).kind with
  | .element v tag _ => return (v, tag)
  | _ => return (.html, "")

/-- An element is the HTML element of this tag. -/
def isHtml (id : Id) (tag : String) : Build Bool := do return (← nameOf id) == (.html, tag)

/-- An element is an HTML element of one of these tags. -/
def isHtmlIn (id : Id) (tags : List String) : Build Bool := do
  let (v, tag) ← nameOf id
  return v == .html && tags.contains tag

/-- The current node. -/
def current : Build Id := do return (← get).stack.headD documentId

def currentIs (tag : String) : Build Bool := do isHtml (← current) tag

def currentIsIn (tags : List String) : Build Bool := do isHtmlIn (← current) tags

/-! ## 4. Moving nodes -/

def modifyCell (id : Id) (f : Cell → Cell) : Build Unit :=
  modify fun b => { b with cells := b.cells.modify id f }

/-- A new node without a place. -/
def newCell (kind : CellKind) : Build Id := do
  let id := (← get).cells.size
  modify fun b => { b with cells := b.cells.push ⟨kind, none, []⟩ }
  return id

/-- Take a node out of its place. -/
def detach (id : Id) : Build Unit := do
  match (← cellAt id).parent with
  | none => pure ()
  | some p =>
    modifyCell p fun c => { c with lastFirst := c.lastFirst.filter (· != id) }
    modifyCell id fun c => { c with parent := none }

/-- Make a node the last child of another. -/
def append (parent child : Id) : Build Unit := do
  detach child
  modifyCell parent fun c => { c with lastFirst := child :: c.lastFirst }
  modifyCell child fun c => { c with parent := some parent }

/-- Put a node before a sibling. -/
def insertBefore (parent sibling child : Id) : Build Unit := do
  detach child
  modifyCell parent fun c =>
    { c with lastFirst := c.lastFirst.flatMap fun x => if x == sibling then [x, child] else [x] }
  modifyCell child fun c => { c with parent := some parent }

/-- Move all children of a node to the end of another. -/
def moveChildren (source target : Id) : Build Unit := do
  for child in (← cellAt source).lastFirst.reverse do
    append target child

/-- Where a node goes. -/
inductive Place where
  | lastIn (parent : Id)
  | before (parent sibling : Id)

/-- Put a node in its place. -/
def putAt (place : Place) (child : Id) : Build Unit :=
  match place with
  | .lastIn parent => append parent child
  | .before parent sibling => insertBefore parent sibling child

/-- Put a character in its place, joined to text that ends there. -/
def putChar (place : Place) (c : Char) : Build Unit := do
  let previous : Option Id ← match place with
    | .lastIn parent => do pure (← cellAt parent).lastFirst.head?
    | .before parent sibling => do
      pure ((← cellAt parent).lastFirst.dropWhile (· != sibling)).tail.head?
  match previous with
  | none => putAt place (← newCell (.text (String.singleton c)))
  | some p =>
    match (← cellAt p).kind with
    | .text s => modifyCell p fun cell => { cell with kind := .text (s.push c) }
    | _ => putAt place (← newCell (.text (String.singleton c)))

/-- Where the children of an element go: a template keeps them in its content. -/
def insideOf (id : Id) : Build Place := do
  if ← isHtml id "template" then
    return .lastIn ((← cellAt id).lastFirst.getLastD id)
  else return .lastIn id

/-- Where a node goes that was found among the parts of a table: into a template opened since, else
before the table. -/
def fosterPlace (stack : List Id) : Build Place := do
  match stack with
  | [] => return .lastIn documentId
  | [root] => insideOf root
  | top :: below :: rest =>
    if ← isHtml top "template" then insideOf top
    else if ← isHtml top "table" then
      match (← cellAt top).parent with
      | some p => return .before p top
      | none => insideOf below
    else fosterPlace (below :: rest)

def tableParts : List String := ["table", "tbody", "tfoot", "thead", "tr"]

/-- Where a node goes that is inserted under the given target, or the current node. -/
def placeFor (target : Option Id) : Build Place := do
  let t := target.getD (← current)
  if (← get).fostering && (← isHtmlIn t tableParts) then fosterPlace (← get).stack
  else insideOf t

/-! ## 5. Inserting -/

/-- A new element; a template starts with its content. -/
def createElement (v : Vocabulary) (tag : Tag) : Build Id := do
  let id ← newCell (.element v tag.name tag.attributes)
  if v == .html && tag.name == "template" then
    append id (← newCell .fragment)
  return id

def push (id : Id) : Build Unit := modify fun b => { b with stack := id :: b.stack }

def pop : Build Unit := modify fun b => { b with stack := b.stack.tail }

/-- Insert an element and make it the current node. -/
def insertElement (v : Vocabulary) (tag : Tag) : Build Id := do
  let place ← placeFor none
  let id ← createElement v tag
  putAt place id
  push id
  return id

def insertHtml (tag : Tag) : Build Unit := do
  let _ ← insertElement .html tag

/-- Insert an element without attributes. -/
def insertBare (name : String) : Build Unit := insertHtml ⟨name, [], false⟩

/-- Insert an element that holds nothing. -/
def insertVoid (tag : Tag) : Build Unit := do
  insertHtml tag
  pop

def insertChar (c : Char) : Build Unit := do putChar (← placeFor none) c

def insertComment (content : List Char) : Build Unit := do
  putAt (← placeFor none) (← newCell (.comment content))

def insertCommentIn (parent : Id) (content : List Char) : Build Unit := do
  append parent (← newCell (.comment content))

/-- Give an element the attributes that it does not have. -/
def addAttributes (id : Id) (attributes : List (String × String)) : Build Unit :=
  modifyCell id fun c =>
    match c.kind with
    | .element v tag old =>
      let fresh := attributes.filter fun a => !old.any fun o => o.1 == a.1
      { c with kind := .element v tag (old ++ fresh) }
    | _ => c

def setMode (mode : Mode) : Build Unit := modify fun b => { b with mode := mode }

def setFramesetOk (ok : Bool) : Build Unit := modify fun b => { b with framesetOk := ok }

/-- Insert an element and read its text under another content model. -/
def insertTextElement (tag : Tag) (model : ContentModel) : Build Unit := do
  insertHtml tag
  modify fun b =>
    { b with model := model, textOf := tag.name, returnMode := b.mode, mode := .text }

/-! ## 6. Scopes -/

/-- What closes a scope. -/
def scopeTags : List String :=
  ["applet", "caption", "html", "table", "td", "th", "marquee", "object", "template"]

def foreignScope (v : Vocabulary) (tag : String) : Bool :=
  match v with
  | .mathml => ["mi", "mo", "mn", "ms", "mtext"].contains tag
  | .svg => ["foreignObject", "desc", "title"].contains tag
  | .html => false

inductive Scope where
  | ordinary
  | listItem
  | button
  | table
  | select

def Scope.closedBy (s : Scope) (v : Vocabulary) (tag : String) : Bool :=
  let ordinary := (v == .html && scopeTags.contains tag) || foreignScope v tag
  match s with
  | .ordinary => ordinary
  | .listItem => ordinary || (v == .html && (tag == "ol" || tag == "ul"))
  | .button => ordinary || (v == .html && tag == "button")
  | .table => v == .html && (tag == "html" || tag == "table" || tag == "template")
  | .select => !(v == .html && (tag == "optgroup" || tag == "option"))

/-- One of the open elements that the test accepts is in scope. -/
def inScopeWhere (s : Scope) (test : Id → Vocabulary × String → Bool) : Build Bool := do
  for id in (← get).stack do
    let name ← nameOf id
    if test id name then return true
    if s.closedBy name.1 name.2 then return false
  return false

def inScopeAny (s : Scope) (tags : List String) : Build Bool :=
  inScopeWhere s fun _ name => name.1 == .html && tags.contains name.2

def inScope (s : Scope) (tag : String) : Build Bool := inScopeAny s [tag]

/-- An element of this tag is open. -/
def isOpen (tag : String) : Build Bool := do
  for id in (← get).stack do
    if ← isHtml id tag then return true
  return false

/-! ## 7. Closing -/

/-- Elements whose end tag may be left out. -/
def impliedTags : List String :=
  ["dd", "dt", "li", "optgroup", "option", "p", "rb", "rp", "rt", "rtc"]

def thoroughlyImpliedTags : List String :=
  impliedTags ++ ["caption", "colgroup", "tbody", "td", "tfoot", "th", "thead", "tr"]

/-- The stack without the elements on top that have one of the tags. -/
def droppingTags (tags : List String) : List Id → Build (List Id)
  | [] => return []
  | id :: rest => do
    if ← isHtmlIn id tags then droppingTags tags rest else return id :: rest

/-- Close elements of the given tags from the top. -/
def closeImpliedIn (tags : List String) : Build Unit := do
  let stack ← droppingTags tags (← get).stack
  modify fun b => { b with stack := stack }

/-- Close elements whose end tag may be left out, but none of the given tag. -/
def closeImplied (except : String) : Build Unit :=
  closeImpliedIn (impliedTags.filter (· != except))

/-- The stack below the first element of one of the tags. -/
def belowTags (tags : List String) : List Id → Build (List Id)
  | [] => return []
  | id :: rest => do
    if ← isHtmlIn id tags then return rest else belowTags tags rest

/-- Close elements through the first of one of the tags. -/
def popThroughIn (tags : List String) : Build Unit := do
  let stack ← belowTags tags (← get).stack
  modify fun b => { b with stack := stack }

def popThrough (tag : String) : Build Unit := popThroughIn [tag]

/-- The stack from the first element of one of the tags. -/
def fromTags (tags : List String) : List Id → Build (List Id)
  | [] => return []
  | id :: rest => do
    if ← isHtmlIn id tags then return id :: rest else fromTags tags rest

/-- Close elements down to the first of one of the tags. -/
def popDownTo (tags : List String) : Build Unit := do
  let stack ← fromTags tags (← get).stack
  modify fun b => { b with stack := stack }

def closeP : Build Unit := do
  closeImplied "p"
  popThrough "p"

/-- Close a paragraph if one is open in button scope. -/
def closeOpenP : Build Unit := do
  if ← inScope .button "p" then closeP

/-- Take an element off the stack wherever it is. -/
def removeFromStack (id : Id) : Build Unit :=
  modify fun b => { b with stack := b.stack.filter (· != id) }

/-! ## 8. Formatting elements -/

/-- Forget formatting elements through the last marker. -/
def clearToMarker : Build Unit :=
  modify fun b =>
    { b with formatting := (b.formatting.dropWhile fun f =>
        match f with
        | .marker => false
        | .element _ _ => true).tail }

def pushMarker : Build Unit := modify fun b => { b with formatting := .marker :: b.formatting }

/-- The formatting elements since the last marker. -/
def sinceMarker : List Formatting → List (Id × Tag)
  | [] => []
  | .marker :: _ => []
  | .element id tag :: rest => (id, tag) :: sinceMarker rest

/-- Two tags make equal elements. -/
def sameTag (a b : Tag) : Bool :=
  a.name == b.name && a.attributes.length == b.attributes.length &&
    a.attributes.all fun x => b.attributes.contains x

/-- Forget an element as a formatting element. -/
def removeFormatting (id : Id) : Build Unit :=
  modify fun b =>
    { b with formatting := b.formatting.filter fun f =>
        match f with
        | .marker => true
        | .element other _ => other != id }

/-- Remember a formatting element. Of equal ones since the last marker three are kept. -/
def pushFormatting (id : Id) (tag : Tag) : Build Unit := do
  let equal := (sinceMarker (← get).formatting).filter fun f => sameTag f.2 tag
  if equal.length ≥ 3 then
    match equal.getLast? with
    | some (oldest, _) => removeFormatting oldest
    | none => pure ()
  modify fun b => { b with formatting := .element id tag :: b.formatting }

/-- The formatting elements on top that are not open, the latest first, and the list below them. -/
def unopened (stack : List Id) : List Formatting → List Tag × List Formatting
  | .element id tag :: rest =>
    if stack.contains id then ([], .element id tag :: rest)
    else
      let (tags, below) := unopened stack rest
      (tag :: tags, below)
  | below => ([], below)

/-- Reopen the formatting elements that were closed since the last marker. -/
def reopenFormatting : Build Unit := do
  let (tags, below) := unopened (← get).stack (← get).formatting
  modify fun b => { b with formatting := below }
  for tag in tags.reverse do
    let id ← insertElement .html tag
    modify fun b => { b with formatting := .element id tag :: b.formatting }

/-- Insert a formatting element. -/
def insertFormatting (tag : Tag) : Build Unit := do
  let id ← insertElement .html tag
  pushFormatting id tag

/-! ## 9. Special elements -/

/-- Elements with rules of their own. -/
def specialTags : List String :=
  ["address", "applet", "area", "article", "aside", "base", "basefont", "bgsound", "blockquote",
   "body", "br", "button", "caption", "center", "col", "colgroup", "dd", "details", "dir", "div",
   "dl", "dt", "embed", "fieldset", "figcaption", "figure", "footer", "form", "frame", "frameset",
   "h1", "h2", "h3", "h4", "h5", "h6", "head", "header", "hgroup", "hr", "html", "iframe", "img",
   "input", "isindex", "li", "link", "listing", "main", "marquee", "menu", "meta", "nav",
   "noembed", "noframes", "noscript", "object", "ol", "p", "param", "plaintext", "pre", "script",
   "section", "select", "source", "style", "summary", "table", "tbody", "td", "template",
   "textarea", "tfoot", "th", "thead", "title", "tr", "track", "ul", "wbr", "xmp"]

def isSpecial (name : Vocabulary × String) : Bool :=
  (name.1 == .html && specialTags.contains name.2) || foreignScope name.1 name.2

end PageQuery.Html
