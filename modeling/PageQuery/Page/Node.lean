import PageQuery.Page.Extract
/-!
Document trees.

A node is text, a comment, an element, or the fragment that holds a template's content. There are
two ways to write an element: `html`, the standard serialization, which escapes text and knows void
and raw-text elements, and `literal`, which writes everything as it stands. `outline` is what
extraction sees of an element in either.
-/

namespace PageQuery.Page

/-- The vocabulary that an element's name belongs to. -/
inductive Vocabulary where
  | html
  | svg
  | mathml
  deriving DecidableEq, Repr

inductive Node where
  | text (content : List Char)
  | comment (content : List Char)
  | fragment (children : List Node)
  | element (vocabulary : Vocabulary) (tag : String) (attributes : List (String × String))
      (children : List Node)

namespace Node

instance : Inhabited Node := ⟨text []⟩

/-! ## 1. Text -/

mutual

/-- The text of a node in front of what follows it. -/
def textOnto (rest : List Char) : Node → List Char
  | text s => s ++ rest
  | comment _ => rest
  | fragment cs => textInOnto rest cs
  | element _ _ _ cs => textInOnto rest cs

def textInOnto (rest : List Char) : List Node → List Char
  | [] => rest
  | n :: more => textOnto (textInOnto rest more) n

end

/-- The text of nodes: their text nodes in order. -/
def textContent (cs : List Node) : List Char := textInOnto [] cs

/-! ## 2. The standard serialization -/

/-- A character of text. -/
def escapeText (c : Char) : List Char :=
  if c = '&' then "&amp;".toList
  else if c = '\u00a0' then "&nbsp;".toList
  else if c = '<' then "&lt;".toList
  else if c = '>' then "&gt;".toList
  else [c]

/-- A character of an attribute value. -/
def escapeAttribute (c : Char) : List Char :=
  if c = '&' then "&amp;".toList
  else if c = '\u00a0' then "&nbsp;".toList
  else if c = '"' then "&quot;".toList
  else [c]

/-- Elements that hold nothing and have no end tag. -/
def voidTags : List String :=
  ["area", "base", "basefont", "bgsound", "br", "col", "embed", "frame", "hr", "img", "input",
   "keygen", "link", "meta", "param", "source", "track", "wbr"]

/-- Elements whose text is written as it stands. -/
def rawTags : List String :=
  ["style", "script", "xmp", "iframe", "noembed", "noframes", "plaintext"]

def isVoid (v : Vocabulary) (tag : String) : Bool := v = .html && voidTags.contains tag

def isRaw (v : Vocabulary) (tag : String) : Bool := v = .html && rawTags.contains tag

/-- A start tag, its attribute values written by the given rule. -/
def startTag (escape : Char → List Char) (tag : String) (attributes : List (String × String)) :
    List Char :=
  '<' :: (tag.toList ++ attributes.flatMap (fun (name, value) =>
    ' ' :: (name.toList ++ '=' :: '"' :: (value.toList.flatMap escape ++ ['"']))) ++ ['>'])

def endTag (tag : String) : List Char := '<' :: '/' :: (tag.toList ++ ['>'])

mutual

/-- A node in the standard serialization, in front of what follows it; `raw` says whether text around
it stands as it is. -/
def htmlOnto (raw : Bool) (rest : List Char) : Node → List Char
  | text s => (if raw then s else s.flatMap escapeText) ++ rest
  | comment s => "<!--".toList ++ s ++ "-->".toList ++ rest
  | fragment cs => htmlInOnto raw rest cs
  | element v tag attributes cs =>
    startTag escapeAttribute tag attributes ++
      (if isVoid v tag then rest else htmlInOnto (isRaw v tag) (endTag tag ++ rest) cs)

def htmlInOnto (raw : Bool) (rest : List Char) : List Node → List Char
  | [] => rest
  | n :: more => htmlOnto raw (htmlInOnto raw rest more) n

end

/-- A node in the standard serialization. -/
def html (n : Node) : List Char := htmlOnto false [] n

/-! ## 3. The literal serialization -/

mutual

/-- A node with nothing escaped and an end tag on every element, in front of what follows it. -/
def literalOnto (rest : List Char) : Node → List Char
  | text s => s ++ rest
  | comment s => "<!--".toList ++ s ++ "-->".toList ++ rest
  | fragment cs => literalInOnto rest cs
  | element _ tag attributes cs =>
    startTag (fun c => [c]) tag attributes ++ literalInOnto (endTag tag ++ rest) cs

def literalInOnto (rest : List Char) : List Node → List Char
  | [] => rest
  | n :: more => literalOnto (literalInOnto rest more) n

end

/-- A node with nothing escaped. -/
def literal (n : Node) : List Char := literalOnto [] n

/-! ## 4. Outlines -/

mutual

/-- What extraction sees of a node, if it is an element. -/
def outline? (write : Node → List Char) : Node → Option Outline
  | element v tag attributes cs =>
    some (.node
      { tag := tag
        attributes := attributes
        text := .mk fun _ => String.ofList (textContent cs)
        outer := .mk fun _ => String.ofList (write (element v tag attributes cs)) }
      (outlines write cs))
  | _ => none

/-- The elements among nodes. -/
def outlines (write : Node → List Char) : List Node → List Outline
  | [] => []
  | n :: rest =>
    match outline? write n with
    | some o => o :: outlines write rest
    | none => outlines write rest

end

end Node

end PageQuery.Page
