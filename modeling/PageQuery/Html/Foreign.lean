import PageQuery.Html.Builder
/-!
Content of other vocabularies inside HTML: SVG and MathML.

Names that HTML reads in lower case get back the spelling of their vocabulary, and some tags end the
foreign content at once.
-/

namespace PageQuery.Html

open Page

/-! ## 1. Spellings -/

def svgTags : List String :=
  ["altGlyph", "altGlyphDef", "altGlyphItem", "animateColor", "animateMotion",
   "animateTransform", "clipPath", "feBlend", "feColorMatrix", "feComponentTransfer",
   "feComposite", "feConvolveMatrix", "feDiffuseLighting", "feDisplacementMap", "feDistantLight",
   "feDropShadow", "feFlood", "feFuncA", "feFuncB", "feFuncG", "feFuncR", "feGaussianBlur",
   "feImage", "feMerge", "feMergeNode", "feMorphology", "feOffset", "fePointLight",
   "feSpecularLighting", "feSpotLight", "feTile", "feTurbulence", "foreignObject", "glyphRef",
   "linearGradient", "radialGradient", "textPath"]

def svgAttributes : List String :=
  ["attributeName", "attributeType", "baseFrequency", "baseProfile", "calcMode", "clipPathUnits",
   "diffuseConstant", "edgeMode", "filterUnits", "glyphRef", "gradientTransform",
   "gradientUnits", "kernelMatrix", "kernelUnitLength", "keyPoints", "keySplines", "keyTimes",
   "lengthAdjust", "limitingConeAngle", "markerHeight", "markerUnits", "markerWidth",
   "maskContentUnits", "maskUnits", "numOctaves", "pathLength", "patternContentUnits",
   "patternTransform", "patternUnits", "pointsAtX", "pointsAtY", "pointsAtZ", "preserveAlpha",
   "preserveAspectRatio", "primitiveUnits", "refX", "refY", "repeatCount", "repeatDur",
   "requiredExtensions", "requiredFeatures", "specularConstant", "specularExponent",
   "spreadMethod", "startOffset", "stdDeviation", "stitchTiles", "surfaceScale",
   "systemLanguage", "tableValues", "targetX", "targetY", "textLength", "viewBox", "viewTarget",
   "xChannelSelector", "yChannelSelector", "zoomAndPan"]

/-- The spelling in a list that a lower case name stands for. -/
def respelled (spellings : List String) (name : String) : String :=
  (spellings.find? fun s => String.ofList (s.toList.map Char.toLower) == name).getD name

def svgTag (tag : Tag) : Tag :=
  { tag with
    name := respelled svgTags tag.name
    attributes := tag.attributes.map fun (k, v) => (respelled svgAttributes k, v) }

def mathTag (tag : Tag) : Tag :=
  { tag with attributes := tag.attributes.map fun (k, v) => (respelled ["definitionURL"] k, v) }

/-! ## 2. Where foreign rules hold -/

/-- HTML tags that end foreign content. -/
def breakoutTags : List String :=
  ["b", "big", "blockquote", "body", "br", "center", "code", "dd", "div", "dl", "dt", "em",
   "embed", "h1", "h2", "h3", "h4", "h5", "h6", "head", "hr", "i", "img", "li", "listing",
   "menu", "meta", "nobr", "ol", "p", "pre", "ruby", "s", "small", "span", "strike", "strong",
   "sub", "sup", "table", "tt", "u", "ul", "var"]

/-- A start tag ends foreign content. -/
def breaksOut (tag : Tag) : Bool :=
  breakoutTags.contains tag.name ||
    (tag.name == "font" &&
      tag.attributes.any fun a => a.1 == "color" || a.1 == "face" || a.1 == "size")

/-- The current node is not HTML. -/
def currentIsForeign : Build Bool := do
  if (← get).stack.isEmpty then return false
  return (← nameOf (← current)).1 != .html

/-- The lexeme is for the rules of foreign content. -/
def isForeign (l : Lexeme) : Build Bool := do
  if (← get).stack.isEmpty then return false
  let id ← current
  let (v, tag) ← nameOf id
  match v with
  | .html => return false
  | .svg =>
    if foreignScope .svg tag then
      match l with
      | .char _ | .startTag _ | .finish => return false
      | _ => return true
    else
      match l with
      | .finish => return false
      | _ => return true
  | .mathml =>
    match l with
    | .finish => return false
    | .char _ | .startTag _ =>
      if foreignScope .mathml tag then
        match l with
        | .startTag t => return t.name == "mglyph" || t.name == "malignmark"
        | _ => return false
      else if tag == "annotation-xml" then
        let svgStart := match l with
          | .startTag t => t.name == "svg"
          | _ => false
        let encoded := match (← cellAt id).kind with
          | .element _ _ attributes => attributes.any fun a =>
              a.1 == "encoding" && ["text/html", "application/xhtml+xml"].contains
                (String.ofList (a.2.toList.map Char.toLower))
          | _ => false
        return !(svgStart || encoded)
      else return true
    | _ => return true

/-- Close foreign elements down to one where the rules of HTML hold. -/
def leaveForeign : Build Unit := do
  let rec go : List Id → Build (List Id)
    | [] => return []
    | id :: rest => do
      let (v, tag) ← nameOf id
      if v == .html || foreignScope v tag then return id :: rest else go rest
  let stack ← go (← get).stack
  modify fun b => { b with stack := stack }

/-- Insert a foreign element. -/
def insertForeign (v : Vocabulary) (tag : Tag) : Build Unit := do
  let _ ← insertElement v tag
  if tag.selfClosing then pop

end PageQuery.Html
