import PageQuery.Text.Basic
import PageQuery.Capture.Snapshot
/-!
Choosing the part of a page to serialize (specification §4.2, Content Extractor).

An `Outline` is an element with what extraction asks of it (`PageElement`): its tag, its attributes,
its text, its own markup, and its child elements. Text and markup are given, not computed from the
children, so what is said of outlines holds of every way to render a tree. `preorder` is the document
order.

The full scope is the root. The main scope is the first element in document order that is marked as
content (`first_match`); failing that the element under the body, at most three levels deep, that holds
the most text, the first of equals (`find_largest_element`); failing that the root again. `Source` says
which of these it was.

Both searches are loops over a stack of the elements that are still to be visited. A turn takes one
element off and puts its children on, so there is always one element less to come.
-/

namespace PageQuery.Page

open Text

/-! ## 1. Outlines -/

/-- What extraction asks of one element. Text and markup are worked out when they are asked for. -/
structure Facts where
  tag : String
  attributes : List (String × String)
  /-- The text of all that the element holds. -/
  text : Thunk String
  /-- The markup of the element with its own tags. -/
  outer : Thunk String

/-- An element and its child elements. -/
inductive Outline where
  | node (facts : Facts) (children : List Outline)

namespace Outline

instance : Inhabited Outline := ⟨node ⟨"", [], "", ""⟩ []⟩

def facts : Outline → Facts
  | node f _ => f

def children : Outline → List Outline
  | node _ cs => cs

def tag (o : Outline) : String := o.facts.tag

def text (o : Outline) : String := o.facts.text.get

def outer (o : Outline) : String := o.facts.outer.get

/-- The value of the first attribute of exactly this name. -/
def attribute? (o : Outline) (name : String) : Option String :=
  (o.facts.attributes.find? (fun a => a.1 == name)).map (·.2)

/-- The length of the element's text without the blanks at its ends, in characters. -/
def weight (o : Outline) : Nat := (trimChars o.text.toList).length

mutual

/-- An element and all elements under it in document order. -/
def preorder : Outline → List Outline
  | node f cs => node f cs :: preorderIn cs

def preorderIn : List Outline → List Outline
  | [] => []
  | o :: rest => preorder o ++ preorderIn rest

end

theorem preorderIn_append : ∀ os more : List Outline,
    preorderIn (os ++ more) = preorderIn os ++ preorderIn more
  | [], _ => by rw [preorderIn, List.nil_append, List.nil_append]
  | o :: rest, more => by
      rw [List.cons_append, preorderIn, preorderIn, preorderIn_append rest more, List.append_assoc]

/-- An element comes first, and then all that there is with its children in its place. -/
theorem preorderIn_cons (o : Outline) (os : List Outline) :
    preorderIn (o :: os) = o :: preorderIn (o.children ++ os) := by
  cases o with
  | node f cs => rw [preorderIn, preorder, children, preorderIn_append, List.cons_append]

end Outline

/-- Two names are equal but for the case of ASCII letters. -/
def sameName (a b : String) : Bool := a.toList.map Char.toLower == b.toList.map Char.toLower

/-- The first child of the root that is a body. -/
def body? (root : Outline) : Option Outline := root.children.find? fun o => sameName o.tag "body"

open Outline

/-! ## 2. The stack -/

/-- Put elements on a stack one by one, the last of them first, so that the first comes out next. -/
def pushAll {α : Type} (stack os : List α) : List α := os.reverse.foldl (fun s o => o :: s) stack

@[simp] theorem pushAll_eq_append {α : Type} (stack os : List α) :
    pushAll stack os = os ++ stack := by
  simp [pushAll]

/-! ## 3. Marked content -/

/-- A mark of an explicit content region. -/
inductive Selector where
  /-- The tag, whatever its case. -/
  | tag (name : String)
  /-- The exact role. -/
  | role (name : String)

def Selector.accepts (s : Selector) (o : Outline) : Bool :=
  match s with
  | tag name => sameName o.tag name
  | role name => o.attribute? "role" == some name

/-- What marks the main content of a page. -/
def contentSelectors : List Selector :=
  [.tag "article", .tag "main", .role "main", .role "full"]

/-- An element that one of the selectors marks. -/
def marked (selectors : List Selector) (o : Outline) : Bool :=
  selectors.any fun s => s.accepts o

-- The loops are left open, so that what they find in a document at hand can be computed.

/-- Take elements from the stack until one is marked. In the place of an element that is not, its
children go on the stack. -/
@[semireducible] def seek (selectors : List Selector) : List Outline → Option Outline
  | [] => none
  | o :: stack =>
    if marked selectors o then some o else seek selectors (pushAll stack o.children)
termination_by stack => (preorderIn stack).length
decreasing_by simp [preorderIn_cons]

/-- The first marked element in document order, the root itself included. -/
def firstMatch (selectors : List Selector) (root : Outline) : Option Outline :=
  seek selectors [root]

/-! ## 4. The most text -/

/-- How many levels below the body are looked at. -/
def heuristicDepth : Nat := 3

/-- Keep the best so far unless the element holds strictly more text. -/
def heavier (best : Option Outline) (o : Outline) : Option Outline :=
  match best with
  | none => some o
  | some b => if b.weight < o.weight then some o else some b

/-- Take elements from the stack, each with its depth, and keep the best. The children of an element
go on the stack in its place. What lies deeper than the levels that are looked at is passed over. -/
@[semireducible] def survey (levels : Nat) (best : Option Outline) :
    List (Outline × Nat) → Option Outline
  | [] => best
  | (o, depth) :: stack =>
    if levels < depth then survey levels best stack
    else survey levels (heavier best o) (pushAll stack (o.children.map fun c => (c, depth + 1)))
termination_by stack => (preorderIn (stack.map Prod.fst)).length
decreasing_by
  · simp only [List.map_cons, preorderIn_cons, preorderIn_append, List.length_cons,
      List.length_append]
    omega
  · simp [preorderIn_cons, Function.comp_def]

/-- The element under the root, at most so many levels deep, that holds the most text; the first of
equals in document order. -/
def largest (root : Outline) (levels : Nat) : Option Outline :=
  survey levels none (pushAll [] (root.children.map fun c => (c, 1)))

/-! ## 5. Extraction -/

/-- The main content of a document. -/
def extractMain (root : Outline) : Snapshot :=
  match firstMatch contentSelectors root with
  | some o => .ofHtml o.outer .main .preferred
  | none =>
    match (body? root).bind fun b => largest b heuristicDepth with
    | some o => .ofHtml o.outer .main .heuristic
    | none => .ofHtml root.outer .main .fullFallback

/-- The part of a document that a scope asks for. A document without a root yields nothing. -/
def extract (root : Option Outline) (scope : Scope) : Snapshot :=
  match root, scope with
  | none, scope => .blank scope
  | some r, .full => .ofHtml r.outer .full .full
  | some r, .main => extractMain r

end PageQuery.Page
