import Mathlib.Data.String.Basic
import PageQuery.Proofs.Page.Sources
/-!
Documents in which the text, or the markup, of an element contains that of its child elements.

Nothing in the two searches asks for this, and an `Outline` may have any text and markup. But where
texts nest (`Nests text`), no element holds more text than the child of the root that it stands
under, so the search for the most text is over after the first level: `largest_is_longest_child`. And
where markup nests (`Nests outer`), what the main scope captures is a piece of what the full scope
captures: `main_is_piece_of_full`.

The outlines of node trees nest: their texts always (`nests_text`), their standard serializations as
long as there are no elements in void elements (`nests_outer`).
-/

namespace PageQuery.Page

open Outline Text

namespace Outline

/-! ## 1. Nesting -/

variable {root o c e : Outline} {part : Outline → String} {depth levels : Nat}

/-- The part of every element in the document contains those of its child elements, each in one
piece. -/
def Nests (part : Outline → String) (root : Outline) : Prop :=
  ∀ e, root.Holds e → ∀ c ∈ e.children, (part c).toList <:+: (part e).toList

theorem Holds.of_child (hChild : c ∈ root.children) (h : c.Holds e) : root.Holds e := by
  rcases h with rfl | ⟨depth, hAt⟩
  · exact Or.inr ⟨1, .child hChild⟩
  · exact Or.inr ⟨depth + 1, .under hChild hAt⟩

theorem Nests.child (h : Nests part root) (hChild : c ∈ root.children) : Nests part c :=
  fun e hHolds => h e (hHolds.of_child hChild)

theorem Nests.infix_of_child (h : Nests part root) (hChild : c ∈ root.children) :
    (part c).toList <:+: (part root).toList := h root (Or.inl rfl) c hChild

theorem Nests.infix_of_isAt (h : Nests part root) (hAt : IsAt root depth e) :
    (part e).toList <:+: (part root).toList := by
  induction hAt with
  | child hChild => exact h.infix_of_child hChild
  | under hChild _ ih => exact (ih (h.child hChild)).trans (h.infix_of_child hChild)

theorem Nests.infix_of_holds (h : Nests part root) (hHolds : root.Holds e) :
    (part e).toList <:+: (part root).toList := by
  rcases hHolds with rfl | ⟨depth, hAt⟩
  · exact List.infix_rfl
  · exact h.infix_of_isAt hAt

theorem weight_le_of_infix (h : e.text.toList <:+: o.text.toList) : e.weight ≤ o.weight :=
  (isInfix_trimChars h).length_le

/-- Nothing under an element outweighs it. -/
theorem Nests.weight_le (h : Nests text root) (hMem : e ∈ within levels root) :
    e.weight ≤ root.weight := by
  obtain ⟨depth, -, hAt⟩ := (mem_within_iff levels root).mp hMem
  exact weight_le_of_infix (h.infix_of_isAt hAt)

end Outline

/-! ## 2. The outlines of node trees -/

namespace Node

variable {write : Node → List Char} {n : Node} {o c e : Outline}

theorem mem_outlines_iff {cs : List Node} :
    o ∈ outlines write cs ↔ ∃ m ∈ cs, outline? write m = some o := by
  induction cs with
  | nil => simp [outlines]
  | cons m rest ih =>
    rw [outlines]
    cases hOutline : outline? write m with
    | none => simp [hOutline, ih]
    | some first => simp [hOutline, ih, eq_comm]

/-- Only elements have outlines. -/
theorem exists_element_of_outline? (h : outline? write n = some o) :
    ∃ v tag attributes cs, n = element v tag attributes cs ∧ o.tag = tag ∧
      o.text = String.ofList (textContent cs) ∧ o.outer = String.ofList (write n) ∧
      o.children = outlines write cs := by
  cases n with
  | text s => simp [outline?] at h
  | comment s => simp [outline?] at h
  | fragment cs => simp [outline?] at h
  | element v tag attributes cs =>
    rw [outline?, Option.some_inj] at h
    subst h
    exact ⟨v, tag, attributes, cs, rfl, rfl, rfl, rfl, rfl⟩

theorem exists_node_of_child (h : outline? write n = some o) (hChild : c ∈ o.children) :
    ∃ m, outline? write m = some c := by
  obtain ⟨_, _, _, cs, -, -, -, -, hChildren⟩ := exists_element_of_outline? h
  rw [hChildren] at hChild
  obtain ⟨m, -, hOutline⟩ := mem_outlines_iff.mp hChild
  exact ⟨m, hOutline⟩

/-- What stands in the outline of a node is the outline of a node. -/
theorem exists_node_of_holds (h : outline? write n = some o) (hHolds : o.Holds e) :
    ∃ m, outline? write m = some e := by
  rcases hHolds with rfl | ⟨depth, hAt⟩
  · exact ⟨n, h⟩
  · induction hAt generalizing n with
    | child hChild => exact exists_node_of_child h hChild
    | under hChild _ ih =>
      obtain ⟨m, hOutline⟩ := exists_node_of_child h hChild
      exact ih hOutline

/-! Text and markup are written in front of what follows. So what is written for nodes is what is
written for each of them, one after the other. -/

mutual

theorem textOnto_eq_append (rest : List Char) : ∀ n : Node, textOnto rest n = textOnto [] n ++ rest
  | text s => by rw [textOnto, textOnto, List.append_nil]
  | comment _ => by rw [textOnto, textOnto, List.nil_append]
  | fragment cs => by
      rw [textOnto, textOnto, textInOnto_eq_flatMap rest cs, textInOnto_eq_flatMap [] cs,
        List.append_nil]
  | element _ _ _ cs => by
      rw [textOnto, textOnto, textInOnto_eq_flatMap rest cs, textInOnto_eq_flatMap [] cs,
        List.append_nil]

theorem textInOnto_eq_flatMap (rest : List Char) : ∀ cs : List Node,
    textInOnto rest cs = cs.flatMap (textOnto []) ++ rest
  | [] => by rw [textInOnto, List.flatMap_nil, List.nil_append]
  | n :: more => by
      rw [textInOnto, textOnto_eq_append (textInOnto rest more) n, textInOnto_eq_flatMap rest more,
        List.flatMap_cons, List.append_assoc]

end

mutual

theorem htmlOnto_eq_append (raw : Bool) (rest : List Char) : ∀ n : Node,
    htmlOnto raw rest n = htmlOnto raw [] n ++ rest
  | text s => by rw [htmlOnto, htmlOnto, List.append_nil]
  | comment s => by rw [htmlOnto, htmlOnto, List.append_nil]
  | fragment cs => by
      rw [htmlOnto, htmlOnto, htmlInOnto_eq_flatMap raw rest cs, htmlInOnto_eq_flatMap raw [] cs,
        List.append_nil]
  | element v tag attributes cs => by
      rw [htmlOnto, htmlOnto, List.append_assoc]
      split
      case isTrue => rw [List.nil_append]
      case isFalse =>
        rw [htmlInOnto_eq_flatMap _ (endTag tag ++ rest) cs,
          htmlInOnto_eq_flatMap _ (endTag tag ++ []) cs, List.append_nil, List.append_assoc]

theorem htmlInOnto_eq_flatMap (raw : Bool) (rest : List Char) : ∀ cs : List Node,
    htmlInOnto raw rest cs = cs.flatMap (htmlOnto raw []) ++ rest
  | [] => by rw [htmlInOnto, List.flatMap_nil, List.nil_append]
  | n :: more => by
      rw [htmlInOnto, htmlOnto_eq_append raw (htmlInOnto raw rest more) n,
        htmlInOnto_eq_flatMap raw rest more, List.flatMap_cons, List.append_assoc]

end

theorem infix_flatMap {f : Node → List Char} {cs : List Node} (h : n ∈ cs) :
    f n <:+: cs.flatMap f :=
  List.infix_of_mem_flatten (List.mem_map_of_mem h)

section Element

variable {v : Vocabulary} {tag : String} {attributes : List (String × String)} {cs : List Node}

/-- An element is written alike whatever stands around it. -/
theorem htmlOnto_element (raw : Bool) :
    htmlOnto raw [] (element v tag attributes cs) = html (element v tag attributes cs) := by
  rw [html, htmlOnto, htmlOnto]

theorem html_element (h : isVoid v tag = false) :
    html (element v tag attributes cs) =
      startTag escapeAttribute tag attributes ++ cs.flatMap (htmlOnto (isRaw v tag) []) ++
        endTag tag := by
  rw [html, htmlOnto, h, if_neg Bool.false_ne_true, htmlInOnto_eq_flatMap, List.append_nil,
    List.append_assoc]

end Element

/-- Texts nest in every node tree. -/
theorem nests_text (write : Node → List Char) (h : outline? write n = some o) :
    o.Nests Outline.text := by
  intro e hHolds c hChild
  obtain ⟨m, hElement⟩ := exists_node_of_holds h hHolds
  obtain ⟨_, _, _, cs, rfl, -, hText, -, hChildren⟩ := exists_element_of_outline? hElement
  rw [hChildren] at hChild
  obtain ⟨m, hMem, hOutline⟩ := mem_outlines_iff.mp hChild
  obtain ⟨_, _, _, inner, rfl, -, hInner, -, -⟩ := exists_element_of_outline? hOutline
  rw [hText, hInner, String.toList_ofList, String.toList_ofList, textContent, textContent,
    textInOnto_eq_flatMap [] cs, List.append_nil]
  have hPiece := infix_flatMap (f := textOnto []) hMem
  rwa [textOnto] at hPiece

/-- The standard serializations nest in a tree that has no elements in void elements. -/
theorem nests_outer (h : outline? html n = some o)
    (hVoid : ∀ e, o.Holds e → e.tag ∈ voidTags → e.children = []) : o.Nests outer := by
  intro e hHolds c hChild
  obtain ⟨m, hElement⟩ := exists_node_of_holds h hHolds
  obtain ⟨v, tag, attributes, cs, rfl, hTag, -, hOuter, hChildren⟩ :=
    exists_element_of_outline? hElement
  have hNotVoid : isVoid v tag = false := by
    by_contra hIs
    have hMem : tag ∈ voidTags := by simp [isVoid] at hIs; exact hIs.2
    rw [hVoid e hHolds (hTag ▸ hMem)] at hChild
    exact List.not_mem_nil hChild
  rw [hChildren] at hChild
  obtain ⟨m, hMem, hOutline⟩ := mem_outlines_iff.mp hChild
  obtain ⟨_, _, _, inner, rfl, -, -, hInner, -⟩ := exists_element_of_outline? hOutline
  have hPiece := infix_flatMap (f := htmlOnto (isRaw v tag) []) hMem
  rw [htmlOnto_element] at hPiece
  rw [hOuter, hInner, String.toList_ofList, String.toList_ofList, html_element hNotVoid]
  exact hPiece.trans (List.infix_append _ _ _)

end Node

/-! ## 3. Nested texts -/

section Search

variable {root o best : Outline} {os : List Outline} {levels : Nat}

theorem foldl_heavier_of_le (h : ∀ e ∈ os, e.weight ≤ best.weight) :
    os.foldl heavier (some best) = some best := by
  induction os with
  | nil => rfl
  | cons e rest ih =>
    have hNot : ¬ best.weight < e.weight := Nat.not_lt.mpr (h e List.mem_cons_self)
    rw [List.foldl_cons, heavier, if_neg hNot]
    exact ih fun e hMem => h e (List.mem_cons_of_mem _ hMem)

/-- After an element has been looked at, the best so far weighs no less. -/
theorem exists_heavier (best : Option Outline) (o : Outline) :
    ∃ b, heavier best o = some b ∧ o.weight ≤ b.weight := by
  cases best with
  | none => exact ⟨o, rfl, le_rfl⟩
  | some b =>
    by_cases hMore : b.weight < o.weight
    · exact ⟨o, if_pos hMore, le_rfl⟩
    · exact ⟨b, if_neg hMore, Nat.not_lt.mp hMore⟩

/-- Where texts nest, what is under an element does not change the choice. -/
theorem foldl_heavier_upTo (h : o.Nests text) (best : Option Outline) (levels : Nat) :
    (upTo (levels + 1) o).foldl heavier best = heavier best o := by
  obtain ⟨b, hBest, hLe⟩ := exists_heavier best o
  rw [upTo_succ, List.foldl_cons, hBest]
  exact foldl_heavier_of_le fun e hMem => (h.weight_le hMem).trans hLe

/-- Where texts nest, the search weighs the children of the root alone. -/
theorem largest_succ_eq_foldl_children (h : root.Nests text) (levels : Nat) :
    largest root (levels + 1) = root.children.foldl heavier none := by
  rw [largest_eq_foldl, within, upToIn_eq_flatMap, List.foldl_flatMap]
  exact List.foldl_ext _ _ _ fun best c hChild => foldl_heavier_upTo (h.child hChild) best levels

theorem within_one (root : Outline) : within 1 root = root.children := by
  have hOne : upTo 1 = fun o => [o] := by
    funext o
    rw [upTo_succ, (within_eq_nil_iff 0 o).mpr (Or.inl rfl)]
  rw [within, upToIn_eq_flatMap, hOne, List.flatMap_singleton']

end Search

/-- **Where texts nest, one level is enough.** However many levels it may look at, as long as it is
at least one, the search for the most text finds the first child of the root with the longest
trimmed text, and nothing only if the root has no child elements. So the number of levels is without
effect. -/
theorem largest_is_longest_child {root : Outline} {levels : Nat} (hText : root.Nests text)
    (hLevels : 1 ≤ levels) :
    (∀ o, largest root levels = some o ↔
      ∃ before after, root.children = before ++ o :: after ∧
        (∀ c ∈ before, c.weight < o.weight) ∧ ∀ c ∈ after, c.weight ≤ o.weight) ∧
    (largest root levels = none ↔ root.children = []) ∧
    ∀ other, 1 ≤ other → largest root other = largest root levels := by
  have hOne : ∀ other, 1 ≤ other → largest root other = largest root 1 := by
    intro other hOther
    obtain ⟨more, rfl⟩ := Nat.exists_eq_add_of_le' hOther
    rw [largest_succ_eq_foldl_children hText, largest_succ_eq_foldl_children hText]
  refine ⟨fun o => ?_, ?_, fun other hOther => ?_⟩
  · rw [hOne levels hLevels, largest_eq_some_iff, within_one, IsFirstHeaviest]
  · rw [largest_eq_none_iff, or_iff_right (by omega)]
  · rw [hOne other hOther, hOne levels hLevels]

theorem largest_of_mixed_nodes :
    ∃ body o, Node.outline? Node.html (.element .html "body" [] mixedNodes) = some body ∧
      body.Nests text ∧ 1 ≤ heuristicDepth ∧ body.children[1]? = some o ∧
      largest body heuristicDepth = some o := by
  have hText := Node.nests_text Node.html (n := .element .html "body" [] mixedNodes) rfl
  refine ⟨_, _, rfl, hText, by decide, rfl, ?_⟩
  refine ((largest_is_longest_child hText (by decide)).1 _).mpr ⟨[_], [], rfl, ?_, ?_⟩
  · decide
  · decide

/-! ## 4. Nested markup -/

/-- **Where markup nests, the main scope is a piece of the full scope**, and it is not larger. -/
theorem main_is_piece_of_full {document : Option Outline}
    (hMarkup : ∀ root, document = some root → root.Nests outer) :
    (extract document .main).html.toList <:+: (extract document .full).html.toList ∧
    (extract document .main).sizeBytes ≤ (extract document .full).sizeBytes := by
  cases document with
  | none => exact ⟨List.infix_rfl, le_rfl⟩
  | some root =>
    obtain ⟨source, e, hServes, hMain⟩ := extract_serves root .main
    have hPiece : e.outer.toList <:+: root.outer.toList :=
      (hMarkup root rfl).infix_of_holds hServes.holds
    have hSize : e.outer.utf8ByteSize ≤ root.outer.utf8ByteSize := by
      rw [← String.utf8Len_toList, ← String.utf8Len_toList]
      exact String.utf8Len_le_of_infix hPiece
    rw [hMain]
    exact ⟨hPiece, hSize⟩

theorem main_of_mixed_page :
    ∃ root, pageOutline mixedNodes = some root ∧ root.Nests outer ∧
      (extract (some root) .main).html.toList <:+: (extract (some root) .full).html.toList ∧
      (extract (some root) .main).sizeBytes ≤ (extract (some root) .full).sizeBytes := by
  have hMarkup := Node.nests_outer
    (n := .element .html "html" [] [.element .html "body" [] mixedNodes]) rfl
    (by simp only [← mem_preorder_iff]; decide)
  refine ⟨_, rfl, hMarkup, main_is_piece_of_full fun root hRoot => ?_⟩
  cases hRoot
  exact hMarkup

end PageQuery.Page
