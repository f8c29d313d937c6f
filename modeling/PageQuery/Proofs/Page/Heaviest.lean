import PageQuery.Page.Extract
import PageQuery.Page.Node
import PageQuery.Proofs.Text.Basic
/-!
What extraction finds in a document without marked content.

Both searches take elements from a stack, and what their stacks still hold is read as a list in
document order. So `firstMatch` is a search through the document order, and the search for the most
text is a fold over `within`, the elements under its root down to a depth; `largest_spec` says that
it finds the first of those that hold the most text. An element holds text when its weight is
not zero (`weight_pos_iff`), so the one that is found holds text as soon as any of them does.

The first element is taken whatever its weight. So an element without text is found where none of
them holds any, and the text that stands under the body beside it is not in the snapshot:
`extract_of_unmarked` says when, and `loose_text_left_out` is a page on which it happens.
-/

namespace PageQuery.Page

open Outline Text

/-! ## 1. Marked content -/

/-- What is on the stack is searched from the top, each element before all under it. -/
theorem seek_eq_find? (selectors : List Selector) (stack : List Outline) :
    seek selectors stack = (preorderIn stack).find? (marked selectors) := by
  fun_induction seek selectors stack with
  | case1 => rfl
  | case2 o stack hMarked => rw [preorderIn_cons, List.find?_cons_of_pos hMarked]
  | case3 o stack hUnmarked ih =>
    rw [ih, pushAll_eq_append, preorderIn_cons, List.find?_cons_of_neg hUnmarked]

theorem firstMatch_eq_find? (selectors : List Selector) (root : Outline) :
    firstMatch selectors root = root.preorder.find? (marked selectors) := by
  rw [firstMatch, seek_eq_find?, preorderIn, preorderIn, List.append_nil]

/-- Nothing is found exactly where no element is marked. -/
theorem firstMatch_eq_none_iff (selectors : List Selector) (o : Outline) :
    firstMatch selectors o = none ↔ ∀ e ∈ o.preorder, marked selectors e = false := by
  simp [firstMatch_eq_find?]

/-! ## 2. Text -/

namespace Outline

/-- Somewhere in the element's text a character is not blank. -/
def HoldsText (o : Outline) : Prop := ∃ c ∈ o.text.toList, isBlank c = false

/-- An element has weight exactly if it holds text. -/
theorem weight_pos_iff (o : Outline) : 0 < o.weight ↔ o.HoldsText := by
  rw [weight, List.length_pos_iff, ne_eq, trimChars_eq_nil_iff, HoldsText]
  simp

/-! ## 3. Elements down to a depth -/

mutual

/-- An element and those under it, so many levels in all, in document order. -/
def upTo (levels : Nat) : Outline → List Outline
  | node f cs =>
    match levels with
    | 0 => []
    | levels + 1 => node f cs :: upToIn levels cs

def upToIn (levels : Nat) : List Outline → List Outline
  | [] => []
  | o :: rest => upTo levels o ++ upToIn levels rest

end

/-- The elements under a root, at most so many levels deep, in document order. -/
def within (levels : Nat) (root : Outline) : List Outline := upToIn levels root.children

@[simp] theorem upTo_zero (o : Outline) : upTo 0 o = [] := by
  cases o with
  | node f cs => rw [upTo]

@[simp] theorem upTo_succ (levels : Nat) (o : Outline) :
    upTo (levels + 1) o = o :: within levels o := by
  cases o with
  | node f cs => rw [upTo, within, children]

theorem upToIn_eq_flatMap (levels : Nat) : ∀ cs : List Outline,
    upToIn levels cs = cs.flatMap (upTo levels)
  | [] => rfl
  | o :: rest => by rw [upToIn, List.flatMap_cons, upToIn_eq_flatMap levels rest]

theorem within_eq_nil_iff (levels : Nat) (root : Outline) :
    within levels root = [] ↔ levels = 0 ∨ root.children = [] := by
  rw [within, upToIn_eq_flatMap, List.flatMap_eq_nil_iff]
  cases levels with
  | zero => simp
  | succ levels => simpa using List.eq_nil_iff_forall_not_mem.symm

/-- The element stands at a depth under the root, whose children stand at depth 1. -/
inductive IsAt : Outline → Nat → Outline → Prop
  | child {root o : Outline} : o ∈ root.children → IsAt root 1 o
  | under {root c o : Outline} {depth : Nat} :
      c ∈ root.children → IsAt c depth o → IsAt root (depth + 1) o

theorem IsAt.depth_pos {root o : Outline} {depth : Nat} (h : IsAt root depth o) : 0 < depth := by
  cases h with
  | child _ => omega
  | under _ _ => omega

theorem mem_within_iff {o : Outline} : ∀ (levels : Nat) (root : Outline),
    o ∈ within levels root ↔ ∃ depth ≤ levels, IsAt root depth o
  | 0, root => by
      constructor
      · intro hMem
        simp [within, upToIn_eq_flatMap] at hMem
      · rintro ⟨depth, hDepth, hAt⟩
        have := hAt.depth_pos
        omega
  | levels + 1, root => by
      rw [within, upToIn_eq_flatMap, List.mem_flatMap]
      constructor
      · rintro ⟨c, hChild, hMem⟩
        rw [upTo_succ] at hMem
        rcases List.mem_cons.mp hMem with rfl | hMem
        · exact ⟨1, by omega, .child hChild⟩
        · obtain ⟨depth, hDepth, hAt⟩ := (mem_within_iff levels c).mp hMem
          exact ⟨depth + 1, by omega, .under hChild hAt⟩
      · rintro ⟨depth, hDepth, hAt⟩
        cases hAt with
        | child hChild => exact ⟨o, hChild, by simp⟩
        | @under _ c _ depth hChild hAt =>
          have hMem : o ∈ within levels c := (mem_within_iff levels c).mpr ⟨depth, by omega, hAt⟩
          exact ⟨c, hChild, by simp [hMem]⟩

/-! ## 4. The first of the heaviest -/

/-- The element holds at least as much text as any in the list, and more than those before it. -/
def IsFirstHeaviest (o : Outline) (os : List Outline) : Prop :=
  ∃ before after, os = before ++ o :: after ∧
    (∀ e ∈ before, e.weight < o.weight) ∧ ∀ e ∈ after, e.weight ≤ o.weight

namespace IsFirstHeaviest

variable {o : Outline} {os : List Outline}

theorem mem (h : IsFirstHeaviest o os) : o ∈ os := by
  obtain ⟨before, after, rfl, -, -⟩ := h
  simp

theorem weight_le (h : IsFirstHeaviest o os) {e : Outline} (hMem : e ∈ os) :
    e.weight ≤ o.weight := by
  obtain ⟨before, after, rfl, hBefore, hAfter⟩ := h
  rcases List.mem_append.mp hMem with hMem | hMem
  · exact (hBefore e hMem).le
  · rcases List.mem_cons.mp hMem with rfl | hMem
    · exact le_rfl
    · exact hAfter e hMem

/-- The first of the heaviest holds text as soon as any element in the list does. -/
theorem holdsText_iff (h : IsFirstHeaviest o os) : o.HoldsText ↔ ∃ e ∈ os, e.HoldsText := by
  constructor
  · intro hText
    exact ⟨o, h.mem, hText⟩
  · rintro ⟨e, hMem, hText⟩
    have hLight : 0 < e.weight := e.weight_pos_iff.mpr hText
    have hHeavy : e.weight ≤ o.weight := h.weight_le hMem
    exact o.weight_pos_iff.mp (by omega)

/-- There is one first of the heaviest. -/
theorem unique (h : IsFirstHeaviest o os) {other : Outline} (hOther : IsFirstHeaviest other os) :
    other = o := by
  have hLe : other.weight ≤ o.weight := h.weight_le hOther.mem
  have hGe : o.weight ≤ other.weight := hOther.weight_le h.mem
  obtain ⟨before, after, rfl, hBefore, -⟩ := h
  obtain ⟨front, back, hSame, hFront, -⟩ := hOther
  -- neither of the two stands before the other, for it would weigh less
  rcases List.append_eq_append_iff.mp hSame with ⟨gap, rfl, hRest⟩ | ⟨gap, rfl, hRest⟩
  · cases gap with
    | nil => exact (List.cons.inj hRest).1.symm
    | cons e gap =>
      obtain ⟨rfl, -⟩ := List.cons.inj hRest
      have hLess : o.weight < other.weight := hFront o (by simp)
      omega
  · cases gap with
    | nil => exact (List.cons.inj hRest).1
    | cons e gap =>
      obtain ⟨rfl, -⟩ := List.cons.inj hRest
      have hLess : other.weight < o.weight := hBefore other (by simp)
      omega

/-- Where all elements weigh nothing, the first of the heaviest is the first. -/
theorem eq_head (h : IsFirstHeaviest o os) (hNone : ∀ e ∈ os, e.weight = 0) :
    os.head? = some o := by
  obtain ⟨before, after, rfl, hBefore, -⟩ := h
  cases before with
  | nil => rfl
  | cons e rest =>
    have hLess : e.weight < o.weight := hBefore e (by simp)
    have hZero : o.weight = 0 := hNone o (by simp)
    omega

end IsFirstHeaviest

end Outline

/-! ## 5. The search -/

/-- What the search will still look at: the elements on the stack and those under them, each only
down to the depth that is left. -/
def unvisited (levels : Nat) (stack : List (Outline × Nat)) : List Outline :=
  stack.flatMap fun x => upTo (levels + 1 - x.2) x.1

section Loop

variable {levels depth : Nat} {o : Outline} {stack : List (Outline × Nat)}

/-- Elements that lie too deep will not be looked at. -/
theorem unvisited_deep (h : levels < depth) :
    unvisited levels ((o, depth) :: stack) = unvisited levels stack := by
  have hNone : levels + 1 - depth = 0 := by omega
  rw [unvisited, List.flatMap_cons, hNone, upTo_zero, List.nil_append, unvisited]

/-- An element that is looked at leaves its children, one level deeper, in its place. -/
theorem unvisited_visit (h : ¬ levels < depth) :
    unvisited levels ((o, depth) :: stack) =
      o :: unvisited levels (pushAll stack (o.children.map fun c => (c, depth + 1))) := by
  have hLeft : levels + 1 - depth = levels + 1 - (depth + 1) + 1 := by omega
  rw [unvisited, List.flatMap_cons, hLeft, upTo_succ, within, upToIn_eq_flatMap, pushAll_eq_append,
    unvisited, List.flatMap_append, List.flatMap_map, List.cons_append]

/-- The loop weighs what it has not visited yet, in document order. -/
theorem survey_eq_foldl (levels : Nat) (best : Option Outline) (stack : List (Outline × Nat)) :
    survey levels best stack = (unvisited levels stack).foldl heavier best := by
  fun_induction survey levels best stack with
  | case1 best => rfl
  | case2 best o depth stack hDeep ih => rw [ih, unvisited_deep hDeep]
  | case3 best o depth stack hNear ih => rw [ih, unvisited_visit hNear, List.foldl_cons]

end Loop

theorem largest_eq_foldl (root : Outline) (levels : Nat) :
    largest root levels = (within levels root).foldl heavier none := by
  rw [largest, survey_eq_foldl, pushAll_eq_append, List.append_nil, unvisited, List.flatMap_map,
    within, upToIn_eq_flatMap]
  rfl

/-- The search keeps the first of the heaviest among those it has seen. -/
theorem foldl_heavier : ∀ (seen os : List Outline) (best : Outline),
    IsFirstHeaviest best seen →
    ∃ o, os.foldl heavier (some best) = some o ∧ IsFirstHeaviest o (seen ++ os)
  | seen, [], best, h => ⟨best, rfl, by simpa using h⟩
  | seen, o :: rest, best, h => by
      rw [List.foldl_cons, List.append_cons]
      by_cases hMore : best.weight < o.weight
      · have hNext : IsFirstHeaviest o (seen ++ [o]) := by
          refine ⟨seen, [], rfl, fun e hMem => ?_, by simp⟩
          exact lt_of_le_of_lt (h.weight_le hMem) hMore
        rw [heavier, if_pos hMore]
        exact foldl_heavier (seen ++ [o]) rest o hNext
      · have hSame : IsFirstHeaviest best (seen ++ [o]) := by
          obtain ⟨before, after, rfl, hBefore, hAfter⟩ := h
          refine ⟨before, after ++ [o], by simp, hBefore, fun e hMem => ?_⟩
          rcases List.mem_append.mp hMem with hMem | hMem
          · exact hAfter e hMem
          · rw [List.mem_singleton.mp hMem]
            omega
        rw [heavier, if_neg hMore]
        exact foldl_heavier (seen ++ [o]) rest best hSame

/-- **The search finds the first of the heaviest** of the elements it may look at, and nothing only
where there are none. -/
theorem largest_spec (root : Outline) (levels : Nat) :
    match largest root levels with
    | some o => IsFirstHeaviest o (within levels root)
    | none => within levels root = [] := by
  rw [largest_eq_foldl]
  cases within levels root with
  | nil => rfl
  | cons first rest =>
    have hFirst : IsFirstHeaviest first [first] := ⟨[], [], rfl, by simp, by simp⟩
    obtain ⟨o, hFold, hHeaviest⟩ := foldl_heavier [first] rest first hFirst
    rw [List.foldl_cons, heavier, hFold]
    exact hHeaviest

theorem largest_eq_some_iff {root o : Outline} {levels : Nat} :
    largest root levels = some o ↔ IsFirstHeaviest o (within levels root) := by
  have hSpec := largest_spec root levels
  cases hLargest : largest root levels with
  | none =>
    rw [hLargest] at hSpec
    have hEmpty : within levels root = [] := hSpec
    constructor
    · intro h
      exact absurd h (Option.some_ne_none o).symm
    · intro h
      exact absurd h.mem (by rw [hEmpty]; exact List.not_mem_nil)
  | some found =>
    rw [hLargest] at hSpec
    have hFound : IsFirstHeaviest found (within levels root) := hSpec
    constructor
    · rintro ⟨rfl⟩
      exact hFound
    · intro h
      rw [hFound.unique h]

/-- Nothing is found exactly if no level is looked at or the root has no child elements. -/
theorem largest_eq_none_iff {root : Outline} {levels : Nat} :
    largest root levels = none ↔ levels = 0 ∨ root.children = [] := by
  rw [← within_eq_nil_iff]
  constructor
  · intro h
    simpa only [h] using largest_spec root levels
  · intro h
    rw [largest_eq_foldl, h]
    rfl

/-! ## 6. Documents without marked content -/

/-- The element is one of those that extraction may choose under a body. -/
def Outline.IsCandidate (body o : Outline) : Prop := ∃ depth ≤ heuristicDepth, IsAt body depth o

theorem mem_within_heuristicDepth_iff {body o : Outline} :
    o ∈ within heuristicDepth body ↔ body.IsCandidate o := mem_within_iff heuristicDepth body

/-- Without marked content the main scope is what the search under the body finds. -/
theorem extract_main_eq {root body : Outline}
    (hUnmarked : ∀ e ∈ root.preorder, marked contentSelectors e = false)
    (hBody : body? root = some body) :
    extract (some root) .main =
      match largest body heuristicDepth with
      | some o => .ofHtml o.outer .main .heuristic
      | none => .ofHtml root.outer .main .fullFallback := by
  have hNone : firstMatch contentSelectors root = none :=
    (firstMatch_eq_none_iff contentSelectors root).mpr hUnmarked
  rw [extract, extractMain, hNone, hBody]
  rfl

/-- **What becomes of the text under the body.** In a document without marked content, the main scope
is an element that holds text if there is one among those at most three levels under the body. If
there is no element at all under the body, it is the whole document. But if there are elements there
and none of them holds text, it is the first of them, whatever text the body holds beside it. -/
theorem extract_of_unmarked {root body : Outline}
    (hUnmarked : ∀ e ∈ root.preorder, marked contentSelectors e = false)
    (hBody : body? root = some body) :
    ((∃ e, body.IsCandidate e ∧ e.HoldsText) →
      ∃ o, body.IsCandidate o ∧ o.HoldsText ∧
        extract (some root) .main = .ofHtml o.outer .main .heuristic) ∧
    ((∀ e, ¬ body.IsCandidate e) →
      extract (some root) .main = .ofHtml root.outer .main .fullFallback) ∧
    ((∃ e, body.IsCandidate e) → (∀ e, body.IsCandidate e → ¬ e.HoldsText) →
      ∃ o, body.children.head? = some o ∧
        extract (some root) .main = .ofHtml o.outer .main .heuristic) := by
  have hSpec := largest_spec body heuristicDepth
  rw [extract_main_eq hUnmarked hBody]
  simp only [← mem_within_heuristicDepth_iff]
  cases hLargest : largest body heuristicDepth with
  | none =>
    rw [hLargest] at hSpec
    simp [show within heuristicDepth body = [] from hSpec]
  | some o =>
    rw [hLargest] at hSpec
    have hHeaviest : IsFirstHeaviest o (within heuristicDepth body) := hSpec
    refine ⟨fun hText => ?_, fun hEmpty => ?_, fun _ hBlank => ?_⟩
    · exact ⟨o, hHeaviest.mem, hHeaviest.holdsText_iff.mpr hText, rfl⟩
    · exact absurd hHeaviest.mem (hEmpty o)
    · have hZero : ∀ e ∈ within heuristicDepth body, e.weight = 0 := by
        intro e hMem
        have hNot : ¬ 0 < e.weight := mt e.weight_pos_iff.mp (hBlank e hMem)
        omega
      have hHead : (within heuristicDepth body).head? = some o := hHeaviest.eq_head hZero
      refine ⟨o, ?_, rfl⟩
      cases hChildren : body.children with
      | nil => simp [within, hChildren, upToIn] at hHead
      | cons first rest =>
        rw [within, hChildren, upToIn, heuristicDepth, upTo_succ] at hHead
        simpa using hHead

/-- The root of a page of these nodes. -/
def pageOutline (nodes : List Node) : Option Outline :=
  Node.outline? Node.html (.element .html "html" [] [.element .html "body" [] nodes])

/-- Text under the body, an element without text, and text two levels deep. -/
def mixedNodes : List Node :=
  [.text ['t', 'o', 'p'], .element .html "hr" [] [],
    .element .html "div" [] [.element .html "p" [] [.text ['d', 'e', 'e', 'p']]]]

theorem extract_mixed_page :
    ∃ root body, pageOutline mixedNodes = some root ∧
      (∀ e ∈ root.preorder, marked contentSelectors e = false) ∧ body? root = some body ∧
      ∃ o, body.IsCandidate o ∧ o.HoldsText ∧
        extract (some root) .main = .ofHtml o.outer .main .heuristic := by
  refine ⟨_, _, rfl, ?_, rfl, (extract_of_unmarked ?_ rfl).1 ?_⟩
  · decide
  · decide
  · refine ⟨_, ⟨1, by decide, .child (List.mem_cons_of_mem _ List.mem_cons_self)⟩, ?_⟩
    exact ⟨'d', by decide, by decide⟩

/-- Text under the body beside an element without text. -/
def looseNodes : List Node := [.text ['l', 'o', 's', 't'], .element .html "div" [] []]

theorem loose_text_left_out :
    ∃ root body o, pageOutline looseNodes = some root ∧
      (∀ e ∈ root.preorder, marked contentSelectors e = false) ∧
      body? root = some body ∧ body.HoldsText ∧
      largest body heuristicDepth = some o ∧ ¬ o.HoldsText ∧
      extract (some root) .main = .ofHtml "<div></div>" .main .heuristic := by
  refine ⟨_, _, _, rfl, ?_, rfl, ?_, rfl, ?_, ?_⟩
  · decide
  · exact ⟨'l', by decide, by decide⟩
  · rintro ⟨c, hMem, -⟩
    exact List.not_mem_nil hMem
  · decide

end PageQuery.Page
