import Mathlib.Data.List.Lex
import PageQuery.Proofs.Page.Heaviest
/-!
What the two searches find, said by places.

A place is the way from the root down to an element, child by child. Places are compared like words
in a dictionary: an element comes before all that is under it, and that before all that is under a
later sibling. This is the document order, and it is said here without any walk through the tree.

`placed` lists the elements with their places. It is the preorder (`map_snd_placed`), it holds each
element at its place (`mem_placed_iff`), and its places only grow (`pairwise_placed`). So a split of
such a list is a place with what comes before and after it (`exists_split_iff`), and what the stacks
of the searches find is told by places alone: `firstMatch_is_first` and `largest_is_first_heaviest`.
-/

namespace PageQuery.Page

namespace Outline

/-! ## 1. Places -/

/-- Which child to take at each step down from the root, counted from zero. -/
abbrev Place := List Nat

/-- The element at a place. -/
def at? : Outline → Place → Option Outline
  | o, [] => some o
  | o, i :: p => o.children[i]?.bind fun c => at? c p

mutual

/-- The elements of a document with their places. -/
def placed : Outline → List (Place × Outline)
  | node f cs => ([], node f cs) :: placedIn 0 cs

/-- The elements under siblings with their places, the siblings counted from `i`. -/
def placedIn (i : Nat) : List Outline → List (Place × Outline)
  | [] => []
  | o :: rest => (placed o).map (fun x => (i :: x.1, x.2)) ++ placedIn (i + 1) rest

end

mutual

/-- The listing with places is the preorder. -/
theorem map_snd_placed : ∀ o : Outline, (placed o).map Prod.snd = preorder o
  | node f cs => by rw [placed, preorder, List.map_cons, map_snd_placedIn 0 cs]

theorem map_snd_placedIn : ∀ (i : Nat) (cs : List Outline),
    (placedIn i cs).map Prod.snd = preorderIn cs
  | _, [] => rfl
  | i, o :: rest => by
      rw [placedIn, preorderIn, List.map_append, List.map_map, map_snd_placedIn (i + 1) rest,
        ← map_snd_placed o]
      rfl

end

mutual

/-- An element stands in the listing with a place exactly if it is at that place. -/
theorem mem_placed_iff {p : Place} {e : Outline} : ∀ o : Outline,
    (p, e) ∈ placed o ↔ o.at? p = some e
  | node f cs => by
      rw [placed, List.mem_cons, mem_placedIn_iff 0 cs]
      cases p with
      | nil => simp [at?, eq_comm]
      | cons i q => simp [at?, children]

theorem mem_placedIn_iff {p : Place} {e : Outline} : ∀ (i : Nat) (cs : List Outline),
    (p, e) ∈ placedIn i cs ↔ ∃ j q, p = (i + j) :: q ∧ (cs[j]?.bind fun c => at? c q) = some e
  | i, [] => by simp [placedIn]
  | i, o :: rest => by
      rw [placedIn, List.mem_append, List.mem_map, mem_placedIn_iff (i + 1) rest]
      constructor
      · rintro (⟨⟨q, found⟩, hMem, hEq⟩ | ⟨j, q, rfl, hAt⟩)
        · obtain ⟨rfl, rfl⟩ := Prod.mk.inj hEq
          exact ⟨0, q, rfl, (mem_placed_iff o).mp hMem⟩
        · exact ⟨j + 1, q, by rw [Nat.add_right_comm, Nat.add_assoc], hAt⟩
      · rintro ⟨j, q, rfl, hAt⟩
        cases j with
        | zero => exact Or.inl ⟨(q, e), (mem_placed_iff o).mpr hAt, rfl⟩
        | succ j => exact Or.inr ⟨j, q, by rw [Nat.add_right_comm, Nat.add_assoc], hAt⟩

end

mutual

/-- The places of the listing grow from one to the next. -/
theorem pairwise_placed : ∀ o : Outline, (placed o).Pairwise fun x y => x.1 < y.1
  | node f cs => by
      rw [placed, List.pairwise_cons]
      refine ⟨?_, pairwise_placedIn 0 cs⟩
      rintro ⟨p, e⟩ hMem
      obtain ⟨j, q, rfl, -⟩ := (mem_placedIn_iff 0 cs).mp hMem
      exact List.nil_lt_cons _ _

theorem pairwise_placedIn : ∀ (i : Nat) (cs : List Outline),
    (placedIn i cs).Pairwise fun x y => x.1 < y.1
  | _, [] => by rw [placedIn]; exact List.Pairwise.nil
  | i, o :: rest => by
      rw [placedIn, List.pairwise_append, List.pairwise_map]
      refine ⟨?_, pairwise_placedIn (i + 1) rest, ?_⟩
      · exact (pairwise_placed o).imp fun h => List.cons_lt_cons_iff.mpr (Or.inr ⟨rfl, h⟩)
      · rintro x hx ⟨p, e⟩ hy
        obtain ⟨⟨q, found⟩, -, rfl⟩ := List.mem_map.mp hx
        obtain ⟨j, r, rfl, -⟩ := (mem_placedIn_iff (i + 1) rest).mp hy
        exact List.cons_lt_cons_iff.mpr (Or.inl (by omega))

end

section Listing

variable {front back : List (Place × Outline)} {x y : Place × Outline}

/-- Where places grow, those that are smaller than a place are those in front of it. -/
theorem mem_front_iff (hOrder : (front ++ x :: back).Pairwise fun x y => x.1 < y.1) :
    y ∈ front ↔ y ∈ front ++ x :: back ∧ y.1 < x.1 := by
  obtain ⟨-, hRest, hFront⟩ := List.pairwise_append.mp hOrder
  have hBack : ∀ z ∈ back, x.1 < z.1 := (List.pairwise_cons.mp hRest).1
  constructor
  · intro hMem
    exact ⟨List.mem_append_left _ hMem, hFront y hMem x List.mem_cons_self⟩
  · rintro ⟨hMem, hLess⟩
    rcases List.mem_append.mp hMem with hMem | hMem
    · exact hMem
    · rcases List.mem_cons.mp hMem with rfl | hMem
      · exact absurd hLess (lt_irrefl y.1)
      · exact absurd hLess (hBack y hMem).asymm

/-- And those that are greater are those behind it. -/
theorem mem_back_iff (hOrder : (front ++ x :: back).Pairwise fun x y => x.1 < y.1) :
    y ∈ back ↔ y ∈ front ++ x :: back ∧ x.1 < y.1 := by
  obtain ⟨-, hRest, hFront⟩ := List.pairwise_append.mp hOrder
  have hBack : ∀ z ∈ back, x.1 < z.1 := (List.pairwise_cons.mp hRest).1
  constructor
  · intro hMem
    exact ⟨List.mem_append_right _ (List.mem_cons_of_mem _ hMem), hBack y hMem⟩
  · rintro ⟨hMem, hLess⟩
    rcases List.mem_append.mp hMem with hMem | hMem
    · exact absurd hLess (hFront y hMem x List.mem_cons_self).asymm
    · rcases List.mem_cons.mp hMem with rfl | hMem
      · exact absurd hLess (lt_irrefl y.1)
      · exact hMem

/-- To split a listing with growing places at an element is to name the element's place. -/
theorem exists_split_iff {listing : List (Place × Outline)}
    (hOrder : listing.Pairwise fun x y => x.1 < y.1) {o : Outline} {P Q : Outline → Prop} :
    (∃ before after, listing.map Prod.snd = before ++ o :: after ∧
      (∀ e ∈ before, P e) ∧ ∀ e ∈ after, Q e) ↔
    ∃ p, (p, o) ∈ listing ∧ (∀ q e, (q, e) ∈ listing → q < p → P e) ∧
      ∀ q e, (q, e) ∈ listing → p < q → Q e := by
  constructor
  · rintro ⟨before, after, hSplit, hBefore, hAfter⟩
    obtain ⟨front, rest, rfl, rfl, hRest⟩ := List.map_eq_append_iff.mp hSplit
    obtain ⟨⟨p, found⟩, back, rfl, rfl, rfl⟩ := List.map_eq_cons_iff.mp hRest
    refine ⟨p, by simp, fun q e hMem hLess => ?_, fun q e hMem hLess => ?_⟩
    · exact hBefore e (List.mem_map_of_mem ((mem_front_iff hOrder).mpr ⟨hMem, hLess⟩))
    · exact hAfter e (List.mem_map_of_mem ((mem_back_iff hOrder).mpr ⟨hMem, hLess⟩))
  · rintro ⟨p, hMem, hBefore, hAfter⟩
    obtain ⟨front, back, rfl⟩ := List.append_of_mem hMem
    refine ⟨front.map Prod.snd, back.map Prod.snd, by simp, fun e hFront => ?_, fun e hBack => ?_⟩
    · obtain ⟨⟨q, found⟩, hIn, rfl⟩ := List.mem_map.mp hFront
      obtain ⟨hListed, hLess⟩ := (mem_front_iff hOrder).mp hIn
      exact hBefore q found hListed hLess
    · obtain ⟨⟨q, found⟩, hIn, rfl⟩ := List.mem_map.mp hBack
      obtain ⟨hListed, hLess⟩ := (mem_back_iff hOrder).mp hIn
      exact hAfter q found hListed hLess

end Listing

/-! ## 2. Places down to a depth -/

mutual

/-- The elements down to a depth are those whose places are not too long. -/
theorem map_snd_filter_placed (levels : Nat) : ∀ o : Outline,
    ((placed o).filter fun x => x.1.length < levels).map Prod.snd = upTo levels o
  | node f cs => by
      cases levels with
      | zero => simp
      | succ levels =>
        have hUnder := map_snd_filter_placedIn levels 0 cs
        rw [placed, upTo_succ, within, children, List.filter_cons_of_pos (by simp), List.map_cons,
          ← hUnder]
        simp only [Nat.lt_add_one_iff]

theorem map_snd_filter_placedIn (levels : Nat) : ∀ (i : Nat) (cs : List Outline),
    ((placedIn i cs).filter fun x => x.1.length ≤ levels).map Prod.snd = upToIn levels cs
  | _, [] => rfl
  | i, o :: rest => by
      rw [placedIn, upToIn, List.filter_append, List.map_append,
        map_snd_filter_placedIn levels (i + 1) rest, ← map_snd_filter_placed levels o,
        List.filter_map, List.map_map]
      rfl

end

/-- The elements that the search for the most text looks at, with their places. -/
def reached (levels : Nat) (root : Outline) : List (Place × Outline) :=
  (placedIn 0 root.children).filter fun x => x.1.length ≤ levels

theorem map_snd_reached (levels : Nat) (root : Outline) :
    (reached levels root).map Prod.snd = within levels root :=
  map_snd_filter_placedIn levels 0 root.children

theorem pairwise_reached (levels : Nat) (root : Outline) :
    (reached levels root).Pairwise fun x y => x.1 < y.1 :=
  (pairwise_placedIn 0 root.children).sublist List.filter_sublist

/-- The depth of an element is the length of its place. -/
theorem mem_reached_iff {levels : Nat} {root e : Outline} {p : Place} :
    (p, e) ∈ reached levels root ↔ root.at? p = some e ∧ 1 ≤ p.length ∧ p.length ≤ levels := by
  rw [reached, List.mem_filter, mem_placedIn_iff]
  cases p with
  | nil => simp
  | cons i q => simp [at?]

end Outline

/-! ## 3. What the searches find -/

open Outline

theorem mem_preorder_iff_at? {root e : Outline} : e ∈ root.preorder ↔ ∃ p, root.at? p = some e := by
  simp [← map_snd_placed, mem_placed_iff]

theorem marked_eq_true_iff {selectors : List Selector} {o : Outline} :
    marked selectors o = true ↔ ∃ s ∈ selectors, s.accepts o = true := by
  simp [marked]

theorem marked_eq_false_iff {selectors : List Selector} {o : Outline} :
    marked selectors o = false ↔ ∀ s ∈ selectors, s.accepts o = false := by
  simp [marked]

theorem firstMatch_eq_some_iff {selectors : List Selector} {root o : Outline} :
    firstMatch selectors root = some o ↔
      ∃ p, root.at? p = some o ∧ marked selectors o = true ∧
        ∀ q e, root.at? q = some e → q < p → marked selectors e = false := by
  have hSplit := exists_split_iff (pairwise_placed root) (o := o)
    (P := fun e => marked selectors e = false) (Q := fun _ => True)
  rw [map_snd_placed] at hSplit
  simp only [mem_placed_iff, implies_true, and_true] at hSplit
  rw [firstMatch_eq_find?, List.find?_eq_some_iff_append]
  simp only [Bool.not_eq_true', hSplit]
  constructor
  · rintro ⟨hMarked, p, hAt, hBefore⟩
    exact ⟨p, hAt, hMarked, hBefore⟩
  · rintro ⟨p, hAt, hMarked, hBefore⟩
    exact ⟨hMarked, p, hAt, hBefore⟩

/-- **Extraction finds the first marked element.** The search with a stack is the search through the
preorder. What it finds is marked by some selector and stands at a place before which no element is
marked by any; it finds nothing exactly if no element of the document is marked. The order of the
selectors, and how often one is given, is without effect. -/
theorem firstMatch_is_first (selectors : List Selector) (root : Outline) :
    firstMatch selectors root =
      root.preorder.find? (fun e => selectors.any fun s => s.accepts e) ∧
    (∀ o, firstMatch selectors root = some o ↔
      ∃ p, root.at? p = some o ∧ (∃ s ∈ selectors, s.accepts o = true) ∧
        ∀ q e, root.at? q = some e → q < p → ∀ s ∈ selectors, s.accepts e = false) ∧
    (firstMatch selectors root = none ↔
      ∀ q e, root.at? q = some e → ∀ s ∈ selectors, s.accepts e = false) ∧
    ∀ others : List Selector, (∀ s, s ∈ others ↔ s ∈ selectors) →
      firstMatch others root = firstMatch selectors root := by
  refine ⟨firstMatch_eq_find? selectors root, fun o => ?_, ?_, fun others hSame => ?_⟩
  · simp only [firstMatch_eq_some_iff, marked_eq_true_iff, marked_eq_false_iff]
  · rw [firstMatch_eq_none_iff]
    simp only [mem_preorder_iff_at?, marked_eq_false_iff, forall_exists_index]
    exact forall_comm
  · have hMarked : marked others = marked selectors := by
      funext e
      rw [Bool.eq_iff_iff]
      simp [marked, hSame]
    rw [firstMatch_eq_find?, firstMatch_eq_find?, hMarked]

/-- The first of the heaviest, by places. -/
theorem largest_eq_some_iff_reached {root o : Outline} {levels : Nat} :
    largest root levels = some o ↔
      ∃ p, (p, o) ∈ reached levels root ∧ ∀ q e, (q, e) ∈ reached levels root →
        e.weight ≤ o.weight ∧ (q < p → e.weight < o.weight) := by
  have hSplit := exists_split_iff (pairwise_reached levels root) (o := o)
    (P := fun e => e.weight < o.weight) (Q := fun e => e.weight ≤ o.weight)
  rw [map_snd_reached] at hSplit
  rw [largest_eq_some_iff, IsFirstHeaviest, hSplit]
  constructor
  · rintro ⟨p, hReached, hBefore, hAfter⟩
    refine ⟨p, hReached, fun q e hMem => ⟨?_, hBefore q e hMem⟩⟩
    rcases lt_trichotomy q p with hLess | rfl | hMore
    · exact (hBefore q e hMem hLess).le
    · have hSame : some e = some o :=
        (mem_reached_iff.mp hMem).1.symm.trans (mem_reached_iff.mp hReached).1
      rw [Option.some.inj hSame]
    · exact hAfter q e hMem hMore
  · rintro ⟨p, hReached, hAll⟩
    exact ⟨p, hReached, fun q e hMem => (hAll q e hMem).2, fun q e hMem _ => (hAll q e hMem).1⟩

/-- **Extraction finds the first of the elements that hold the most text.** Of those at depth one to
the given depth, none has a longer trimmed text than the one that is found, and none that comes
before it has one as long. Nothing is found exactly if no level is looked at or the root has no child
elements. -/
theorem largest_is_first_heaviest (root : Outline) (levels : Nat) :
    (∀ o, largest root levels = some o ↔
      ∃ p, (root.at? p = some o ∧ 1 ≤ p.length ∧ p.length ≤ levels) ∧
        ∀ q e, root.at? q = some e → 1 ≤ q.length → q.length ≤ levels →
          e.weight ≤ o.weight ∧ (q < p → e.weight < o.weight)) ∧
    (largest root levels = none ↔ levels = 0 ∨ root.children = []) := by
  refine ⟨fun o => ?_, largest_eq_none_iff⟩
  simp only [largest_eq_some_iff_reached, mem_reached_iff, and_imp]

end PageQuery.Page
