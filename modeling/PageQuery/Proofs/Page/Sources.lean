import PageQuery.Proofs.Page.Heaviest
/-!
Which element of a document is captured.

`Serves` lists the ways in which an element can be the one that a scope asks for, each with what must
hold of the document. `extract_serves` says that extraction always goes one of these ways. They
exclude each other, so the source of a snapshot can be told from the tree alone: `source_extract_iff`
says, source by source, what document and scope it stands for.

Elements are found by their place under the root (`Outline.Holds`), the body by its place among the
root's children (`Outline.IsBody`); neither speaks of the order in which the two searches go.
-/

namespace PageQuery.Page

open Outline

namespace Outline

/-! ## 1. Elements of a document -/

/-- The element is the root, or it stands at some depth under it. -/
def Holds (root e : Outline) : Prop := e = root ∨ ∃ depth, IsAt root depth e

mutual

theorem mem_preorder_iff {e : Outline} : ∀ root : Outline, e ∈ root.preorder ↔ root.Holds e
  | node f cs => by
      rw [preorder, List.mem_cons, mem_preorderIn_iff cs]
      constructor
      · rintro (rfl | ⟨c, hChild, rfl | ⟨depth, hAt⟩⟩)
        · exact Or.inl rfl
        · exact Or.inr ⟨1, .child hChild⟩
        · exact Or.inr ⟨depth + 1, .under hChild hAt⟩
      · rintro (rfl | ⟨depth, hAt⟩)
        · exact Or.inl rfl
        · cases hAt with
          | child hChild => exact Or.inr ⟨e, hChild, Or.inl rfl⟩
          | under hChild hAt => exact Or.inr ⟨_, hChild, Or.inr ⟨_, hAt⟩⟩

theorem mem_preorderIn_iff {e : Outline} : ∀ cs : List Outline,
    e ∈ preorderIn cs ↔ ∃ c ∈ cs, c.Holds e
  | [] => by simp [preorderIn]
  | o :: rest => by
      rw [preorderIn, List.mem_append, mem_preorder_iff o, mem_preorderIn_iff rest]
      simp

end

/-- The element is marked as content: by its tag as an article or a main region, or by its role. -/
def IsContent (e : Outline) : Prop :=
  sameName e.tag "article" = true ∨ sameName e.tag "main" = true ∨
    e.attribute? "role" = some "main" ∨ e.attribute? "role" = some "full"

/-- Some element of the document is marked as content. -/
def HasContent (root : Outline) : Prop := ∃ e, root.Holds e ∧ e.IsContent

/-- The body of a document is the first child of the root that is called so. -/
def IsBody (root body : Outline) : Prop :=
  ∃ before after, root.children = before ++ body :: after ∧ sameName body.tag "body" = true ∧
    ∀ c ∈ before, sameName c.tag "body" = false

/-- There is a body, and an element in it. -/
def HasFilledBody (root : Outline) : Prop := ∃ body, root.IsBody body ∧ body.children ≠ []

end Outline

/-! ## 2. What the searches find -/

theorem marked_iff (e : Outline) : marked contentSelectors e = true ↔ e.IsContent := by
  simp [marked, contentSelectors, Selector.accepts, IsContent]

theorem firstMatch_content_none_iff {root : Outline} :
    firstMatch contentSelectors root = none ↔ ¬ root.HasContent := by
  simp [firstMatch_eq_none_iff, mem_preorder_iff, HasContent, ← marked_iff]

theorem of_firstMatch_content {root e : Outline} (h : firstMatch contentSelectors root = some e) :
    root.Holds e ∧ e.IsContent := by
  rw [firstMatch_eq_find?] at h
  exact ⟨(mem_preorder_iff root).mp (List.mem_of_find?_eq_some h),
    (marked_iff e).mp (List.find?_some h)⟩

theorem body?_eq_some_iff {root body : Outline} : body? root = some body ↔ root.IsBody body := by
  rw [body?, List.find?_eq_some_iff_append]
  constructor
  · rintro ⟨hName, before, after, hChildren, hBefore⟩
    exact ⟨before, after, hChildren, hName, by simpa using hBefore⟩
  · rintro ⟨before, after, hChildren, hName, hBefore⟩
    exact ⟨hName, before, after, hChildren, by simpa using hBefore⟩

theorem isCandidate_of_largest {body e : Outline} (h : largest body heuristicDepth = some e) :
    body.IsCandidate e := by
  have hSpec := largest_spec body heuristicDepth
  rw [h] at hSpec
  exact mem_within_heuristicDepth_iff.mp hSpec.mem

/-- Something is found under the body exactly if a body is there and an element in it. -/
theorem largest_body_none_iff {root : Outline} :
    ((body? root).bind fun b => largest b heuristicDepth) = none ↔ ¬ root.HasFilledBody := by
  cases hBody : body? root with
  | none =>
    have hNo : ¬ root.HasFilledBody := by
      rintro ⟨body, hIs, -⟩
      rw [body?_eq_some_iff.mpr hIs] at hBody
      exact Option.some_ne_none body hBody
    simpa using hNo
  | some body =>
    rw [Option.bind_some, largest_eq_none_iff, or_iff_right (by decide)]
    constructor
    · rintro hEmpty ⟨other, hIs, hFilled⟩
      rw [← body?_eq_some_iff, hBody, Option.some_inj] at hIs
      exact hFilled (hIs ▸ hEmpty)
    · intro hNo
      by_contra hFilled
      exact hNo ⟨body, body?_eq_some_iff.mp hBody, hFilled⟩

/-! ## 3. The ways to be captured -/

/-- The element is captured for a scope of this document, and the source says why. -/
inductive Serves (root : Outline) : Scope → Source → Outline → Prop
  | full : Serves root .full .full root
  | preferred {e : Outline} : root.Holds e → e.IsContent → Serves root .main .preferred e
  | heuristic {body e : Outline} : ¬ root.HasContent → root.IsBody body → body.IsCandidate e →
      Serves root .main .heuristic e
  | fullFallback : ¬ root.HasContent → ¬ root.HasFilledBody →
      Serves root .main .fullFallback root

/-- Extraction goes one of these ways, and the snapshot is the element as it is written. -/
theorem extract_serves (root : Outline) (scope : Scope) :
    ∃ source e, Serves root scope source e ∧
      extract (some root) scope = .ofHtml e.outer scope source := by
  cases scope with
  | full => exact ⟨.full, root, .full, rfl⟩
  | main =>
    rw [extract, extractMain]
    cases hContent : firstMatch contentSelectors root with
    | some e =>
      obtain ⟨hHolds, hIs⟩ := of_firstMatch_content hContent
      exact ⟨.preferred, e, .preferred hHolds hIs, rfl⟩
    | none =>
      have hNone : ¬ root.HasContent := firstMatch_content_none_iff.mp hContent
      cases hFound : (body? root).bind fun b => largest b heuristicDepth with
      | some e =>
        obtain ⟨body, hBody, hLargest⟩ := Option.bind_eq_some_iff.mp hFound
        exact ⟨.heuristic, e, .heuristic hNone (body?_eq_some_iff.mp hBody)
          (isCandidate_of_largest hLargest), rfl⟩
      | none =>
        exact ⟨.fullFallback, root, .fullFallback hNone (largest_body_none_iff.mp hFound), rfl⟩


/-- A snapshot of a document has the scope that was asked for, and the size of its markup. -/
theorem exists_extract_eq (document : Option Outline) (scope : Scope) :
    ∃ html source, extract document scope = .ofHtml html scope source := by
  cases document with
  | none => exact ⟨"", .empty, by rw [extract, Snapshot.blank]⟩
  | some root =>
    obtain ⟨source, e, -, hExtract⟩ := extract_serves root scope
    exact ⟨e.outer, source, hExtract⟩

namespace Serves

variable {root e : Outline} {scope : Scope} {source : Source}

/-- What is captured is an element of the document. -/
theorem holds (h : Serves root scope source e) : root.Holds e := by
  cases h with
  | full => exact Or.inl rfl
  | preferred hHolds _ => exact hHolds
  | fullFallback _ _ => exact Or.inl rfl
  | heuristic _ hBody hCandidate =>
    obtain ⟨before, after, hChildren, -, -⟩ := hBody
    obtain ⟨depth, -, hAt⟩ := hCandidate
    exact Or.inr ⟨depth + 1, .under (by simp [hChildren]) hAt⟩

end Serves

/-- Where there is a candidate, the body it stands under is filled. -/
theorem Outline.IsBody.filled {root body e : Outline} (h : root.IsBody body)
    (hCandidate : body.IsCandidate e) : root.HasFilledBody := by
  refine ⟨body, h, ?_⟩
  obtain ⟨depth, -, hAt⟩ := hCandidate
  cases hAt with
  | child hChild => exact List.ne_nil_of_mem hChild
  | under hChild _ => exact List.ne_nil_of_mem hChild

/-! ## 4. Sources -/

/-- **A source says how the tree is made.** A document without a root is empty. The full scope is the
root. The main scope is an element that is marked as content, if any element of the tree is, the root
among them; else, if there is a body and an element in it, the heuristic's choice; else the root. The
markup is always that of an element of the document, with its size in UTF-8, in the scope that was
asked for. -/
theorem source_extract_iff (document : Option Outline) (scope : Scope) :
    let s := extract document scope
    (s.source = .empty ↔ document = none) ∧
    (s.source = .full ↔ scope = .full ∧ ∃ root, document = some root) ∧
    (s.source = .preferred ↔ scope = .main ∧ ∃ root, document = some root ∧ root.HasContent) ∧
    (s.source = .heuristic ↔
      scope = .main ∧ ∃ root, document = some root ∧ ¬ root.HasContent ∧ root.HasFilledBody) ∧
    (s.source = .fullFallback ↔
      scope = .main ∧ ∃ root, document = some root ∧ ¬ root.HasContent ∧ ¬ root.HasFilledBody) ∧
    s.scope = scope ∧ s.sizeBytes = s.html.utf8ByteSize ∧
    (document = none → s.html = "") ∧
    ∀ root, document = some root →
      (∃ e, root.Holds e ∧ s.html = e.outer) ∧
      (s.source = .full ∨ s.source = .fullFallback → s.html = root.outer) := by
  cases document with
  | none => simp [extract, Snapshot.blank, Snapshot.ofHtml]
  | some root =>
    obtain ⟨source, e, hServes, hExtract⟩ := extract_serves root scope
    have hHolds : root.Holds e := hServes.holds
    have hElement : ∃ o, root.Holds o ∧ e.outer = o.outer := ⟨e, hHolds, rfl⟩
    rw [hExtract]
    cases hServes with
    | full => simp [Snapshot.ofHtml, hElement]
    | preferred hIn hIs =>
      have hContent : root.HasContent := ⟨e, hIn, hIs⟩
      simp [Snapshot.ofHtml, hContent, hElement]
    | heuristic hNone hBody hCandidate =>
      have hFilled : root.HasFilledBody := hBody.filled hCandidate
      simp [Snapshot.ofHtml, hNone, hFilled, hElement]
    | fullFallback hNone hEmpty => simp [Snapshot.ofHtml, hNone, hEmpty, hElement]

end PageQuery.Page
