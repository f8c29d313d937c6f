import Mathlib.Data.List.Induction
import Mathlib.Data.List.Sort
import PageQuery.Result.Export
/-!
What the records of a result hold.

`IsRecord` says of the fields of one record, without the fold that builds them, which names they have,
in which order, and which cell is under each. The record of some more columns comes from the record of
the columns before by setting one field (`IsRecord.snoc`), and that is all the fold does
(`isRecord_ofFields`). As there is only one list of fields like that (`IsRecord.unique`),
`render_eq_records` says all there is to say of the records of a result.
-/

namespace PageQuery

/-! ## 1. Setting a field -/

namespace Json

/-- A name that is there keeps its place, and a new one goes to the end. -/
theorem names_setField (name : String) (value : Json) : ∀ fields : List (String × Json),
    (setField name value fields).map Prod.fst =
      if name ∈ fields.map Prod.fst then fields.map Prod.fst
      else fields.map Prod.fst ++ [name]
  | [] => rfl
  | (k, v) :: rest => by
      by_cases hSame : k = name
      · subst hSame
        simp
      · rw [setField, if_neg hSame, List.map_cons, names_setField name value rest, List.map_cons]
        by_cases hMem : name ∈ rest.map Prod.fst
        · rw [if_pos hMem, if_pos (List.mem_cons_of_mem k hMem)]
        · rw [if_neg hMem, if_neg (by simp [Ne.symm hSame, hMem]), List.cons_append]

/-- Setting a field gives its name the value, and leaves all other names alone. -/
theorem get?_setField (name other : String) (value : Json) : ∀ fields : List (String × Json),
    (obj (setField name value fields)).get? other =
      if name = other then some value else (obj fields).get? other
  | [] => by simp
  | (k, v) :: rest => by
      by_cases hSame : k = name
      · subst hSame
        by_cases hOther : k = other
        · simp [hOther]
        · simp [hOther]
      · rw [setField, if_neg hSame, get?_obj_cons, get?_obj_cons, get?_setField name other value rest]
        by_cases hOther : k = other
        · rw [if_pos hOther, if_neg fun h => hSame (hOther.trans h.symm), if_pos hOther]
        · rw [if_neg hOther, if_neg hOther]

/-- Fields with different names are told by their names and what is under them. -/
theorem eq_map_get? {fields : List (String × Json)} (h : (fields.map Prod.fst).Nodup) :
    fields.map (fun f => (f.1, some f.2)) =
      (fields.map Prod.fst).map fun name => (name, (obj fields).get? name) := by
  induction fields with
  | nil => rfl
  | cons f rest ih =>
    obtain ⟨hNew, hRest⟩ := List.nodup_cons.mp h
    have hLater : ∀ name ∈ rest.map Prod.fst,
        (obj (f :: rest)).get? name = (obj rest).get? name := by
      intro name hMem
      have hOther : f.1 ≠ name := fun hSame => hNew (hSame ▸ hMem)
      exact (get?_obj_cons name f.1 f.2 rest).trans (if_neg hOther)
    have hFirst : (obj (f :: rest)).get? f.1 = some f.2 :=
      (get?_obj_cons f.1 f.1 f.2 rest).trans (if_pos rfl)
    rw [List.map_cons, List.map_cons, List.map_cons, ih hRest, hFirst]
    congr 1
    exact List.map_congr_left fun name hMem => by rw [hLater name hMem]

end Json

namespace Records

open Json

/-! ## 2. Records -/

/-- The last column of a name. -/
def IsLastColumn (columns : List String) (name : String) (i : Nat) : Prop :=
  columns[i]? = some name ∧ ∀ j, i < j → columns[j]? ≠ some name

/-- The fields of the record of a row: their names are those of the columns, each once, in the order
in which they first occur; and under a name is the cell that the row has in the last column of that
name, or null if the row does not reach it. -/
structure IsRecord (columns : List String) (row : List Json) (fields : List (String × Json)) :
    Prop where
  mem_names_iff (name : String) : name ∈ fields.map Prod.fst ↔ name ∈ columns
  ordered : (fields.map Prod.fst).Pairwise fun a b => columns.idxOf a < columns.idxOf b
  cell (name : String) : name ∈ columns → ∃ i, IsLastColumn columns name i ∧
    (obj fields).get? name = some ((row[i]?).getD .null)

theorem IsLastColumn.unique {columns : List String} {name : String} {i j : Nat}
    (hi : IsLastColumn columns name i) (hj : IsLastColumn columns name j) : i = j := by
  rcases Nat.lt_trichotomy i j with hLess | rfl | hLess
  · exact absurd hj.1 (hi.2 j hLess)
  · rfl
  · exact absurd hi.1 (hj.2 i hLess)

/-- A further column is the last one of its name. -/
theorem isLastColumn_snoc_self (columns : List String) (name : String) :
    IsLastColumn (columns ++ [name]) name columns.length := by
  refine ⟨by simp, fun j hLater => ?_⟩
  rw [List.getElem?_eq_none (by simp; omega)]
  exact (Option.some_ne_none name).symm

/-- A further column of another name changes nothing. -/
theorem IsLastColumn.snoc {columns : List String} {name other : String} {i : Nat}
    (h : IsLastColumn columns name i) (hOther : other ≠ name) :
    IsLastColumn (columns ++ [other]) name i := by
  have hBound : i < columns.length := (List.getElem?_eq_some_iff.mp h.1).1
  refine ⟨by rw [List.getElem?_append_left hBound]; exact h.1, fun j hLater => ?_⟩
  rcases Nat.lt_trichotomy j columns.length with hLess | rfl | hMore
  · rw [List.getElem?_append_left hLess]
    exact h.2 j hLater
  · simpa using hOther
  · rw [List.getElem?_eq_none (by simp; omega)]
    exact (Option.some_ne_none name).symm

namespace IsRecord

variable {columns : List String} {row : List Json} {fields : List (String × Json)}

theorem nodup (h : IsRecord columns row fields) : (fields.map Prod.fst).Nodup :=
  h.ordered.imp fun hLess hSame => by simp [hSame] at hLess

/-- With one more column, the record has one more field set. -/
theorem snoc (h : IsRecord columns row fields) (name : String) :
    IsRecord (columns ++ [name]) row
      (setField name (QueryResult.cell row columns.length) fields) where
  mem_names_iff other := by
    rw [names_setField, List.mem_append, List.mem_singleton, ← h.mem_names_iff]
    by_cases hOld : name ∈ fields.map Prod.fst
    · rw [if_pos hOld]
      exact ⟨Or.inl, fun hMem => hMem.elim id fun hSame => hSame ▸ hOld⟩
    · rw [if_neg hOld, List.mem_append, List.mem_singleton]
  ordered := by
    -- The columns before keep their first places, and a new name has its place after them.
    have hKept : ∀ other ∈ fields.map Prod.fst,
        (columns ++ [name]).idxOf other = columns.idxOf other :=
      fun other hMem => List.idxOf_append_of_mem ((h.mem_names_iff other).mp hMem)
    have hOrdered : (fields.map Prod.fst).Pairwise
        fun a b => (columns ++ [name]).idxOf a < (columns ++ [name]).idxOf b :=
      h.ordered.imp_of_mem fun ha hb hLess => by rwa [hKept _ ha, hKept _ hb]
    rw [names_setField]
    by_cases hOld : name ∈ fields.map Prod.fst
    · rw [if_pos hOld]
      exact hOrdered
    · rw [if_neg hOld, List.pairwise_append]
      refine ⟨hOrdered, List.pairwise_singleton _ _, fun other hMem last hLast => ?_⟩
      have hNew : name ∉ columns := mt (h.mem_names_iff name).mpr hOld
      rw [List.mem_singleton.mp hLast, hKept other hMem, List.idxOf_append_of_notMem hNew]
      have hLess := List.idxOf_lt_length_of_mem ((h.mem_names_iff other).mp hMem)
      omega
  cell other hMem := by
    rw [get?_setField]
    by_cases hSame : name = other
    · subst hSame
      refine ⟨columns.length, isLastColumn_snoc_self columns name, ?_⟩
      rw [if_pos rfl, QueryResult.cell, List.getD_eq_getElem?_getD]
    · have hOld : other ∈ columns := by simpa [Ne.symm hSame] using hMem
      obtain ⟨i, hLast, hCell⟩ := h.cell other hOld
      exact ⟨i, hLast.snoc hSame, by rw [if_neg hSame, hCell]⟩

/-- A row has one record. -/
theorem unique (h : IsRecord columns row fields) {others : List (String × Json)}
    (h' : IsRecord columns row others) : others = fields := by
  have hAntisymm : Std.Antisymm fun a b : String => columns.idxOf a < columns.idxOf b :=
    ⟨fun a b hab hba => by omega⟩
  have hIrrefl : Std.Irrefl fun a b : String => columns.idxOf a < columns.idxOf b :=
    ⟨fun a => by omega⟩
  have hNames : others.map Prod.fst = fields.map Prod.fst :=
    h'.ordered.eq_of_mem_iff h.ordered fun name =>
      (h'.mem_names_iff name).trans (h.mem_names_iff name).symm
  have hValues : ∀ name ∈ fields.map Prod.fst,
      (obj others).get? name = (obj fields).get? name := by
    intro name hMem
    have hColumn := (h.mem_names_iff name).mp hMem
    obtain ⟨i, hLast, hCell⟩ := h.cell name hColumn
    obtain ⟨j, hLast', hCell'⟩ := h'.cell name hColumn
    rw [hCell, hCell', hLast.unique hLast']
  have hSame : others.map (fun f => (f.1, some f.2)) = fields.map fun f => (f.1, some f.2) := by
    rw [eq_map_get? h'.nodup, eq_map_get? h.nodup, hNames]
    exact List.map_congr_left fun name hMem => by rw [hValues name hMem]
  refine List.map_injective_iff.mpr (fun f g hFields => ?_) hSame
  simpa [Prod.ext_iff] using hFields

end IsRecord

/-- The object of a row is its record. -/
theorem isRecord_ofFields (row : List Json) (columns : List String) :
    IsRecord columns row
      (ofFields (columns.zipIdx.map fun (name, i) => (name, QueryResult.cell row i))) := by
  induction columns using List.reverseRecOn with
  | nil => exact ⟨by simp [ofFields], .nil, by simp⟩
  | append_singleton columns name ih =>
    have hStep : ofFields ((columns ++ [name]).zipIdx.map
        fun (name, i) => (name, QueryResult.cell row i)) =
        setField name (QueryResult.cell row columns.length)
          (ofFields (columns.zipIdx.map fun (name, i) => (name, QueryResult.cell row i))) := by
      simp [ofFields, List.zipIdx_append]
    rw [hStep]
    exact ih.snoc name

-- A row that does not reach the last column of a name has no cell there, whatever is in the first.
example : record ["a", "b", "a"] [.str "x", .str "y"] = .obj [("a", .null), ("b", .str "y")] := rfl

/-! ## 3. The rendering -/

/-- **A result is rendered as the array of the records of its rows.** There is one object for each
row, in the order of the rows, and it is the record of that row. -/
theorem render_eq_records (r : QueryResult) :
    ∃ records : List (List (String × Json)),
      render r = (Json.arr (records.map Json.obj)).indented 0 ∧
      List.Forall₂ (IsRecord r.columns) r.rows records ∧
      ∀ others, List.Forall₂ (IsRecord r.columns) r.rows others → others = records := by
  let fieldsOf : List Json → List (String × Json) := fun row =>
    ofFields (r.columns.zipIdx.map fun (name, i) => (name, QueryResult.cell row i))
  have hRecords : List.Forall₂ (IsRecord r.columns) r.rows (r.rows.map fieldsOf) :=
    List.forall₂_map_right_iff.mpr
      (List.forall₂_same.mpr fun row _ => isRecord_ofFields row r.columns)
  refine ⟨r.rows.map fieldsOf, ?_, hRecords, fun others hOthers => ?_⟩
  · rw [render, value, List.map_map]
    rfl
  · have hUnique : Relator.RightUnique (IsRecord r.columns) := fun _ _ _ h h' => h'.unique h
    exact List.right_unique_forall₂' hUnique hOthers hRecords

end Records

end PageQuery
