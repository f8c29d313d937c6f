import PageQuery.Proofs.Json.Records
import PageQuery.Result.Table
import Mathlib.Logic.Relation
/-!
What query results are decoded from.

`resultSlots`, `columnSlots` and `faultSlots` list the fields of the three records that a result is made
of. From them come the values that are results (`IsRecord resultSlots`) and the edits that leave a result as
it is, and the decoder is shown to read each field as its slot has it. So it takes the results and nothing
else, and does not see the edits. Writing a result gives one of the values that it is decoded from.
`decoding_is_exact` is the statement.
-/

namespace PageQuery.QueryResult

open Json Draft

/-! ## 1. The fields of the records -/

/-- A column has a name, and nothing stands for it. -/
def columnSlots : List Slot := [.plain "name" none IsText]

def faultSlots : List Slot :=
  [.plain "code" (some .null) (IsNullOr IsText), .plain "message" (some (.str "")) IsText]

/-- Cells are of any kind. -/
def resultSlots : List Slot :=
  [⟨"columns", some (.arr []), IsListOf (IsRecord columnSlots), IsItemEdit (IsEdit columnSlots)⟩,
   .plain "rows" (some (.arr [])) (IsListOf (IsListOf fun _ => True)),
   .plain "elapsed_ms" (some (.nat 0)) IsCount,
   .plain "truncated" (some (.bool false)) IsFlag,
   ⟨"error", some .null, IsNullOr (IsRecord faultSlots), IsEdit faultSlots⟩]

def columnNames : List String := ["name"]

def resultNames : List String := ["columns", "rows", "elapsed_ms", "truncated", "error"]

def faultNames : List String := ["code", "message"]

/-! ## 2. Decoders in parts -/

theorem column?_eq (v : Json) :
    column? none v.toDraft = readField columnNames "name" (required string?) v := by
  unfold column? readField columnNames
  rw [record?_toDraft (by decide) (by decide)]
  simp only [List.mapM_cons, List.mapM_nil]
  generalize given? _ "name" v = name
  cases name <;> simp

theorem fault?_eq (v : Json) :
    fault? none v.toDraft = do
      return ⟨← readField faultNames "code" (orElse none (nullable? string?)) v,
        ← readField faultNames "message" (orElse "" string?) v⟩ := by
  unfold fault? readField faultNames
  rw [record?_toDraft (by decide) (by decide)]
  simp only [List.mapM_cons, List.mapM_nil]
  generalize given? _ "code" v = code
  generalize given? _ "message" v = message
  cases code <;> cases message <;> simp

theorem ofJson?_eq (v : Json) :
    ofJson? v = do
      return { columns := ← readField resultNames "columns" (orElse [] (list? column? none)) v
               rows := ← readField resultNames "rows" (orElse [] (list? (list? Draft.value?) none)) v
               elapsedMs := ← readField resultNames "elapsed_ms" (orElse 0 nat?) v
               truncated := ← readField resultNames "truncated" (orElse false bool?) v
               fault := ← readField resultNames "error" (orElse none (nullable? (fault? none))) v } := by
  unfold ofJson? ofDraft? readField resultNames
  rw [record?_toDraft (by decide) (by decide)]
  simp only [List.mapM_cons, List.mapM_nil]
  generalize given? _ "columns" v = columns
  generalize given? _ "rows" v = rows
  generalize given? _ "elapsed_ms" v = elapsed
  generalize given? _ "truncated" v = truncated
  generalize given? _ "error" v = fault
  -- what is not given where it stands ends both sides, so only one case goes on each time
  cases columns with
  | none => simp
  | some columns =>
    cases rows with
    | none => simp
    | some rows =>
      cases elapsed with
      | none => simp
      | some elapsed =>
        cases truncated with
        | none => simp
        | some truncated => cases fault <;> simp

/-! ## 3. Columns and faults -/

theorem reads_name : (Slot.plain "name" none IsText).Reads (required string?) :=
  .required rfl isSome_string? fun _ _ h => h.elim

theorem isSome_column? (v : Json) : (column? none v.toDraft).isSome ↔ IsRecord columnSlots v := by
  rw [column?_eq, isRecord_iff columnNames rfl (by decide) (by simp [columnSlots])]
  rw [columnSlots, List.forall_mem_singleton]
  exact isSome_readField reads_name columnNames v

theorem column?_edit (v v' : Json) (h : IsEdit columnSlots v v') :
    column? none v.toDraft = column? none v'.toDraft := by
  rw [column?_eq, column?_eq]
  exact readField_edit rfl (by decide) (by simp [columnSlots]) reads_name h

theorem reads_code :
    (Slot.plain "code" (some .null) (IsNullOr IsText)).Reads (orElse none (nullable? string?)) :=
  .orElse rfl rfl (isSome_nullable? isSome_string?) fun _ _ h => h.elim

theorem reads_message : (Slot.plain "message" (some (.str "")) IsText).Reads (orElse "" string?) :=
  .orElse rfl rfl isSome_string? fun _ _ h => h.elim

theorem isSome_fault? (v : Json) : (fault? none v.toDraft).isSome ↔ IsRecord faultSlots v := by
  rw [fault?_eq, isRecord_iff faultNames rfl (by decide) (by simp [faultSlots])]
  have hCode : (readField faultNames "code" _ v).isSome ↔ _ := isSome_readField reads_code _ v
  have hMessage : (readField faultNames "message" _ v).isSome ↔ _ :=
    isSome_readField reads_message _ v
  simp only [faultSlots, List.forall_mem_cons, ← hCode, ← hMessage]
  cases readField faultNames "code" _ v with
  | none => simp
  | some code => cases readField faultNames "message" _ v <;> simp

theorem fault?_edit (v v' : Json) (h : IsEdit faultSlots v v') :
    fault? none v.toDraft = fault? none v'.toDraft := by
  have hCode : readField faultNames "code" _ v = readField faultNames "code" _ v' :=
    readField_edit rfl (by decide) (by simp [faultSlots]) reads_code h
  have hMessage : readField faultNames "message" _ v = readField faultNames "message" _ v' :=
    readField_edit rfl (by decide) (by simp [faultSlots]) reads_message h
  rw [fault?_eq, fault?_eq, hCode, hMessage]

/-! ## 4. Results -/

/-- A row is a list of cells, and a cell is anything. -/
theorem isSome_row? (v : Json) :
    (list? Draft.value? none v.toDraft).isSome ↔ IsListOf (fun _ => True) v :=
  isSome_list? (fun v => iff_of_true (isSome_value?_toDraft v) trivial) v

theorem reads_columns :
    Slot.Reads
      ⟨"columns", some (.arr []), IsListOf (IsRecord columnSlots), IsItemEdit (IsEdit columnSlots)⟩
      (orElse [] (list? column? none)) :=
  .orElse rfl rfl (isSome_list? isSome_column?) fun _ _ h => list?_edit column?_edit h

theorem reads_rows :
    (Slot.plain "rows" (some (.arr [])) (IsListOf (IsListOf fun _ => True))).Reads
      (orElse [] (list? (list? Draft.value?) none)) :=
  .orElse rfl rfl (isSome_list? isSome_row?) fun _ _ h => h.elim

theorem reads_elapsed :
    (Slot.plain "elapsed_ms" (some (.nat 0)) IsCount).Reads (orElse 0 nat?) :=
  .orElse rfl rfl isSome_nat? fun _ _ h => h.elim

theorem reads_truncated :
    (Slot.plain "truncated" (some (.bool false)) IsFlag).Reads (orElse false bool?) :=
  .orElse rfl rfl isSome_bool? fun _ _ h => h.elim

theorem reads_error :
    Slot.Reads ⟨"error", some .null, IsNullOr (IsRecord faultSlots), IsEdit faultSlots⟩
      (orElse none (nullable? (fault? none))) :=
  .orElse rfl rfl (isSome_nullable? isSome_fault?) fun _ _ h => nullable?_edit fault?_edit h

/-- What is decoded is a result, and every result is decoded. -/
theorem isSome_ofJson? (v : Json) : (ofJson? v).isSome ↔ IsRecord resultSlots v := by
  rw [ofJson?_eq, isRecord_iff resultNames rfl (by decide) (by simp [resultSlots])]
  have hColumns : (readField resultNames "columns" _ v).isSome ↔ _ :=
    isSome_readField reads_columns _ v
  have hRows : (readField resultNames "rows" _ v).isSome ↔ _ := isSome_readField reads_rows _ v
  have hElapsed : (readField resultNames "elapsed_ms" _ v).isSome ↔ _ :=
    isSome_readField reads_elapsed _ v
  have hTruncated : (readField resultNames "truncated" _ v).isSome ↔ _ :=
    isSome_readField reads_truncated _ v
  have hError : (readField resultNames "error" _ v).isSome ↔ _ := isSome_readField reads_error _ v
  simp only [resultSlots, List.forall_mem_cons, ← hColumns, ← hRows, ← hElapsed, ← hTruncated,
    ← hError]
  cases readField resultNames "columns" _ v with
  | none => simp
  | some columns =>
    cases readField resultNames "rows" _ v with
    | none => simp
    | some rows =>
      cases readField resultNames "elapsed_ms" _ v with
      | none => simp
      | some elapsed =>
        cases readField resultNames "truncated" _ v with
        | none => simp
        | some truncated => cases readField resultNames "error" _ v <;> simp

theorem ofJson?_eq_none {v : Json} (h : ¬ IsRecord resultSlots v) : ofJson? v = none := by
  rwa [← isSome_ofJson?, Option.not_isSome_iff_eq_none] at h

/-- An edit of a result is not seen. -/
theorem ofJson?_edit {v v' : Json} (h : IsEdit resultSlots v v') : ofJson? v = ofJson? v' := by
  have hField : ∀ {α : Type} {s : Slot} {read : Option Draft → Option α}, s ∈ resultSlots →
      s.Reads read → readField resultNames s.name read v = readField resultNames s.name read v' :=
    fun hMem hReads => readField_edit rfl (by decide) hMem hReads h
  have hColumns : readField resultNames "columns" _ v = _ :=
    hField (by simp [resultSlots]) reads_columns
  have hRows : readField resultNames "rows" _ v = _ := hField (by simp [resultSlots]) reads_rows
  have hElapsed : readField resultNames "elapsed_ms" _ v = _ :=
    hField (by simp [resultSlots]) reads_elapsed
  have hTruncated : readField resultNames "truncated" _ v = _ :=
    hField (by simp [resultSlots]) reads_truncated
  have hError : readField resultNames "error" _ v = _ := hField (by simp [resultSlots]) reads_error
  rw [ofJson?_eq, ofJson?_eq, hColumns, hRows, hElapsed, hTruncated, hError]
  rfl

/-! ## 5. Writing and reading -/

/-- The time fits 64 bits, and no object in a cell has a name twice. -/
structure IsWritable (r : QueryResult) : Prop where
  elapsedMs_lt : r.elapsedMs < Nat.pow 2 64
  distinctNames : ∀ row ∈ r.rows, ∀ cell ∈ row, cell.HasDistinctNames

theorem column?_columnJson (name : String) : column? none (columnJson name).toDraft = some name := by
  rw [column?_eq]
  rfl

theorem fault?_faultJson (f : QueryFault) : fault? none (faultJson f).toDraft = some f := by
  rw [fault?_eq]
  obtain ⟨code, message⟩ := f
  cases code <;> rfl

theorem row?_arr {row : List Json} (h : ∀ cell ∈ row, cell.HasDistinctNames) :
    list? Draft.value? none (toDraft (.arr row)) = some row := by
  have hRow : list? Draft.value? none (toDraft (.arr (row.map id))) = some row :=
    list?_of_forall fun cell hMem => value?_toDraft (h cell hMem)
  rwa [List.map_id] at hRow

/-- What is written is read back. -/
theorem ofJson?_toJson {r : QueryResult} (h : r.IsWritable) : ofJson? r.toJson = some r := by
  have hColumns : readField resultNames "columns" (orElse [] (list? column? none)) r.toJson =
      some r.columns := list?_of_forall fun name _ => column?_columnJson name
  have hRows : readField resultNames "rows" (orElse [] (list? (list? Draft.value?) none)) r.toJson =
      some r.rows := list?_of_forall fun row hMem => row?_arr (h.distinctNames row hMem)
  have hElapsed : readField resultNames "elapsed_ms" (orElse 0 nat?) r.toJson = some r.elapsedMs := by
    have hGiven : given? resultNames "elapsed_ms" r.toJson = some (some (.nat r.elapsedMs)) := rfl
    unfold readField
    rw [hGiven, Option.bind_some, Option.map_some, orElse]
    show (Json.nat r.elapsedMs).asNat? = some r.elapsedMs
    rw [asNat?_nat h.elapsedMs_lt]
  have hTruncated : readField resultNames "truncated" (orElse false bool?) r.toJson =
      some r.truncated := rfl
  have hError : readField resultNames "error" (orElse none (nullable? (fault? none))) r.toJson =
      some r.fault := by
    show nullable? (fault? none) (Json.ofOption faultJson r.fault).toDraft = some r.fault
    cases r.fault with
    | none => rfl
    | some f => exact congrArg (Option.map some) (fault?_faultJson f)
  rw [ofJson?_eq, hColumns, hRows, hElapsed, hTruncated, hError]
  rfl

/-- **What a result is decoded from.** A result that is written is read back. Edits, one after the other
and in both directions, are not seen in any value. A value is decoded just if it is a result, and one
field of the result with a value that it does not take, in an object or in an array, makes the decoding
fail. Of the fields, those of columns and of faults included, none but the error and its code take `null`,
and neither a result, a column nor a row is `null`. -/
theorem decoding_is_exact {r : QueryResult} (hWritable : r.IsWritable) :
    ofJson? r.toJson = some r ∧
    (∀ v v', Relation.EqvGen (IsEdit resultSlots) v v' → ofJson? v = ofJson? v') ∧
    (∀ v, (ofJson? v).isSome ↔ IsRecord resultSlots v) ∧
    (∀ s ∈ resultSlots, ∀ (v : Json) (fields : List (String × Json)), (s.name, v) ∈ fields →
      ¬ s.Holds v → ofJson? (.obj fields) = none) ∧
    (∀ (i : Nat) (s : Slot) (v : Json) (items : List Json), resultSlots[i]? = some s →
      items[i]? = some v → ¬ s.Holds v → ofJson? (.arr items) = none) ∧
    (∀ s ∈ resultSlots, s.Holds .null ↔ s.name = "error") ∧
    (∀ s ∈ faultSlots, s.Holds .null ↔ s.name = "code") ∧
    (∀ s ∈ columnSlots, ¬ s.Holds .null) ∧
    ¬ IsRecord resultSlots .null ∧ ¬ IsRecord columnSlots .null ∧
    ¬ IsListOf (fun _ => True) .null := by
  refine ⟨ofJson?_toJson hWritable, fun v v' h => ?_, isSome_ofJson?, ?_, ?_, ?_, ?_, ?_, id, id, id⟩
  · induction h with
    | rel v v' h => exact ofJson?_edit h
    | refl v => rfl
    | symm v v' _ ih => exact ih.symm
    | trans v v' v'' _ _ ih ih' => exact ih.trans ih'
  · intro s hMem v fields hField h
    exact ofJson?_eq_none (not_isRecord_obj hMem hField h)
  · intro i s v items hSlot hItem h
    exact ofJson?_eq_none (not_isRecord_arr hSlot hItem h)
  · simp [resultSlots, Slot.plain, IsListOf, IsCount, IsFlag, IsNullOr, Json.nat]
  · simp [faultSlots, Slot.plain, IsNullOr, IsText]
  · simp [columnSlots, Slot.plain, IsText]

/-- A result with a null and an object among its cells, and with a fault that has no code. -/
def faulty : QueryResult :=
  ⟨["a"], [[.null, .obj [("k", .arr [.null])]]], 0, true, some ⟨none, "e"⟩⟩

/-- The same result, with a further field in the column, without the time and without the code. -/
def faultyInShort : Json :=
  .obj [("columns", .arr [.obj [("type", .str "text"), ("name", .str "a")]]),
        ("rows", .arr [.arr [.null, .obj [("k", .arr [.null])]]]),
        ("truncated", .bool true),
        ("error", .obj [("message", .str "e")])]

theorem faultyInShort_of_edits :
    Relation.EqvGen (IsEdit resultSlots) faulty.toJson faultyInShort := by
  -- the time is put first, and left out
  refine .trans _ _ _ (.rel _ _ (.reorder (@List.perm_middle _ _ [_, _] _))) ?_
  refine .trans _ _ _ (.rel _ _ (.leaveOut (s := .plain "elapsed_ms" (some (.nat 0)) IsCount)
    (by simp [resultSlots]) rfl (by decide))) ?_
  have hCode : IsEdit faultSlots (faultJson ⟨none, "e"⟩) (.obj [("message", .str "e")]) :=
    .leaveOut (s := .plain "code" (some .null) (IsNullOr IsText)) (by simp [faultSlots]) rfl (by decide)
  refine .trans _ _ _ (.rel _ _ (.within [_, _, _] []
    (s := ⟨"error", some .null, IsNullOr (IsRecord faultSlots), IsEdit faultSlots⟩)
    (by simp [resultSlots]) hCode)) ?_
  have hType : IsEdit columnSlots (columnJson "a")
      (.obj [("type", .str "text"), ("name", .str "a")]) := .add _ _ (by decide)
  exact .rel _ _ (.within [] _
    (s := ⟨"columns", some (.arr []), IsListOf (IsRecord columnSlots),
      IsItemEdit (IsEdit columnSlots)⟩)
    (by simp [resultSlots]) (.item [] [] hType))

/-- It is read as the result that was written, and not at all with a `null` for the flag. -/
theorem decoding_is_exact_of_faulty :
    faulty.IsWritable ∧ ofJson? faulty.toJson = some faulty ∧ ofJson? faultyInShort = some faulty ∧
    ofJson? (.obj [("truncated", .null)]) = none ∧ ofJson? (.arr [.arr [], .null]) = none := by
  have hCell : HasDistinctNames (.obj [("k", .arr [.null])]) :=
    .obj (by decide) (List.forall_mem_singleton.mpr (.arr (List.forall_mem_singleton.mpr .null)))
  have hWritable : faulty.IsWritable := by
    refine ⟨by decide, List.forall_mem_singleton.mpr ?_⟩
    exact List.forall_mem_cons.mpr ⟨.null, List.forall_mem_singleton.mpr hCell⟩
  obtain ⟨hRead, hEdits, -, hObject, hArray, -⟩ := decoding_is_exact hWritable
  refine ⟨hWritable, hRead, (hEdits _ _ faultyInShort_of_edits).symm.trans hRead, ?_, ?_⟩
  · refine hObject (.plain "truncated" (some (.bool false)) IsFlag) (by simp [resultSlots]) .null _
      (List.mem_singleton.mpr rfl) ?_
    simp [Slot.plain, IsFlag]
  · refine hArray 1 _ .null _ rfl rfl ?_
    simp [Slot.plain, IsListOf]

end PageQuery.QueryResult
