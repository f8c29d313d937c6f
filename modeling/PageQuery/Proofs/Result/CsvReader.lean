import PageQuery.Result.Export
/-!
Comma separated values, read back.

The reader here follows RFC 4180 one character at a time and knows nothing of `Csv.escape`: a comma
outside quotes ends a field, a line break outside quotes ends a record, and a doubled quote inside
quotes is one quote. It is strict: a quote in the middle of a field without quotes, text after a
closing quote and quotes that never close are refused, not guessed at.

The main statement is `read_render`. It needs a column, since a record without fields and a record
with one empty field are both an empty line.
-/

namespace PageQuery.Csv

open Text

/-! ## 1. The reader -/

/-- Where in a field the reader stands. -/
inductive Place
  /-- Nothing of the field is read. -/
  | start
  /-- In a field without quotes. -/
  | bare
  /-- Between the quotes of a field. -/
  | quoted
  /-- Behind a quote that closes the field, unless another one follows. -/
  | closed
  /-- Behind a carriage return outside quotes. -/
  | returned
  deriving DecidableEq, Repr

/-- The field being read, the fields before it in its record, and the records before that. -/
structure Reader where
  place : Place
  field : List Char
  fields : List (List Char)
  records : List (List (List Char))

namespace Reader

def add (s : Reader) (place : Place) (c : Char) : Reader :=
  { s with place := place, field := s.field ++ [c] }

def endField (s : Reader) : Reader := ⟨.start, [], s.fields ++ [s.field], s.records⟩

def endRecord (s : Reader) : Reader := ⟨.start, [], [], s.records ++ [s.fields ++ [s.field]]⟩

/-- A character that ends a field. -/
def separate? (s : Reader) (c : Char) : Option Reader :=
  if c = ',' then some s.endField
  else if c = '\n' then some s.endRecord
  else if c = '\r' then some { s with place := .returned }
  else none

/-- One character; none where no reading is right. -/
def step? (s : Reader) (c : Char) : Option Reader :=
  match s.place with
  | .start =>
    if c = '"' then some { s with place := .quoted }
    else (s.separate? c).or (some (s.add .bare c))
  | .bare => if c = '"' then none else (s.separate? c).or (some (s.add .bare c))
  | .quoted => some (if c = '"' then { s with place := .closed } else s.add .quoted c)
  | .closed => if c = '"' then some (s.add .quoted c) else s.separate? c
  | .returned => if c = '\n' then some s.endRecord else none

def run? (s : Reader) : List Char → Option Reader
  | [] => some s
  | c :: rest => (s.step? c).bind fun t => t.run? rest

/-- The records once the text has ended. -/
def finish? (s : Reader) : Option (List (List (List Char))) :=
  match s.place with
  | .quoted | .returned => none
  | .start | .bare | .closed => some s.endRecord.records

/-- The text may end here, or the field may. -/
def Settled (s : Reader) : Prop := s.place ≠ .quoted ∧ s.place ≠ .returned

end Reader

/-- The records of a text; none if it is not comma separated values. -/
def read (cs : List Char) : Option (List (List (List Char))) :=
  (Reader.run? ⟨.start, [], [], []⟩ cs).bind Reader.finish?

/-! ## 2. What ends a field -/

namespace Reader

theorem run?_append (s : Reader) (as bs : List Char) :
    s.run? (as ++ bs) = (s.run? as).bind fun t => t.run? bs := by
  induction as generalizing s with
  | nil => rfl
  | cons c rest ih =>
    rw [List.cons_append, run?, run?, Option.bind_assoc]
    congr 1
    funext t
    exact ih t

/-- A comma, a line feed and the end of the text are understood wherever a field may end. -/
theorem Settled.ends {s : Reader} (h : s.Settled) :
    s.step? ',' = some s.endField ∧ s.step? '\n' = some s.endRecord ∧
      s.finish? = some s.endRecord.records := by
  obtain ⟨place, field, fields, records⟩ := s
  cases place with
  | quoted => exact absurd rfl h.1
  | returned => exact absurd rfl h.2
  | start | bare | closed => exact ⟨rfl, rfl, rfl⟩

/-! ## 3. One field -/

theorem separate?_eq_none {c : Char} (h : isSpecial c = false) (s : Reader) :
    s.separate? c = none := by
  simp only [isSpecial, Bool.or_eq_false_iff, beq_eq_false_iff_ne] at h
  obtain ⟨⟨⟨_, hComma⟩, hReturn⟩, hFeed⟩ := h
  rw [separate?, if_neg hComma, if_neg hFeed, if_neg hReturn]

theorem ne_quote {c : Char} (h : isSpecial c = false) : c ≠ '"' := by
  rintro rfl
  exact absurd h (by decide)

/-- Characters that need no quotes are read as they stand. -/
theorem run?_bare (cs : List Char) (h : cs.any isSpecial = false) (s : Reader)
    (hs : s.place = .start ∨ s.place = .bare) :
    ∃ t, s.run? cs = some t ∧ t.Settled ∧ t.field = s.field ++ cs ∧
      t.fields = s.fields ∧ t.records = s.records := by
  induction cs generalizing s with
  | nil =>
    refine ⟨s, rfl, ?_, by simp, rfl, rfl⟩
    rcases hs with hs | hs <;> simp [Settled, hs]
  | cons c rest ih =>
    rw [List.any_cons, Bool.or_eq_false_iff] at h
    have hStep : s.step? c = some (s.add .bare c) := by
      rcases hs with hs | hs <;>
        simp [step?, hs, ne_quote h.1, separate?_eq_none h.1]
    obtain ⟨t, hRun, hSettled, hField, hRest⟩ := ih h.2 (s.add .bare c) (Or.inr rfl)
    refine ⟨t, ?_, hSettled, ?_, hRest⟩
    · rw [run?, hStep]
      exact hRun
    · rw [hField, add, List.append_assoc]
      rfl

/-- Between quotes every character stands for itself and two quotes for one. -/
theorem run?_doubleQuotes (cs field : List Char) (fields : List (List Char))
    (records : List (List (List Char))) :
    run? ⟨.quoted, field, fields, records⟩ (doubleQuotes cs) =
      some ⟨.quoted, field ++ cs, fields, records⟩ := by
  induction cs generalizing field with
  | nil => simp [doubleQuotes, run?]
  | cons c rest ih =>
    have hSplit : doubleQuotes (c :: rest) =
        (if c = '"' then ['"', '"'] else [c]) ++ doubleQuotes rest := rfl
    have hOne : run? ⟨.quoted, field, fields, records⟩ (if c = '"' then ['"', '"'] else [c]) =
        some ⟨.quoted, field ++ [c], fields, records⟩ := by
      by_cases hc : c = '"'
      · subst hc
        rfl
      · simp [run?, step?, add, hc]
    rw [hSplit, run?_append, hOne, Option.bind_some, ih, List.append_assoc]
    rfl

/-- A written field is read whole, whatever it holds. -/
theorem run?_escape (cs : List Char) (fields : List (List Char))
    (records : List (List (List Char))) :
    ∃ place, run? ⟨.start, [], fields, records⟩ (escape cs) = some ⟨place, cs, fields, records⟩ ∧
      Settled ⟨place, cs, fields, records⟩ := by
  rw [escape]
  by_cases h : cs.any isSpecial = true
  · refine ⟨.closed, ?_, by simp [Settled]⟩
    rw [if_pos h]
    have hOpen : step? ⟨.start, [], fields, records⟩ '"' =
        some ⟨.quoted, [], fields, records⟩ := rfl
    rw [run?, hOpen, Option.bind_some, run?_append, run?_doubleQuotes]
    rfl
  · rw [if_neg h]
    obtain ⟨⟨place, field, fields', records'⟩, hRun, hSettled, hField, hFields, hRecords⟩ :=
      run?_bare cs (by simpa using h) ⟨.start, [], fields, records⟩ (Or.inl rfl)
    simp only [List.nil_append] at hField hFields hRecords
    subst hField hFields hRecords
    exact ⟨place, hRun, hSettled⟩

/-! ## 4. Records -/

/-- A written record is read into the fields it was made of. -/
theorem run?_record : ∀ (fields : List (List Char)), fields ≠ [] →
    ∀ (done : List (List Char)) (records : List (List (List Char))),
    ∃ t, run? ⟨.start, [], done, records⟩ (record fields) = some t ∧ t.Settled ∧
      t.endRecord = ⟨.start, [], [], records ++ [done ++ fields]⟩
  | [], h, _, _ => absurd rfl h
  | [field], _, done, records => by
      obtain ⟨place, hRun, hSettled⟩ := run?_escape field done records
      exact ⟨_, hRun, hSettled, rfl⟩
  | field :: next :: more, _, done, records => by
      obtain ⟨place, hRun, hSettled⟩ := run?_escape field done records
      obtain ⟨t, hRest, hEnd, hFields⟩ :=
        run?_record (next :: more) (by simp) (done ++ [field]) records
      refine ⟨t, ?_, hEnd, ?_⟩
      · have hSplit : record (field :: next :: more) =
            escape field ++ ',' :: record (next :: more) := by
          simp [record, joinWith]
        rw [hSplit, run?_append, hRun, Option.bind_some, run?, hSettled.ends.1]
        exact hRest
      · rw [hFields, List.append_assoc]
        rfl

/-- Written records are read one by one after the records already read. -/
theorem run?_records : ∀ (records : List (List (List Char))), records ≠ [] →
    (∀ fields ∈ records, fields ≠ []) → ∀ (done : List (List (List Char))),
    (run? ⟨.start, [], [], done⟩ (joinWith ['\n'] (records.map record))).bind finish? =
      some (done ++ records)
  | [], h, _, _ => absurd rfl h
  | [fields], _, hFields, done => by
      obtain ⟨t, hRun, hSettled, hEnd⟩ := run?_record fields (hFields _ (by simp)) [] done
      have hJoin : joinWith ['\n'] ([fields].map record) = record fields := rfl
      rw [hJoin, hRun, Option.bind_some, hSettled.ends.2.2, hEnd]
      rfl
  | fields :: next :: more, _, hFields, done => by
      obtain ⟨t, hRun, hSettled, hEnd⟩ := run?_record fields (hFields _ (by simp)) [] done
      have hJoin : joinWith ['\n'] ((fields :: next :: more).map record) =
          record fields ++ '\n' :: joinWith ['\n'] ((next :: more).map record) := by
        simp [joinWith]
      have hRest := run?_records (next :: more) (by simp)
        (fun other h => hFields other (List.mem_cons_of_mem _ h)) (done ++ [fields])
      rw [hJoin, run?_append, hRun, Option.bind_some, run?, hSettled.ends.2.1,
        Option.bind_some, hEnd]
      rw [List.append_assoc] at hRest
      exact hRest

end Reader

/-! ## 5. Results -/

/-- A padded row has the cell of every index up to its length or the column count. -/
theorem padded_eq_range (r : QueryResult) (row : List Json) :
    r.padded row =
      (List.range (max r.columns.length row.length)).map (QueryResult.cell row) := by
  apply List.ext_getElem
  · simp
  · intro i hi _
    simp only [QueryResult.padded, List.getElem_map, List.getElem_range, QueryResult.cell,
      List.getElem_append, List.getElem_replicate, List.getD_eq_getElem?_getD]
    by_cases h : i < row.length
    · rw [dif_pos h, List.getElem?_eq_getElem h]
      rfl
    · rw [dif_neg h, List.getElem?_eq_none (by omega)]
      rfl

/-- **Reading a rendered result gives back its table.** The header has the column names; each row
has the text of every cell up to the column count or its own length, null beyond its end. No field
or record is added, lost, merged or split, whatever the cells hold. -/
theorem read_render (r : QueryResult) (h : r.columns ≠ []) :
    read (render r) =
      some (r.columns.map String.toList :: r.rows.map fun row =>
        (List.range (max r.columns.length row.length)).map fun i =>
          cellText (QueryResult.cell row i)) := by
  have hRows : (r.rows.map fun row => (List.range (max r.columns.length row.length)).map fun i =>
      cellText (QueryResult.cell row i)) = r.rows.map (rowFields r) := by
    apply List.map_congr_left
    intro row _
    rw [rowFields, padded_eq_range, List.map_map]
    rfl
  have hRender : render r =
      joinWith ['\n'] ((r.columns.map String.toList :: r.rows.map (rowFields r)).map record) := by
    rw [render, List.map_cons, List.map_map]
    rfl
  have hColumns : 0 < r.columns.length := List.length_pos_iff.mpr h
  have hFields : ∀ fields ∈ r.columns.map String.toList :: r.rows.map (rowFields r),
      fields ≠ [] := by
    intro fields hMem
    rw [← List.length_pos_iff]
    rcases List.mem_cons.mp hMem with rfl | hMem
    · simpa using hColumns
    · obtain ⟨row, _, rfl⟩ := List.mem_map.mp hMem
      rw [rowFields, List.length_map, QueryResult.length_padded]
      omega
  rw [hRows, read, hRender, Reader.run?_records _ (by simp) hFields]
  rfl

/-- A short row, a long one and an empty one, with every character that needs quotes. -/
theorem read_render_ragged :
    let ragged : QueryResult :=
      { QueryResult.empty with
        columns := ["a,b", "\"c\""]
        rows := [[.str "x\r\ny"], [.null, .str "\"", .arr [.str ",", .null]], []] }
    ragged.columns ≠ [] ∧
    read (render ragged) =
      some [[['a', ',', 'b'], ['"', 'c', '"']],
        [['x', '\r', '\n', 'y'], []],
        [[], ['"'], ['[', '"', ',', '"', ',', 'n', 'u', 'l', 'l', ']']],
        [[], []]] := by
  refine ⟨by decide, ?_⟩
  rw [read_render _ (by decide)]
  decide

end PageQuery.Csv
