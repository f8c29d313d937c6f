import PageQuery.Proofs.Result.RecordFields
import PageQuery.Json.Draft
import Mathlib.Data.List.Nodup
/-!
Records that are read from values.

A record is told by its fields: a `Slot` says of one what it is called, what stands for it if it is left
out, which values it takes, and which changes within its value are not to be seen. From the slots come the
values that the record takes (`IsRecord`) and the changes of a value that leave the record as it is
(`IsEdit`). Neither mentions a decoder. Whoever reads a field as its slot has it (`Slot.Reads`) takes the
values that the slot takes (`isSome_readField`) and reads the same before and after an edit
(`readField_edit`).
-/

namespace PageQuery.Json

open Draft

/-! ## 1. Values as drafts -/

theorem draftItems_eq (items : List Json) : draftItems items = items.map toDraft := by
  induction items with
  | nil => rfl
  | cons v rest ih => rw [draftItems, ih, List.map_cons]

theorem draftFields_eq (fields : List (String × Json)) :
    draftFields fields = fields.map fun f => (some f.1, f.2.toDraft) := by
  induction fields with
  | nil => rfl
  | cons f rest ih => rw [draftFields, ih, List.map_cons]

/-- In no object of the value a name comes twice. -/
inductive HasDistinctNames : Json → Prop
  | null : HasDistinctNames .null
  | bool (b : Bool) : HasDistinctNames (.bool b)
  | int (i : Int) : HasDistinctNames (.int i)
  | double (x : Number.Double) : HasDistinctNames (.double x)
  | str (s : String) : HasDistinctNames (.str s)
  | arr {items : List Json} (h : ∀ v ∈ items, HasDistinctNames v) : HasDistinctNames (.arr items)
  | obj {fields : List (String × Json)} (hNames : (fields.map Prod.fst).Nodup)
      (h : ∀ f ∈ fields, HasDistinctNames f.2) : HasDistinctNames (.obj fields)

theorem setField_of_new (name : String) (value : Json) {fields : List (String × Json)}
    (h : name ∉ fields.map Prod.fst) : setField name value fields = fields ++ [(name, value)] := by
  induction fields with
  | nil => rfl
  | cons f rest ih =>
    rw [List.map_cons, List.mem_cons, not_or] at h
    unfold setField
    rw [if_neg (Ne.symm h.1), ih h.2, List.cons_append]

/-- Fields with different names make up the object as they are. -/
theorem ofFields_of_nodup {fields : List (String × Json)} (h : (fields.map Prod.fst).Nodup) :
    ofFields fields = fields := by
  have hFold : ∀ done : List (String × Json), ((done ++ fields).map Prod.fst).Nodup →
      fields.foldl (fun done field => setField field.1 field.2 done) done = done ++ fields := by
    clear h
    induction fields with
    | nil =>
      intro done _
      simp
    | cons f rest ih =>
      intro done h
      have hNew : f.1 ∉ done.map Prod.fst := by
        intro hMem
        rw [List.map_append, List.map_cons] at h
        exact (List.nodup_append.mp h).2.2 _ hMem _ (List.mem_cons_self ..) rfl
      rw [List.foldl_cons, setField_of_new _ _ hNew, ih _ (by simpa using h), List.append_assoc,
        List.singleton_append]
  exact hFold [] h

theorem valueItems?_draft {items : List Json} (h : ∀ v ∈ items, v.toDraft.value? none = some v) :
    Draft.valueItems? none (draftItems items) = some items := by
  induction items with
  | nil => rfl
  | cons v rest ih =>
    obtain ⟨hFirst, hRest⟩ := List.forall_mem_cons.mp h
    rw [draftItems, Draft.valueItems?, hFirst, ih hRest]
    rfl

theorem valueFields?_draft {fields : List (String × Json)}
    (h : ∀ f ∈ fields, f.2.toDraft.value? none = some f.2) :
    Draft.valueFields? none (draftFields fields) = some fields := by
  induction fields with
  | nil => rfl
  | cons f rest ih =>
    obtain ⟨hFirst, hRest⟩ := List.forall_mem_cons.mp h
    rw [draftFields, Draft.valueFields?, hFirst, ih hRest]
    rfl

/-- The draft of a value has that value. -/
theorem value?_toDraft {v : Json} (h : v.HasDistinctNames) : v.toDraft.value? none = some v := by
  induction h with
  | null | bool | int | double | str => rfl
  | arr _ ih =>
    rw [toDraft, Draft.value?]
    show (Draft.valueItems? none _).bind _ = _
    rw [valueItems?_draft ih]
    rfl
  | obj hNames _ ih =>
    rw [toDraft, Draft.value?]
    show (Draft.valueFields? none _).bind _ = _
    rw [valueFields?_draft ih, Option.bind_some, ofFields_of_nodup hNames]
    rfl

mutual

/-- Whatever names a value has, its draft has a value. -/
theorem isSome_value?_toDraft : ∀ v : Json, (v.toDraft.value? none).isSome = true
  | .null | .bool _ | .int _ | .double _ | .str _ => rfl
  | .arr items => by
    have hItems := isSome_valueItems? items
    rw [toDraft, Draft.value?]
    cases hValues : Draft.valueItems? none (draftItems items) with
    | none => simp [hValues] at hItems
    | some values => simp [Levels.inside, hValues]
  | .obj fields => by
    have hFields := isSome_valueFields? fields
    rw [toDraft, Draft.value?]
    cases hValues : Draft.valueFields? none (draftFields fields) with
    | none => simp [hValues] at hFields
    | some values => simp [Levels.inside, hValues]

theorem isSome_valueItems? : ∀ items : List Json,
    (Draft.valueItems? none (draftItems items)).isSome = true
  | [] => rfl
  | v :: rest => by
    obtain ⟨w, hFirst⟩ := Option.isSome_iff_exists.mp (isSome_value?_toDraft v)
    obtain ⟨ws, hRest⟩ := Option.isSome_iff_exists.mp (isSome_valueItems? rest)
    rw [draftItems, Draft.valueItems?, hFirst, hRest]
    rfl

theorem isSome_valueFields? : ∀ fields : List (String × Json),
    (Draft.valueFields? none (draftFields fields)).isSome = true
  | [] => rfl
  | (name, v) :: rest => by
    obtain ⟨w, hFirst⟩ := Option.isSome_iff_exists.mp (isSome_value?_toDraft v)
    obtain ⟨ws, hRest⟩ := Option.isSome_iff_exists.mp (isSome_valueFields? rest)
    rw [draftFields, Draft.valueFields?, hFirst, hRest]
    rfl

end

/-! ## 2. What is given for a field -/

/-- All values of one name. -/
def valuesOf (name : String) (fields : List (String × Json)) : List Json :=
  (fields.filter (·.1 == name)).map Prod.snd

/-- A list of one value at most. -/
def atMostOne? {α : Type} : List α → Option (Option α)
  | [] => some none
  | [a] => some (some a)
  | _ => none

/-- What a value gives for a field, if it is written as a record with fields of these names at all. -/
def given? (names : List String) (name : String) : Json → Option (Option Json)
  | .obj fields => atMostOne? (valuesOf name fields)
  | .arr items => if items.length ≤ names.length then some items[names.idxOf name]? else none
  | _ => none

@[simp] theorem valuesOf_cons_self (name : String) (v : Json) (fields : List (String × Json)) :
    valuesOf name ((name, v) :: fields) = v :: valuesOf name fields := by
  simp [valuesOf]

theorem valuesOf_cons_other {name other : String} (h : other ≠ name) (v : Json)
    (fields : List (String × Json)) :
    valuesOf name ((other, v) :: fields) = valuesOf name fields := by
  simp [valuesOf, h]

theorem valuesOf_append (name : String) (fields others : List (String × Json)) :
    valuesOf name (fields ++ others) = valuesOf name fields ++ valuesOf name others := by
  simp [valuesOf]

theorem mem_valuesOf {name : String} {v : Json} {fields : List (String × Json)} :
    v ∈ valuesOf name fields ↔ (name, v) ∈ fields := by
  simp [valuesOf]

theorem valuesOf_of_new {name : String} {fields : List (String × Json)}
    (h : name ∉ fields.map Prod.fst) : valuesOf name fields = [] := by
  refine List.eq_nil_iff_forall_not_mem.mpr fun v hMem => h ?_
  exact List.mem_map_of_mem (f := Prod.fst) (mem_valuesOf.mp hMem)

/-- The order of the values does not matter where there is one at most. -/
theorem atMostOne?_perm {α : Type} {l l' : List α} (h : l.Perm l') : atMostOne? l = atMostOne? l' := by
  match l, l', h with
  | [], l', h => rw [List.nil_perm.mp h]
  | [a], l', h => rw [List.singleton_perm.mp h]
  | _ :: _ :: _, [], h => cases List.perm_nil.mp h
  | _ :: _ :: _, [a], h => cases List.perm_singleton.mp h
  | _ :: _ :: _, _ :: _ :: _, _ => rfl

theorem namedOnce?_draftFields (name : String) (fields : List (String × Json)) :
    namedOnce? name (draftFields fields) =
      (atMostOne? (valuesOf name fields)).map (Option.map toDraft) := by
  have hNamed : named name (draftFields fields) = (valuesOf name fields).map toDraft := by
    unfold named valuesOf
    rw [draftFields_eq, List.filter_map, List.map_map, List.map_map]
    rfl
  unfold namedOnce?
  rw [hNamed]
  rcases valuesOf name fields with _ | ⟨x, _ | ⟨y, rest⟩⟩
  · rfl
  · rfl
  · rfl

/-- The items of an array are found by the places of the names. -/
theorem padded_eq_map_getElem? {α : Type} {names : List String} (hNames : names.Nodup)
    {items : List α} (h : items.length ≤ names.length) :
    items.map some ++ List.replicate (names.length - items.length) none =
      names.map fun name => items[names.idxOf name]? := by
  refine List.ext_getElem (by simp; omega) fun i hLeft hRight => ?_
  have hBound : i < names.length := by simpa using hRight
  rw [List.getElem_map, hNames.idxOf_getElem i hBound, List.getElem_append]
  by_cases hInside : i < items.length
  · simp [hInside]
  · simp [hInside]

/-- The fields of a record are what is given for each. -/
theorem record?_toDraft {names : List String} (hNames : names.Nodup) (hSome : names ≠ [])
    (v : Json) :
    record? none names v.toDraft =
      (names.mapM fun name => (given? names name v).map (Option.map toDraft)).map (none, ·) := by
  have hRefused : (∀ name, given? names name v = none) →
      (names.mapM fun name => (given? names name v).map (Option.map toDraft)) = none := by
    intro hNone
    obtain ⟨first, rest, rfl⟩ := List.exists_cons_of_ne_nil hSome
    rw [List.mapM_cons, hNone]
    rfl
  cases v with
  | null | bool | int | double | str =>
    rw [hRefused fun _ => rfl]
    rfl
  | arr items =>
    rw [toDraft, record?, draftItems_eq, List.length_map]
    show (if _ then _ else _) = _
    by_cases h : items.length ≤ names.length
    · have hGiven : ∀ name, (given? names name (.arr items)).map (Option.map toDraft) =
          some (items.map toDraft)[names.idxOf name]? := by
        intro name
        simp [given?, h]
      have hLength : (items.map toDraft).length ≤ names.length := by simpa using h
      have hFields := padded_eq_map_getElem? hNames hLength
      rw [List.length_map] at hFields
      rw [if_pos h, hFields, funext hGiven]
      exact congrArg (Option.map _) List.mapM_pure.symm
    · rw [if_neg h, hRefused fun name => by simp [given?, h]]
      rfl
  | obj fields =>
    have hNamed : (draftFields fields).all (fun field => field.1.isSome) = true := by
      simp [draftFields_eq]
    rw [toDraft, record?]
    show (if _ then _ else _) = _
    rw [if_pos hNamed, funext fun name => namedOnce?_draftFields name fields]
    exact bind_pure_comp _ _

/-- A field of a record, as `read` makes it from what is given for it. -/
def readField {α : Type} (names : List String) (name : String) (read : Option Draft → Option α)
    (v : Json) : Option α :=
  (given? names name v).bind fun given => read (given.map toDraft)

theorem readField_obj {α : Type} (names : List String) (name : String)
    (read : Option Draft → Option α) (fields : List (String × Json)) :
    readField names name read (.obj fields) =
      (atMostOne? (valuesOf name fields)).bind fun given => read (given.map toDraft) := rfl

theorem readField_arr {α : Type} (names : List String) (name : String)
    (read : Option Draft → Option α) (items : List Json) :
    readField names name read (.arr items) =
      if items.length ≤ names.length then read (items[names.idxOf name]?.map toDraft) else none := by
  by_cases hShort : items.length ≤ names.length <;> simp [readField, given?, hShort]

/-! ## 3. Slots -/

/-- What is to be known of one field of a record. -/
structure Slot where
  name : String
  /-- What stands for the field when it is left out. There is nothing for a field that has to be there. -/
  default : Option Json
  /-- The values that the field takes. -/
  Holds : Json → Prop
  /-- A change within the value that makes no difference. -/
  IsEdit : Json → Json → Prop

namespace Slot

/-- A field whose value is told by its kind alone. -/
def plain (name : String) (default : Option Json) (Holds : Json → Prop) : Slot :=
  ⟨name, default, Holds, fun _ _ => False⟩

/-- The slot takes what a record gives for it: nothing if there is a default, or one value that it
holds. -/
def Takes (s : Slot) : List Json → Prop
  | [] => s.default.isSome
  | [v] => s.Holds v
  | _ => False

/-- A reader of a field takes what the slot takes, and sees neither an edit nor that a default is left
out. -/
structure Reads {α : Type} (s : Slot) (read : Option Draft → Option α) : Prop where
  isSome_some (v : Json) : (read (some v.toDraft)).isSome ↔ s.Holds v
  isSome_none : (read none).isSome ↔ s.default.isSome
  read_default {v : Json} : s.default = some v → read (some v.toDraft) = read none
  read_edit {v v' : Json} : s.IsEdit v v' → read (some v.toDraft) = read (some v'.toDraft)

/-- A field that may be left out is read as its slot has it if its value is. -/
theorem Reads.orElse {α : Type} {s : Slot} {value? : Draft → Option α} {default : Json} {a : α}
    (hDefault : s.default = some default) (hValue : value? default.toDraft = some a)
    (hHolds : ∀ v, (value? v.toDraft).isSome ↔ s.Holds v)
    (hEdit : ∀ v v', s.IsEdit v v' → value? v.toDraft = value? v'.toDraft) :
    s.Reads (orElse a value?) where
  isSome_some := hHolds
  isSome_none := by simp [Draft.orElse, hDefault]
  read_default {v} h := by
    rw [hDefault, Option.some.injEq] at h
    rw [← h]
    exact hValue
  read_edit {v v'} := hEdit v v'

/-- A field that has to be there is read as its slot has it if its value is. -/
theorem Reads.required {α : Type} {s : Slot} {value? : Draft → Option α} (hDefault : s.default = none)
    (hHolds : ∀ v, (value? v.toDraft).isSome ↔ s.Holds v)
    (hEdit : ∀ v v', s.IsEdit v v' → value? v.toDraft = value? v'.toDraft) :
    s.Reads (Draft.required value?) where
  isSome_some := hHolds
  isSome_none := by simp [Draft.required, hDefault]
  read_default {v} h := by simp [hDefault] at h
  read_edit {v v'} := hEdit v v'

end Slot

variable {slots : List Slot}

/-! ## 4. Values that are records -/

/-- A record with these slots is written as an object that has what each slot takes under its name, or as
an array that has it in its place and no more. -/
def IsRecord (slots : List Slot) : Json → Prop
  | .obj fields => ∀ s ∈ slots, s.Takes (valuesOf s.name fields)
  | .arr items =>
    items.length ≤ slots.length ∧
      ∀ (i : Nat) (s : Slot), slots[i]? = some s → s.Takes items[i]?.toList
  | _ => False

/-- A list of values of a kind. -/
def IsListOf (Holds : Json → Prop) : Json → Prop
  | .arr items => ∀ v ∈ items, Holds v
  | _ => False

/-- `null`, or a value of a kind. -/
def IsNullOr (Holds : Json → Prop) (v : Json) : Prop := v = .null ∨ Holds v

def IsText (v : Json) : Prop := ∃ s, v = .str s

def IsFlag (v : Json) : Prop := ∃ b, v = .bool b

/-- A natural number of at most 64 bits. -/
def IsCount (v : Json) : Prop := ∃ n < Nat.pow 2 64, v = .nat n

theorem isSome_string? (v : Json) : (Draft.string? v.toDraft).isSome ↔ IsText v := by
  cases v <;> simp [toDraft, Draft.string?, IsText]

theorem isSome_bool? (v : Json) : (bool? v.toDraft).isSome ↔ IsFlag v := by
  cases v <;> simp [toDraft, bool?, IsFlag]

theorem isSome_nat? (v : Json) : (nat? v.toDraft).isSome ↔ IsCount v := by
  cases v with
  | int i =>
    show (asNat? (.int i)).isSome ↔ ∃ n < Nat.pow 2 64, Json.int i = .int (n : Nat)
    simp only [asNat?, Json.int.injEq]
    split
    · next h =>
      refine iff_of_true rfl ⟨i.toNat, ?_, ?_⟩
      · exact (Int.toNat_lt h.1).mpr h.2
      · exact (Int.toNat_of_nonneg h.1).symm
    · next h =>
      refine iff_of_false (by simp) ?_
      rintro ⟨n, hHigh, rfl⟩
      exact h ⟨Int.natCast_nonneg n, Int.ofNat_lt.mpr hHigh⟩
  | _ => simp [toDraft, nat?, asNat?, IsCount, Json.nat]

theorem nullable?_toDraft {α : Type} (value? : Draft → Option α) {v : Json} (h : v ≠ .null) :
    nullable? value? v.toDraft = (value? v.toDraft).map some := by
  cases v with
  | null => exact absurd rfl h
  | _ => rfl

theorem isSome_nullable? {α : Type} {value? : Draft → Option α} {Holds : Json → Prop}
    (h : ∀ v, (value? v.toDraft).isSome ↔ Holds v) (v : Json) :
    (nullable? value? v.toDraft).isSome ↔ IsNullOr Holds v := by
  by_cases hNull : v = .null
  · subst hNull
    exact iff_of_true rfl (Or.inl rfl)
  · rw [nullable?_toDraft value? hNull, Option.isSome_map, h v]
    exact ⟨Or.inr, fun hHolds => hHolds.resolve_left hNull⟩

theorem list?_toDraft {α : Type} (item? : Levels → Draft → Option α) (items : List Json) :
    list? item? none (toDraft (.arr items)) = items.mapM fun v => item? none v.toDraft := by
  rw [toDraft, list?, draftItems_eq]
  exact List.mapM_map

/-- A list is read back if its items are. -/
theorem list?_of_forall {α : Type} {item? : Levels → Draft → Option α} {write : α → Json}
    {as : List α} (h : ∀ a ∈ as, item? none (write a).toDraft = some a) :
    list? item? none (toDraft (.arr (as.map write))) = some as := by
  rw [list?_toDraft, List.mapM_map]
  induction as with
  | nil => rfl
  | cons a rest ih =>
    obtain ⟨hFirst, hRest⟩ := List.forall_mem_cons.mp h
    rw [List.mapM_cons, Function.comp_apply, hFirst, ih hRest]
    rfl

theorem isSome_list? {α : Type} {item? : Levels → Draft → Option α} {Holds : Json → Prop}
    (h : ∀ v, (item? none v.toDraft).isSome ↔ Holds v) (v : Json) :
    (list? item? none v.toDraft).isSome ↔ IsListOf Holds v := by
  cases v with
  | arr items =>
    rw [list?_toDraft]
    show _ ↔ ∀ v ∈ items, Holds v
    induction items with
    | nil => simp
    | cons v rest ih =>
      rw [List.forall_mem_cons, ← ih, ← h v, List.mapM_cons]
      cases item? none v.toDraft with
      | none => simp
      | some a => cases rest.mapM fun v => item? none v.toDraft <;> simp
  | _ => simp [toDraft, list?, IsListOf]

/-- Different slots have different names. -/
theorem eq_of_name_eq {names : List String} (hSlots : slots.map Slot.name = names)
    (hNames : names.Nodup) {s s' : Slot} (hMem : s ∈ slots) (hMem' : s' ∈ slots)
    (h : s.name = s'.name) : s = s' :=
  List.inj_on_of_nodup_map (hSlots ▸ hNames) hMem hMem' h

/-- The name of a slot has the place of the slot. -/
theorem idxOf_name {names : List String} (hSlots : slots.map Slot.name = names)
    (hNames : names.Nodup) {i : Nat} {s : Slot} (h : slots[i]? = some s) :
    names.idxOf s.name = i := by
  have hName : names[i]? = some s.name := by rw [← hSlots, List.getElem?_map, h, Option.map_some]
  obtain ⟨hBound, hName⟩ := List.getElem?_eq_some_iff.mp hName
  rw [← hName]
  exact hNames.idxOf_getElem i hBound

/-- What is given for a field is what its slot takes. -/
def IsGiven (names : List String) (v : Json) (s : Slot) : Prop :=
  ∃ given, given? names s.name v = some given ∧ s.Takes given.toList

/-- A value is a record if what is given for each field is what its slot takes. -/
theorem isRecord_iff (names : List String) (hSlots : slots.map Slot.name = names)
    (hNames : names.Nodup) (hSome : slots ≠ []) (v : Json) :
    IsRecord slots v ↔ ∀ s ∈ slots, IsGiven names v s := by
  have hRefused : (∀ name, given? names name v = none) → ¬ ∀ s ∈ slots, IsGiven names v s := by
    intro hNone hAll
    obtain ⟨first, rest, rfl⟩ := List.exists_cons_of_ne_nil hSome
    obtain ⟨given, hGiven, -⟩ := hAll first (List.mem_cons_self ..)
    rw [hNone] at hGiven
    cases hGiven
  cases v with
  | null | bool | int | double | str => simpa [IsRecord] using hRefused fun _ => rfl
  | obj fields =>
    refine forall₂_congr fun s _ => ?_
    show _ ↔ ∃ given, atMostOne? (valuesOf s.name fields) = some given ∧ s.Takes given.toList
    rcases valuesOf s.name fields with _ | ⟨x, _ | ⟨y, rest⟩⟩
    · simp [atMostOne?]
    · simp [atMostOne?]
    · simp [atMostOne?, Slot.Takes]
  | arr items =>
    have hLength : names.length = slots.length := by rw [← hSlots, List.length_map]
    by_cases hShort : items.length ≤ slots.length
    · have hGiven : ∀ s : Slot,
          IsGiven names (.arr items) s ↔ s.Takes items[names.idxOf s.name]?.toList := by
        intro s
        simp [IsGiven, given?, hLength, hShort]
      simp only [IsRecord, hShort, true_and, hGiven]
      constructor
      · intro h s hMem
        obtain ⟨i, hSlot⟩ := List.getElem?_of_mem hMem
        rw [idxOf_name hSlots hNames hSlot]
        exact h i s hSlot
      · intro h i s hSlot
        have hTakes := h s (List.mem_of_getElem? hSlot)
        rwa [idxOf_name hSlots hNames hSlot] at hTakes
    · refine iff_of_false (fun h => hShort h.1) (hRefused fun name => ?_)
      simp [given?, hLength, hShort]

/-- A field with a value that it does not take spoils the record. -/
theorem not_isRecord_obj {s : Slot} (hMem : s ∈ slots) {v : Json} {fields : List (String × Json)}
    (hField : (s.name, v) ∈ fields) (h : ¬ s.Holds v) : ¬ IsRecord slots (.obj fields) := by
  intro hRecord
  have hTakes := hRecord s hMem
  have hValue := mem_valuesOf.mpr hField
  match hValues : valuesOf s.name fields with
  | [] => simp [hValues] at hValue
  | [x] =>
    rw [hValues] at hTakes hValue
    rw [List.mem_singleton.mp hValue] at h
    exact h hTakes
  | _ :: _ :: _ =>
    rw [hValues] at hTakes
    exact hTakes

theorem not_isRecord_arr {i : Nat} {s : Slot} (hSlot : slots[i]? = some s) {v : Json}
    {items : List Json} (hItem : items[i]? = some v) (h : ¬ s.Holds v) :
    ¬ IsRecord slots (.arr items) := by
  intro hRecord
  have hTakes := hRecord.2 i s hSlot
  rw [hItem] at hTakes
  exact h hTakes

theorem isSome_readField {α : Type} {s : Slot} {read : Option Draft → Option α} (h : s.Reads read)
    (names : List String) (v : Json) :
    (readField names s.name read v).isSome ↔ IsGiven names v s := by
  unfold readField IsGiven
  cases given? names s.name v with
  | none => simp
  | some given =>
    cases given with
    | none => simpa [Slot.Takes] using h.isSome_none
    | some x => simpa [Slot.Takes] using h.isSome_some x

/-! ## 5. Edits -/

/-- A change of a record that makes no difference. In an object the fields may be put in another order, a
field that no slot has may be added, and one that holds its default may be left out. Within the value of
a field, in an object or an array, what makes no difference there may be changed. -/
inductive IsEdit (slots : List Slot) : Json → Json → Prop
  | reorder {fields fields' : List (String × Json)} (h : fields.Perm fields') :
    IsEdit slots (.obj fields) (.obj fields')
  | add {name : String} (v : Json) (fields : List (String × Json))
      (h : name ∉ slots.map Slot.name) : IsEdit slots (.obj fields) (.obj ((name, v) :: fields))
  | leaveOut {s : Slot} {v : Json} {fields : List (String × Json)} (hMem : s ∈ slots)
      (hDefault : s.default = some v) (hNew : s.name ∉ fields.map Prod.fst) :
    IsEdit slots (.obj ((s.name, v) :: fields)) (.obj fields)
  | within {s : Slot} {v v' : Json} (before after : List (String × Json)) (hMem : s ∈ slots)
      (h : s.IsEdit v v') :
    IsEdit slots (.obj (before ++ (s.name, v) :: after)) (.obj (before ++ (s.name, v') :: after))
  | place {i : Nat} {s : Slot} {v v' : Json} {items : List Json} (hSlot : slots[i]? = some s)
      (hItem : items[i]? = some v) (h : s.IsEdit v v') :
    IsEdit slots (.arr items) (.arr (items.set i v'))

/-- The same in one item of a list. -/
inductive IsItemEdit (IsEdit : Json → Json → Prop) : Json → Json → Prop
  | item {v v' : Json} (before after : List Json) (h : IsEdit v v') :
    IsItemEdit IsEdit (.arr (before ++ v :: after)) (.arr (before ++ v' :: after))

theorem list?_edit {α : Type} {item? : Levels → Draft → Option α} {IsEdit : Json → Json → Prop}
    (h : ∀ v v', IsEdit v v' → item? none v.toDraft = item? none v'.toDraft) {v v' : Json}
    (hEdit : IsItemEdit IsEdit v v') :
    list? item? none v.toDraft = list? item? none v'.toDraft := by
  obtain ⟨before, after, hItem⟩ := hEdit
  simp only [list?_toDraft, List.mapM_append, List.mapM_cons, h _ _ hItem]

/-- Only records are edited. -/
theorem IsEdit.ne_null {v v' : Json} (h : IsEdit slots v v') : v ≠ .null ∧ v' ≠ .null := by
  cases h <;> simp

theorem nullable?_edit {α : Type} {value? : Draft → Option α}
    (h : ∀ v v', IsEdit slots v v' → value? v.toDraft = value? v'.toDraft) {v v' : Json}
    (hEdit : IsEdit slots v v') : nullable? value? v.toDraft = nullable? value? v'.toDraft := by
  obtain ⟨hBefore, hAfter⟩ := hEdit.ne_null
  rw [nullable?_toDraft value? hBefore, nullable?_toDraft value? hAfter, h _ _ hEdit]

/-- A field is read the same before and after an edit. -/
theorem readField_edit {α : Type} {names : List String} (hSlots : slots.map Slot.name = names)
    (hNames : names.Nodup) {s : Slot} (hMem : s ∈ slots) {read : Option Draft → Option α}
    (h : s.Reads read) {v v' : Json} (hEdit : IsEdit slots v v') :
    readField names s.name read v = readField names s.name read v' := by
  cases hEdit with
  | reorder hPerm =>
    have hValues := (hPerm.filter (·.1 == s.name)).map Prod.snd
    rw [readField_obj, readField_obj, valuesOf, valuesOf, atMostOne?_perm hValues]
  | @add name x fields hUnknown =>
    have hOther : name ≠ s.name := by
      rintro rfl
      exact hUnknown (List.mem_map_of_mem hMem)
    rw [readField_obj, readField_obj, valuesOf_cons_other hOther]
  | @leaveOut s' x fields hMem' hDefault hNew =>
    rw [readField_obj, readField_obj]
    by_cases hSame : s'.name = s.name
    · obtain rfl := eq_of_name_eq hSlots hNames hMem' hMem hSame
      rw [valuesOf_cons_self, valuesOf_of_new hNew]
      exact h.read_default hDefault
    · rw [valuesOf_cons_other hSame]
  | @within s' x x' before after hMem' hWithin =>
    rw [readField_obj, readField_obj, valuesOf_append, valuesOf_append]
    by_cases hSame : s'.name = s.name
    · obtain rfl := eq_of_name_eq hSlots hNames hMem' hMem hSame
      rw [valuesOf_cons_self, valuesOf_cons_self]
      match valuesOf s'.name before, valuesOf s'.name after with
      | [], [] => exact h.read_edit hWithin
      | [], _ :: _ => rfl
      | [_], _ => rfl
      | _ :: _ :: _, _ => rfl
    · rw [valuesOf_cons_other hSame, valuesOf_cons_other hSame]
  | @place i s' x x' items hSlot hItem hWithin =>
    obtain ⟨j, hPlace⟩ := List.getElem?_of_mem hMem
    rw [readField_arr, readField_arr, List.length_set, idxOf_name hSlots hNames hPlace]
    by_cases hSame : i = j
    · subst hSame
      obtain rfl : s' = s := Option.some.inj (hSlot.symm.trans hPlace)
      have hBound : i < items.length := (List.getElem?_eq_some_iff.mp hItem).1
      rw [hItem, List.getElem?_set_self hBound, Option.map_some, Option.map_some,
        h.read_edit hWithin]
    · rw [List.getElem?_set_ne hSame]

end PageQuery.Json
