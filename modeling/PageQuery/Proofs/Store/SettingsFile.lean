import PageQuery.Proofs.Json.Lexing
import PageQuery.Proofs.Store.Quota
import PageQuery.Proofs.Disk.Files
/-!
Settings in a file are a map.

A map whose keys are in order is read from its text as it was written, `ofText?_toText`. Whatever text
is read has its keys in order, and a value put under a key keeps them so.

Each use of the file reads it anew, and a value is stored by writing the whole file anew. `answers` is
what a run of uses is answered, and `mapAnswers` what a map in memory would answer. They are the same
wherever the file decodes or can be made; a file that does not decode answers nothing and stays as it is.
`refines_map` is the statement.
-/

namespace PageQuery.SettingsMap

open Json

/-! ## 1. Reading the text -/

/-- An entry as it is printed. -/
def printed (e : String × String) : String × Json := (e.1, .str e.2)

/-- An entry as it is read. -/
def drafted (e : String × String) : Option String × Draft := (some e.1, .leaf (some (.str e.2)))

/-- What is read of entries. -/
def lexemesOf : SettingsMap → List Lexeme
  | [] => []
  | [e] => [.text (some e.1), .colon, .text (some e.2)]
  | e :: next :: rest =>
    .text (some e.1) :: .colon :: .text (some e.2) :: .comma :: lexemesOf (next :: rest)

theorem lexes_entry (depth : Nat) (e : String × String) {rest : List Char} {ls : List Lexeme}
    (h : Lexes rest ls) :
    Lexes (newline depth ++ (quote e.1 ++ ':' :: ' ' :: (quote e.2 ++ rest)))
      (.text (some e.1) :: .colon :: .text (some e.2) :: ls) := by
  have hValue : Lexes (' ' :: (quote e.2 ++ rest)) (.text (some e.2) :: ls) :=
    .gap (by decide) (.quote e.2 h)
  have hColon : Lexes (':' :: ' ' :: (quote e.2 ++ rest)) (.colon :: .text (some e.2) :: ls) :=
    .cons (by decide) rfl (Nat.le_refl _) hValue
  exact .newline depth (.quote e.1 hColon)

theorem lexes_entries (depth : Nat) : ∀ (m : SettingsMap) {rest : List Char} {ls : List Lexeme},
    Lexes rest ls →
    Lexes (indentedFields depth (m.map printed) ++ rest) (lexemesOf m ++ ls)
  | [], _, _, h => h
  | [e], _, _, h => by
      simpa [indentedFields, indented, printed, lexemesOf] using lexes_entry depth e h
  | e :: next :: more, _, _, h => by
      have hMore := lexes_entries depth (next :: more) h
      have hComma := lexes_entry depth e (.cons (c := ',') (by decide) rfl (Nat.le_refl _) hMore)
      simpa [indentedFields, indented, printed, lexemesOf] using hComma

/-- The text of a map is an object of its entries. -/
theorem lexes_toText (m : SettingsMap) :
    Lexes m.toText.toList (.openObject :: (lexemesOf m ++ [.closeObject])) := by
  have hClose : Lexes ['}'] [.closeObject] := .cons (by decide) rfl (Nat.le_refl _) .nil
  cases m with
  | nil => exact .cons (by decide) rfl (Nat.le_refl _) hClose
  | cons e rest =>
    have hFields := lexes_entries 1 (e :: rest) (Lexes.newline 0 hClose)
    have hOpen := Lexes.cons (c := '{') (by decide) rfl (Nat.le_refl _) hFields
    have hText : (toText (e :: rest)).toList =
        '{' :: (indentedFields 1 ((e :: rest).map printed) ++ newline 0 ++ ['}']) := by
      rw [toText, renderPretty, String.toList_ofList]
      rfl
    rw [hText, List.append_assoc]
    exact hOpen

/-- The reader takes an entry of the object that is open. -/
theorem step_entry (e : String × String) {expecting : Expecting}
    (h : expecting = .name ∨ expecting = .nameOrEnd) (done : List (Option String × Draft)) :
    [.text (some e.1), .colon, .text (some e.2)].foldlM Reader.step ⟨expecting, [.fields done], none⟩
      = some ⟨.more, [.fields (drafted e :: done)], none⟩ := by
  rcases h with rfl | rfl
  · rfl
  · rfl

theorem read_entries : ∀ (m : SettingsMap) {expecting : Expecting}
    (_ : expecting = .name ∨ expecting = .nameOrEnd) (done : List (Option String × Draft)),
    m ≠ [] →
    (lexemesOf m).foldlM Reader.step ⟨expecting, [.fields done], none⟩ =
      some ⟨.more, [.fields ((m.map drafted).reverse ++ done)], none⟩
  | [], _, _, _, h => absurd rfl h
  | [e], _, hName, done, _ => step_entry e hName done
  | e :: next :: more, expecting, hName, done, _ => by
      have hFirst : (lexemesOf (e :: next :: more)) =
          [.text (some e.1), .colon, .text (some e.2)] ++ .comma :: lexemesOf (next :: more) := rfl
      rw [hFirst, List.foldlM_append, step_entry e hName done]
      show (lexemesOf (next :: more)).foldlM Reader.step ⟨.name, [.fields (drafted e :: done)], none⟩ = _
      rw [read_entries (next :: more) (Or.inl rfl) _ (List.cons_ne_nil _ _)]
      simp

/-- What is read from the text of a map. -/
theorem ofText?_draft (m : SettingsMap) :
    Draft.ofText? m.toText.toList = some (.obj (m.map drafted)) := by
  rw [Draft.ofText?, (lexes_toText m).lexemes_eq]
  show ((lexemesOf m ++ [Lexeme.closeObject]).foldlM Reader.step ⟨.nameOrEnd, [.fields []], none⟩).bind _ = _
  cases m with
  | nil => rfl
  | cons e rest =>
    rw [List.foldlM_append, read_entries (e :: rest) (Or.inr rfl) [] (List.cons_ne_nil _ _)]
    show some (Draft.obj ((((e :: rest).map drafted).reverse ++ []).reverse)) = _
    simp

/-! ## 2. Keys in order -/

/-- The keys are in order, and none comes twice. -/
def InOrder (m : SettingsMap) : Prop := m.Pairwise fun a b => a.1 < b.1

theorem mem_insert {key value : String} : ∀ {m : SettingsMap} {e : String × String},
    e ∈ m.insert key value → e = (key, value) ∨ e ∈ m
  | [], _, h => Or.inl (List.mem_singleton.mp h)
  | (k, v) :: rest, e, h => by
      rw [insert] at h
      split at h
      · exact List.mem_cons.mp h
      split at h
      · exact (List.mem_cons.mp h).imp id (List.mem_cons_of_mem _)
      · rcases List.mem_cons.mp h with rfl | hLater
        · exact Or.inr List.mem_cons_self
        · exact (mem_insert hLater).imp id (List.mem_cons_of_mem _)

/-- A value put under a key keeps the keys in order. -/
theorem InOrder.insert (key value : String) : ∀ {m : SettingsMap},
    m.InOrder → (m.insert key value).InOrder
  | [], _ => List.pairwise_singleton _ _
  | (k, v) :: rest, h => by
      obtain ⟨hFirst, hRest⟩ := List.pairwise_cons.mp h
      rw [SettingsMap.insert]
      by_cases hLess : key < k
      · rw [if_pos hLess]
        refine List.pairwise_cons.mpr ⟨fun e hMem => ?_, h⟩
        rcases List.mem_cons.mp hMem with rfl | hLater
        · exact hLess
        · exact String.lt_trans hLess (hFirst e hLater)
      by_cases hSame : k = key
      · subst hSame
        rw [if_neg hLess, if_pos rfl]
        exact List.pairwise_cons.mpr ⟨hFirst, hRest⟩
      · rw [if_neg hLess, if_neg hSame]
        refine List.pairwise_cons.mpr ⟨fun e hMem => ?_, InOrder.insert key value hRest⟩
        rcases mem_insert hMem with rfl | hOld
        · exact Classical.byContradiction fun hNot =>
            hSame (String.le_antisymm (String.not_lt.mp hLess) (String.not_lt.mp hNot))
        · exact hFirst e hOld

theorem inOrder_foldl : ∀ (entries : List (String × String)) {m : SettingsMap}, m.InOrder →
    InOrder (entries.foldl (fun m e => m.insert e.1 e.2) m)
  | [], _, h => h
  | e :: rest, _, h => inOrder_foldl rest (h.insert e.1 e.2)

theorem inOrder_ofList (entries : List (String × String)) : (ofList entries).InOrder :=
  inOrder_foldl entries List.Pairwise.nil

/-- Whatever text is read has its keys in order. -/
theorem inOrder_of_ofText? {text : String} {m : SettingsMap} (h : ofText? text = some m) :
    m.InOrder := by
  rw [ofText?] at h
  split at h
  · obtain ⟨entries, -, rfl⟩ := Option.map_eq_some_iff.mp h
    exact inOrder_ofList entries
  · cases h

/-- An entry whose key comes after all others goes to the end. -/
theorem insert_last (e : String × String) : ∀ {m : SettingsMap},
    (∀ old ∈ m, old.1 < e.1) → m.insert e.1 e.2 = m ++ [e]
  | [], _ => rfl
  | (k, v) :: rest, h => by
      have hLess : k < e.1 := h (k, v) List.mem_cons_self
      rw [insert, if_neg (String.lt_asymm hLess), if_neg (String.ne_of_lt hLess),
        insert_last e fun old hMem => h old (List.mem_cons_of_mem _ hMem)]
      rfl

theorem foldl_insert_of_inOrder : ∀ (entries : List (String × String)) {m : SettingsMap},
    InOrder (m ++ entries) → entries.foldl (fun m e => m.insert e.1 e.2) m = m ++ entries
  | [], m, _ => (List.append_nil m).symm
  | e :: rest, m, h => by
      have hLast : ∀ old ∈ m, old.1 < e.1 := fun old hMem =>
        (List.pairwise_append.mp h).2.2 old hMem e List.mem_cons_self
      rw [List.append_cons] at h
      rw [List.foldl_cons, insert_last e hLast, foldl_insert_of_inOrder rest h, ← List.append_cons]

/-- A list of entries whose keys are in order is a map already. -/
theorem ofList_of_inOrder {m : SettingsMap} (h : m.InOrder) : ofList m = m :=
  foldl_insert_of_inOrder m h

/-! ## 3. The round trip -/

theorem mapM_drafted : ∀ m : SettingsMap, (m.map drafted).mapM entry? = some m
  | [] => rfl
  | e :: rest => by
      rw [List.map_cons, List.mapM_cons, mapM_drafted rest]
      rfl

/-- **Settings are read from their text as they were written.** -/
theorem ofText?_toText {m : SettingsMap} (h : m.InOrder) : ofText? m.toText = some m := by
  rw [ofText?, ofText?_draft]
  simp only [mapM_drafted, Option.map_some, ofList_of_inOrder h]

end PageQuery.SettingsMap

namespace PageQuery

/-! ## 4. The file -/

/-- The content of the file that a path leads to, if it leads to one. -/
def Disk.contentAt? (d : Disk) (path : String) : Option Content :=
  match d.find path with
  | .error _ => none
  | .ok place =>
    match d.entry? place with
    | some (.file content) => some content
    | _ => none

/-- The settings in a file's content, if it decodes. -/
def Content.settings? : Content → Option SettingsMap
  | .text s => SettingsMap.ofText? s
  | .raw _ => none

namespace SettingsFile

/-- The file holds a map. -/
def Holds (f : SettingsFile) (d : Disk) (m : SettingsMap) : Prop :=
  (d.contentAt? f.path).bind Content.settings? = some m

/-- The directory of the file is there or can be made, and then the file can be written. -/
def canBeMade (f : SettingsFile) (d : Disk) : Bool :=
  match f.makeHome d with
  | .ok d => (d.writeText f.path "").isOk
  | .error _ => false

theorem canBeMade_iff {f : SettingsFile} {d : Disk} : f.canBeMade d = true ↔
    ∃ d₁ d₂, f.makeHome d = .ok d₁ ∧ d₁.writeText f.path "" = .ok d₂ := by
  rw [canBeMade]
  cases hHome : f.makeHome d with
  | error e => simp
  | ok d₁ => cases hWrite : d₁.writeText f.path "" with
    | error e => simp [hWrite, Except.isOk, Except.toBool]
    | ok d₂ => simp [hWrite, Except.isOk, Except.toBool]

theorem contentAt?_eq_some {d : Disk} {path : String} {content : Content}
    (h : d.contentAt? path = some content) :
    ∃ place, d.find path = .ok place ∧ d.entry? place = some (.file content) := by
  rw [Disk.contentAt?] at h
  split at h
  · cases h
  · next place hFind =>
    refine ⟨place, hFind, ?_⟩
    split at h
    · next hFile =>
      cases h
      exact hFile
    · cases h

variable {f : SettingsFile} {d d' : Disk} {m : SettingsMap}

/-- Settings are loaded from what a file holds. -/
theorem load_of_content {content : Content} (h : d.contentAt? f.path = some content) :
    match content.settings? with
    | some m => f.load d = .ok m
    | none => ∃ e, f.load d = .error e := by
  obtain ⟨place, hFind, hFile⟩ := contentAt?_eq_some h
  rw [load, if_pos (Disk.exists_of_find hFind hFile)]
  cases content with
  | raw bytes =>
    have hRead : d.readText f.path = .error .notText := by
      simp [Disk.readText, hFind, hFile, bind, Except.bind]
    rw [hRead]
    exact ⟨_, rfl⟩
  | text s =>
    have hRead : d.readText f.path = .ok s := by
      simp [Disk.readText, hFind, hFile, bind, Except.bind]
    simp only [hRead, Content.settings?]
    cases SettingsMap.ofText? s with
    | some m => rfl
    | none => exact ⟨_, rfl⟩

theorem Holds.content (h : f.Holds d m) :
    ∃ text, d.contentAt? f.path = some (.text text) ∧ SettingsMap.ofText? text = some m := by
  obtain ⟨content, hContent, hSettings⟩ := Option.bind_eq_some_iff.mp h
  cases content with
  | text s => exact ⟨s, hContent, hSettings⟩
  | raw bytes => cases hSettings

theorem Holds.load_eq (h : f.Holds d m) : f.load d = .ok m := by
  obtain ⟨text, hContent, hSettings⟩ := h.content
  have hLoad := load_of_content hContent
  rw [Content.settings?, hSettings] at hLoad
  exact hLoad

theorem Holds.get_eq (h : f.Holds d m) (key : String) : f.get key d = .ok (m.get? key) := by
  rw [get, h.load_eq]
  rfl

theorem Holds.inOrder (h : f.Holds d m) : m.InOrder := by
  obtain ⟨text, -, hSettings⟩ := h.content
  exact SettingsMap.inOrder_of_ofText? hSettings

/-- The text of a map that is written is a file that holds the map. -/
theorem holds_of_writeText (hOrder : m.InOrder) (h : d.writeText f.path m.toText = .ok d') :
    f.Holds d' m := by
  obtain ⟨place, hFind, hFile⟩ := Disk.find_of_writeText h
  have hContent : d'.contentAt? f.path = some (.text m.toText) := by
    simp [Disk.contentAt?, hFind, hFile]
  rw [Holds, hContent]
  exact SettingsMap.ofText?_toText hOrder

/-- **A value is put under a key of what the file holds.** -/
theorem Holds.set_eq (h : f.Holds d m) (key value : String) :
    ∃ d', f.set key value d = (.ok (), d') ∧ f.Holds d' (m.insert key value) := by
  obtain ⟨text, hContent, -⟩ := h.content
  obtain ⟨place, hFind, hFile⟩ := contentAt?_eq_some hContent
  have hHome : f.makeHome d = .ok d := by
    rw [makeHome]
    split
    · rfl
    · next directory hParent => rw [Disk.makeDirectories_parent hFind hParent]
  have hWrite := Disk.writeText_of_file hFind hFile (m.insert key value).toText
  refine ⟨_, ?_, holds_of_writeText (h.inOrder.insert key value) hWrite⟩
  rw [set, h.load_eq]
  simp only [hHome, hWrite]

/-! ## 5. Files that are not there, and files that do not decode -/

theorem load_of_missing (h : d.exists? f.path = false) : f.load d = .ok [] := by
  rw [load, if_neg (by simp [h])]

/-- The first value is put into a file that is made for it. -/
theorem set_of_missing (h : d.exists? f.path = false) (hCan : f.canBeMade d = true)
    (key value : String) :
    ∃ d', f.set key value d = (.ok (), d') ∧ f.Holds d' [(key, value)] := by
  obtain ⟨d₁, _, hHome, hEmpty⟩ := canBeMade_iff.mp hCan
  obtain ⟨d₂, hWrite⟩ := Disk.writeText_of_ok hEmpty (SettingsMap.toText [(key, value)])
  refine ⟨d₂, ?_, holds_of_writeText (List.pairwise_singleton _ _) hWrite⟩
  rw [set, load_of_missing h]
  simp only [hHome, SettingsMap.insert, hWrite]

/-- The file holds something that does not decode. -/
def IsCorrupt (f : SettingsFile) (d : Disk) : Prop :=
  ∃ content, d.contentAt? f.path = some content ∧ content.settings? = none

theorem IsCorrupt.load_error (h : f.IsCorrupt d) : ∃ e, f.load d = .error e := by
  obtain ⟨content, hContent, hSettings⟩ := h
  have hLoad := load_of_content hContent
  rwa [hSettings] at hLoad

theorem IsCorrupt.get_error (h : f.IsCorrupt d) (key : String) : ∃ e, f.get key d = .error e := by
  obtain ⟨e, hLoad⟩ := h.load_error
  exact ⟨e, by rw [get, hLoad]; rfl⟩

/-- What does not decode is not overwritten. -/
theorem IsCorrupt.set_error (h : f.IsCorrupt d) (key value : String) :
    ∃ e, f.set key value d = (.error e, d) := by
  obtain ⟨e, hLoad⟩ := h.load_error
  exact ⟨e, by rw [set, hLoad]⟩

/-! ## 6. Runs -/

/-- A use of the settings. -/
inductive Use where
  | get (key : String)
  | set (key value : String)
  /-- From here on another store at the same path is used. -/
  | reopen
  deriving DecidableEq, Repr

inductive Answer where
  | got (value : Except Fault (Option String))
  | done (outcome : Except Fault Unit)

/-- What uses of a file are answered, and the disk that they leave. -/
def run : List Use → SettingsFile → Disk → List Answer × Disk
  | [], _, d => ([], d)
  | .get key :: rest, f, d =>
    let (answers, d') := run rest f d
    (.got (f.get key d) :: answers, d')
  | .set key value :: rest, f, d =>
    let (outcome, d₁) := f.set key value d
    let (answers, d') := run rest f d₁
    (.done outcome :: answers, d')
  | .reopen :: rest, f, d => run rest ⟨f.path, f.refusal⟩ d

/-- What these uses of a map in memory are answered. -/
def mapAnswers : List Use → (String → Option String) → List Answer
  | [], _ => []
  | .get key :: rest, held => .got (.ok (held key)) :: mapAnswers rest held
  | .set key value :: rest, held =>
    .done (.ok ()) :: mapAnswers rest fun k => if key = k then some value else held k
  | .reopen :: rest, held => mapAnswers rest held

/-- The answer tells of a failure. -/
def Answer.IsFailure : Answer → Prop
  | got value => ∃ e, value = .error e
  | done outcome => ∃ e, outcome = .error e

theorem get?_insert_eq (m : SettingsMap) (key value : String) :
    (m.insert key value).get? = fun k => if key = k then some value else m.get? k :=
  funext fun k => SettingsMap.get?_insert key value k m

/-- A file that holds a map answers as the map does. -/
theorem run_of_holds : ∀ (uses : List Use) {f : SettingsFile} {d : Disk} {m : SettingsMap},
    f.Holds d m → (run uses f d).1 = mapAnswers uses m.get?
  | [], _, _, _, _ => rfl
  | .get key :: rest, f, d, m, h => by
      rw [run, mapAnswers, h.get_eq key]
      exact congrArg _ (run_of_holds rest h)
  | .set key value :: rest, f, d, m, h => by
      obtain ⟨d', hSet, hHolds⟩ := h.set_eq key value
      rw [run, mapAnswers, hSet, ← get?_insert_eq]
      exact congrArg _ (run_of_holds rest hHolds)
  | .reopen :: rest, f, d, m, h => run_of_holds rest h

/-- A file that can be made answers as an empty map does. -/
theorem run_of_missing (uses : List Use) (h : d.exists? f.path = false)
    (hCan : f.canBeMade d = true) : (run uses f d).1 = mapAnswers uses fun _ => none := by
  -- Up to the first value that is stored, file and disk stay the same.
  induction uses with
  | nil => rfl
  | cons use rest ih =>
    cases use with
    | get key =>
      have hGet : f.get key d = .ok none := by
        rw [get, load_of_missing h]
        rfl
      rw [run, mapAnswers, hGet]
      exact congrArg _ ih
    | set key value =>
      obtain ⟨d', hSet, hHolds⟩ := set_of_missing h hCan key value
      have hHeld : SettingsMap.get? [(key, value)] = fun k => if key = k then some value else none :=
        funext fun k => SettingsMap.get?_cons key value [] k
      rw [run, mapAnswers, hSet, ← hHeld]
      exact congrArg _ (run_of_holds rest hHolds)
    | reopen => exact ih

/-- A file that does not decode answers nothing, and stays as it is. -/
theorem run_of_corrupt : ∀ (uses : List Use) {f : SettingsFile} {d : Disk}, f.IsCorrupt d →
    (∀ answer ∈ (run uses f d).1, answer.IsFailure) ∧ (run uses f d).2 = d
  | [], _, _, _ => ⟨by simp [run], rfl⟩
  | .get key :: rest, f, d, h => by
      obtain ⟨hRest, hDisk⟩ := run_of_corrupt rest h
      exact ⟨List.forall_mem_cons.mpr ⟨h.get_error key, hRest⟩, hDisk⟩
  | .set key value :: rest, f, d, h => by
      obtain ⟨e, hSet⟩ := h.set_error key value
      obtain ⟨hRest, hDisk⟩ := run_of_corrupt rest h
      rw [run, hSet]
      exact ⟨List.forall_mem_cons.mpr ⟨⟨e, rfl⟩, hRest⟩, hDisk⟩
  | .reopen :: rest, f, d, h => run_of_corrupt rest h

/-- Settings are loaded from a file that holds them, or there is no file. -/
theorem holds_or_missing_of_load (h : f.load d = .ok m) :
    f.Holds d m ∨ d.exists? f.path = false ∧ m = [] := by
  cases hThere : d.exists? f.path with
  | false =>
    rw [load_of_missing hThere] at h
    exact Or.inr ⟨rfl, (Except.ok.inj h).symm⟩
  | true =>
    left
    rw [load, if_pos hThere] at h
    split at h
    · cases h
    · next text hRead =>
      split at h
      · next m' hSettings =>
        cases h
        obtain ⟨place, hFind, hFile⟩ := Disk.file_of_readText hRead
        have hContent : d.contentAt? f.path = some (.text text) := by
          simp [Disk.contentAt?, hFind, hFile]
        rw [Holds, hContent]
        exact hSettings
      · cases h

/-- What it takes for a value to be stored. -/
theorem of_set_ok {key value : String} (h : (f.set key value d).1 = .ok ()) :
    (∃ m, f.Holds d m) ∨ d.exists? f.path = false ∧ f.canBeMade d = true := by
  rw [set] at h
  split at h
  · cases h
  · next m hLoad =>
    refine (holds_or_missing_of_load hLoad).imp (fun hHolds => ⟨m, hHolds⟩) fun hMissing => ?_
    split at h
    · cases h
    · next d₁ hHome =>
      split at h
      · next d₂ hWrite =>
        obtain ⟨d₃, hEmpty⟩ := Disk.writeText_of_ok hWrite ""
        exact ⟨hMissing.1, canBeMade_iff.mpr ⟨d₁, d₃, hHome, hEmpty⟩⟩
      · cases h

/-- A value that is stored under one key changes no other. -/
theorem get_other_of_set {key value other : String} (h : (f.set key value d).1 = .ok ())
    (hOther : other ≠ key) : f.get other (f.set key value d).2 = f.get other d := by
  rcases of_set_ok h with ⟨m, hHolds⟩ | ⟨hMissing, hCan⟩
  · obtain ⟨d', hSet, hAfter⟩ := hHolds.set_eq key value
    rw [hSet, hAfter.get_eq, hHolds.get_eq, SettingsMap.get?_insert, if_neg (Ne.symm hOther)]
  · obtain ⟨d', hSet, hAfter⟩ := set_of_missing hMissing hCan key value
    rw [hSet, hAfter.get_eq, get, load_of_missing hMissing, SettingsMap.get?_cons,
      if_neg (Ne.symm hOther)]
    rfl

/-- **Settings in a file are a map.** Let a run read and store values under any keys, and open other
stores at the same path at any point. Where the file decodes, the run is answered as the map that it holds
would answer it; where there is no file yet but one can be made, as an empty map would. A file that does
not decode answers every use with a failure, and then the disk stays as it is. And on every disk, a value
that is stored changes what is read under no other key. -/
theorem refines_map (f : SettingsFile) (d : Disk) (uses : List Use) :
    (∀ m, f.Holds d m → (run uses f d).1 = mapAnswers uses m.get?) ∧
    (d.exists? f.path = false → f.canBeMade d = true →
      (run uses f d).1 = mapAnswers uses fun _ => none) ∧
    (f.IsCorrupt d → (∀ answer ∈ (run uses f d).1, answer.IsFailure) ∧ (run uses f d).2 = d) ∧
    ∀ key value other, (f.set key value d).1 = .ok () → other ≠ key →
      f.get other (f.set key value d).2 = f.get other d :=
  ⟨fun _ h => run_of_holds uses h, run_of_missing uses, run_of_corrupt uses,
    fun _ _ _ => get_other_of_set⟩

/-- A value that is stored in a directory still to be made is read by another store at the path. -/
theorem reopened_settings :
    let f : SettingsFile := ⟨"nested/settings.json", fun _ => ""⟩
    let d : Disk := ⟨[], []⟩
    let uses : List Use := [.get "k", .set "k" "é\n", .reopen, .get "k"]
    d.exists? f.path = false ∧ f.canBeMade d = true ∧
    (run uses f d).1 = [.got (.ok none), .done (.ok ()), .got (.ok (some "é\n"))] := by
  intro f d uses
  have hMissing : d.exists? f.path = false := by decide
  have hCan : f.canBeMade d = true := by decide +kernel
  exact ⟨hMissing, hCan, (refines_map f d uses).2.1 hMissing hCan⟩

/-- Below a file no directory can be made. So a value is not stored there, and is not read either, where a
map would give it back. -/
theorem run_below_file :
    let f : SettingsFile := ⟨"a/settings.json", fun _ => ""⟩
    let d : Disk := ⟨[], [(["a"], .file (.text "text"))]⟩
    let uses : List Use := [.set "k" "v", .get "k"]
    d.exists? f.path = false ∧ (run uses f d).1 ≠ mapAnswers uses fun _ => none := by
  intro f d uses
  have hMissing : d.exists? f.path = false := by decide
  have hRead : (f.get "k" (f.set "k" "v" d).2).toOption = some none := by decide +kernel
  have hRun : (run uses f d).1 =
      [.done (f.set "k" "v" d).1, .got (f.get "k" (f.set "k" "v" d).2)] := by simp [uses, run]
  have hMap : mapAnswers uses (fun _ => none) = [.done (.ok ()), .got (.ok (some "v"))] := by
    simp [uses, mapAnswers]
  refine ⟨hMissing, fun hSame => ?_⟩
  rw [hRun, hMap] at hSame
  obtain ⟨-, hGot⟩ : (f.set "k" "v" d).1 = .ok () ∧
      f.get "k" (f.set "k" "v" d).2 = .ok (some "v") := by simpa using hSame
  rw [hGot] at hRead
  cases hRead

end SettingsFile

end PageQuery
