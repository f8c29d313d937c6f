import PageQuery.Disk.Basic
import PageQuery.Proofs.Text.Basic
/-!
Parents of paths, and files that were written are read back.

The names of a path are what it is between slashes, and joining some of them with slashes gives a path of
just these (`parts_intercalate`). So the parent of a path names what the path does with its last name left
out: `parent?_cases` says so, with the root and the empty path apart.

A write puts one file in its place, and `Keeps` says that all that was on the way to any place is still
there. So the path leads to the file afterwards, `readText_of_writeText`. Where a path leads to a file it
can be written to, and the directory that it lies in is there: `makeDirectories_parent`.
-/

namespace PageQuery

namespace Path

open Text

/-! ## 1. Names -/

theorem not_mem_of_mem_parts {path name : String} (h : name ∈ parts path) : '/' ∉ name.toList := by
  obtain ⟨piece, hMem, rfl⟩ := List.mem_map.mp h
  rw [String.toList_ofList]
  exact not_mem_of_mem_pieces hMem

/-- Names joined with slashes are the names of the path. -/
theorem parts_intercalate {names : List String} (h : names ≠ [])
    (hNames : ∀ name ∈ names, '/' ∉ name.toList) : parts ("/".intercalate names) = names := by
  have hSlash : "/".toList = ['/'] := rfl
  rw [parts, String.toList_intercalate, hSlash, pieces_intercalate (by simpa using h)]
  · simp
  · intro piece hMem
    obtain ⟨name, hName, rfl⟩ := List.mem_map.mp hMem
    exact hNames name hName

/-- A path starts at the root if it has an empty name in front of others. -/
theorem isAbsolute_iff (path : String) :
    isAbsolute path = true ↔ ∃ more, parts path = "" :: more ∧ more ≠ [] := by
  rw [isAbsolute, parts]
  cases path.toList with
  | nil => simp [pieces]
  | cons c rest =>
    by_cases hc : c = '/'
    · subst hc
      rw [pieces_cons_self, List.map_cons]
      simp [pieces_ne_nil]
    · obtain ⟨piece, more, -, hcons⟩ := pieces_cons_of_ne hc rest
      have hFirst : String.ofList (c :: piece) ≠ "" := by simp
      rw [hcons, List.map_cons]
      constructor
      · intro hHead
        exact absurd (by simpa using hHead) hc
      · rintro ⟨_, hSame, -⟩
        exact absurd (List.cons.inj hSame).1 hFirst

/-! ## 2. Parents -/

theorem pairwise_nameIndices (path : String) : (nameIndices path).Pairwise (· < ·) := by
  have hRange : ((parts path).zipIdx.map (·.2)).Pairwise (· < ·) := by
    rw [List.zipIdx_map_snd]
    exact List.pairwise_lt_range'
  exact hRange.sublist (List.filter_sublist.map _)

theorem of_mem_nameIndices {path : String} {i : Nat} (h : i ∈ nameIndices path) :
    ∃ name, (parts path)[i]? = some name ∧ isName (isAbsolute path) i name = true := by
  obtain ⟨⟨name, _⟩, hMem, rfl⟩ := List.mem_map.mp h
  obtain ⟨hItem, hName⟩ := List.mem_filter.mp hMem
  exact ⟨name, List.mem_zipIdx_iff_getElem?.mp hItem, hName⟩

theorem ne_empty_of_isName {absolute : Bool} {i : Nat} {name : String}
    (h : isName absolute i name = true) : name ≠ "" := by
  rintro rfl
  simp [isName] at h

/-- Names in front, the last of them not empty, start at the root if all names do. -/
theorem isAbsolute_of_prefix {path directory name : String} {before rest : List String}
    (hDirectory : parts directory = before ++ [name]) (hName : name ≠ "")
    (hPath : parts path = before ++ [name] ++ rest) : isAbsolute directory = isAbsolute path := by
  rw [Bool.eq_iff_iff, isAbsolute_iff, isAbsolute_iff, hDirectory, hPath]
  cases before with
  | nil => simp [hName]
  | cons first more =>
    constructor
    · rintro ⟨_, hSame, -⟩
      obtain ⟨rfl, -⟩ := List.cons.inj hSame
      exact ⟨_, rfl, by simp⟩
    · rintro ⟨_, hSame, -⟩
      obtain ⟨rfl, -⟩ := List.cons.inj hSame
      exact ⟨_, rfl, by simp⟩

/-- The parent of a path is the path without its last name, or the place where a path of a single name
starts. -/
theorem parent?_cases {path directory : String} (h : parent? path = some directory) :
    directory = (if isAbsolute path then "/" else "") ∨
      ∃ rest, parts path = parts directory ++ rest ∧ rest ≠ [] ∧
        isAbsolute directory = isAbsolute path ∧ directory ≠ "" := by
  have hOrder := pairwise_nameIndices path
  rw [parent?] at h
  split at h
  · cases h
  · cases h
    exact Or.inl rfl
  · next last previous more hIndices =>
    right
    obtain rfl := Option.some.inj h
    rw [← List.pairwise_reverse, hIndices] at hOrder
    have hLess : previous < last := (List.pairwise_cons.mp hOrder).1 previous List.mem_cons_self
    have hMem : ∀ i ∈ [last, previous], i ∈ nameIndices path := by
      intro i hi
      rw [← List.mem_reverse, hIndices]
      simp only [List.mem_cons, List.not_mem_nil, or_false] at hi ⊢
      rcases hi with rfl | rfl <;> simp
    obtain ⟨name, hAt, hIsName⟩ := of_mem_nameIndices (hMem previous (by simp))
    obtain ⟨_, hLast, -⟩ := of_mem_nameIndices (hMem last (by simp))
    have hInside : last < (parts path).length := (List.getElem?_eq_some_iff.mp hLast).1
    have hName := ne_empty_of_isName hIsName
    have hTake : (parts path).take (previous + 1) = (parts path).take previous ++ [name] := by
      rw [List.take_add_one, hAt, Option.toList_some]
    have hParts : parts ("/".intercalate ((parts path).take (previous + 1))) =
        (parts path).take (previous + 1) := by
      refine parts_intercalate (by rw [hTake]; simp) fun name hMem => ?_
      exact not_mem_of_mem_parts (List.mem_of_mem_take hMem)
    have hSplit : parts path =
        (parts path).take (previous + 1) ++ (parts path).drop (previous + 1) :=
      (List.take_append_drop _ _).symm
    refine ⟨(parts path).drop (previous + 1), ?_, ?_, ?_, ?_⟩
    · rw [hParts]
      exact hSplit
    · rw [ne_eq, List.drop_eq_nil_iff]
      omega
    · exact isAbsolute_of_prefix (hParts.trans hTake) hName (hTake ▸ hSplit)
    · intro hEmpty
      rw [hEmpty, hTake] at hParts
      have hSingle : parts "" = [""] := rfl
      rw [hSingle] at hParts
      have hSame := congrArg List.getLast? hParts
      simp at hSame
      exact hName hSame

end Path

end PageQuery

namespace PageQuery.Disk

/-! ## 3. Places -/

/-- One disk has all directories of another, and an entry wherever that has one. -/
structure Keeps (d d' : Disk) : Prop where
  current_eq : d'.current = d.current
  directory {place : Place} : d.entry? place = some .directory → d'.entry? place = some .directory
  isSome {place : Place} : (d.entry? place).isSome = true → (d'.entry? place).isSome = true

theorem entry?_put_self {place : Place} (h : place ≠ []) (d : Disk) (e : Entry) :
    Disk.entry? (d.put place e) place = some e := by
  simp [ entry?, put, h]

theorem entry?_put_of_ne {place q : Place} (h : q ≠ place) (d : Disk) (e : Entry) :
    Disk.entry? (d.put place e) q = d.entry? q := by
  have hPut : (d.put place e).entries.find? (·.1 == q) =
      (d.entries.filter (·.1 != place)).find? (·.1 == q) := by
    rw [put, List.find?_cons_of_neg]
    simpa using Ne.symm h
  have hFilter : (d.entries.filter (·.1 != place)).find? (·.1 == q) =
      d.entries.find? (·.1 == q) := by
    rw [List.find?_filter]
    congr 1
    funext item
    by_cases hItem : item.1 = q
    · simp [hItem, h]
    · simp [hItem]
  rw [ entry?, entry?, hPut, hFilter]

/-- An entry that is put where no directory is takes nothing away. -/
theorem keeps_put {d : Disk} {place : Place} (h : d.entry? place ≠ some .directory) (e : Entry) :
    d.Keeps (d.put place e) where
  current_eq := rfl
  directory {q} hDirectory := by
    have hOther : q ≠ place := fun hSame => h (hSame ▸ hDirectory)
    rwa [entry?_put_of_ne hOther]
  isSome {q} hSome := by
    by_cases hSame : q = place
    · subst hSame
      have hNotRoot : q ≠ [] := fun hRoot => h (by rw [ entry?, if_pos hRoot])
      rw [entry?_put_self hNotRoot]
      rfl
    · rwa [entry?_put_of_ne hSame]

/-! ## 4. Ways -/

/-- Only a directory is entered. -/
theorem directory_of_enter {d : Disk} {place next : Place} {name : String}
    (h : d.enter place name = .ok next) : d.entry? place = some .directory := by
  rw [enter] at h
  split at h
  · cases h
  · cases h
  · assumption

namespace Keeps

variable {d d' : Disk} (hKeeps : d.Keeps d')

include hKeeps

theorem enter {place next : Place} {name : String} (h : d.enter place name = .ok next) :
    d'.enter place name = .ok next := by
  have hDirectory := directory_of_enter h
  rw [Disk.enter, hDirectory] at h
  rw [Disk.enter, hKeeps.directory hDirectory]
  simp only at h ⊢
  split at h
  · next hStay => rwa [if_pos hStay]
  · next hStay =>
    rw [if_neg hStay]
    split at h
    · next hUp => rwa [if_pos hUp]
    · next hUp =>
      rw [if_neg hUp]
      cases hNext : d.entry? (place ++ [name]) with
      | none =>
        rw [hNext] at h
        cases h
      | some e =>
        rw [hNext] at h
        obtain ⟨e', hThere⟩ := Option.isSome_iff_exists.mp (hKeeps.isSome (by rw [hNext]; rfl))
        rw [hThere]
        exact h

theorem follow : ∀ {names : List String} {place last : Place},
    names.foldlM d.enter place = .ok last → names.foldlM d'.enter place = .ok last
  | [], _, _, h => h
  | name :: rest, place, last, h => by
      rw [List.foldlM_cons] at h ⊢
      cases hNext : d.enter place name with
      | error e =>
        rw [hNext] at h
        cases h
      | ok next =>
        rw [hNext] at h
        rw [hKeeps.enter hNext]
        exact follow h

theorem origin (path : String) : d'.origin path = d.origin path := by
  rw [Disk.origin, Disk.origin, hKeeps.current_eq]

/-- A path leads where it led. -/
theorem find {path : String} {place : Place} (h : d.find path = .ok place) :
    d'.find path = .ok place := by
  rw [Disk.find] at h ⊢
  split at h
  · cases h
  · next hPath =>
    rw [if_neg hPath, hKeeps.origin]
    exact hKeeps.follow h

end Keeps

/-! ## 5. Writing -/

/-- Where a path would make an entry of its own, all its names but the last lead to a directory. -/
theorem target_of_ok {d : Disk} {path : String} {directory : Place} {name : String}
    (h : d.target path = .ok (directory, some name)) :
    path ≠ "" ∧ (∃ before, Path.parts path = before ++ [name] ∧
      before.foldlM d.enter (d.origin path) = .ok directory) ∧
      ¬ (name = "" ∨ name = ".") ∧ name ≠ ".." := by
  rw [target] at h
  split at h
  · cases h
  · next hPath =>
    refine ⟨hPath, ?_⟩
    cases hWay : (Path.parts path).dropLast.foldlM d.enter (d.origin path) with
    | error e => simp [hWay, bind, Except.bind] at h
    | ok place =>
      cases hLast : (Path.parts path).getLast? with
      | none => simp [hWay, hLast, bind, Except.bind] at h
      | some last =>
        simp only [hWay, hLast, bind, Except.bind] at h
        split at h
        · simp at h
        · next hName =>
          cases h
          rw [not_or, not_or] at hName
          obtain ⟨before, hParts⟩ := List.getLast?_eq_some_iff.mp hLast
          rw [hParts, List.dropLast_concat] at hWay
          exact ⟨⟨before, hParts, hWay⟩, not_or.mpr ⟨hName.1, hName.2.1⟩, hName.2.2⟩

/-- A way to a directory goes on to each of its entries. -/
theorem find_of_way {d : Disk} {path name : String} {before : List String} {directory : Place}
    (hPath : path ≠ "") (hParts : Path.parts path = before ++ [name])
    (hWay : before.foldlM d.enter (d.origin path) = .ok directory)
    (hDirectory : d.entry? directory = some .directory) (hStay : ¬ (name = "" ∨ name = "."))
    (hUp : name ≠ "..") (hThere : (d.entry? (directory ++ [name])).isSome = true) :
    d.find path = .ok (directory ++ [name]) := by
  obtain ⟨e, hEntry⟩ := Option.isSome_iff_exists.mp hThere
  rw [find, if_neg hPath, hParts, List.foldlM_append, hWay]
  show [name].foldlM d.enter directory = _
  rw [List.foldlM_cons, enter, hDirectory]
  simp only [if_neg hStay, if_neg hUp, hEntry]
  rfl

/-- Writing at a place. -/
theorem writeContent_cases {d d' : Disk} {path : String} {content : Content}
    (h : d.writeContent path content = .ok d') :
    (∃ place, d.find path = .ok place ∧ d.entry? place ≠ some .directory ∧
      d' = d.put place (.file content)) ∨
    ∃ directory name, d.target path = .ok (directory, some name) ∧
      (∀ place, d.find path ≠ .ok place) ∧ d.entry? directory = some .directory ∧
      d' = d.put (directory ++ [name]) (.file content) := by
  rw [writeContent] at h
  split at h
  · next hFind =>
    right
    cases hTarget : d.target path with
    | error e => simp [hTarget, bind, Except.bind] at h
    | ok target =>
      obtain ⟨directory, name⟩ := target
      simp only [hTarget, bind, Except.bind] at h
      split at h
      · cases h
      · cases h
      · cases h
      · next hDirectory =>
        cases h
        exact ⟨directory, _, rfl, by simp [hFind], hDirectory, rfl⟩
  · next place hFind =>
    left
    split at h
    · cases h
    · next hNot =>
      cases h
      exact ⟨place, hFind, hNot, rfl⟩

/-- Where a path leads nowhere, there is nothing at its target. -/
theorem entry?_of_target {d : Disk} {path name : String} {directory : Place}
    (hTarget : d.target path = .ok (directory, some name))
    (hMissing : ∀ place, d.find path ≠ .ok place)
    (hDirectory : d.entry? directory = some .directory) : d.entry? (directory ++ [name]) = none := by
  obtain ⟨hPath, ⟨before, hParts, hWay⟩, hStay, hUp⟩ := target_of_ok hTarget
  cases hEntry : d.entry? (directory ++ [name]) with
  | none => rfl
  | some e =>
    have hThere : (d.entry? (directory ++ [name])).isSome = true := by rw [hEntry]; rfl
    exact absurd (find_of_way hPath hParts hWay hDirectory hStay hUp hThere) (hMissing _)

/-- A write puts a file where no directory is, and its path leads there then. -/
theorem put_of_writeText {d d' : Disk} {path s : String} (h : d.writeText path s = .ok d') :
    ∃ place, d.entry? place ≠ some .directory ∧ d' = d.put place (.file (.text s)) ∧
      d'.find path = .ok place := by
  rcases writeContent_cases h with ⟨place, hFind, hNot, rfl⟩ |
    ⟨directory, name, hTarget, hMissing, hDirectory, rfl⟩
  · exact ⟨place, hNot, rfl, (keeps_put hNot _).find hFind⟩
  · have hFree := entry?_of_target hTarget hMissing hDirectory
    have hKeeps : d.Keeps (d.put (directory ++ [name]) (.file (.text s))) :=
      keeps_put (by simp [hFree]) _
    obtain ⟨hPath, ⟨before, hParts, hWay⟩, hStay, hUp⟩ := target_of_ok hTarget
    have hThere := entry?_put_self (by simp : directory ++ [name] ≠ []) d (.file (.text s))
    refine ⟨directory ++ [name], by simp [hFree], rfl, ?_⟩
    refine find_of_way hPath hParts ?_ (hKeeps.directory hDirectory) hStay hUp (by rw [hThere]; rfl)
    rw [hKeeps.origin]
    exact hKeeps.follow hWay

theorem ne_root_of_not_directory {d : Disk} {place : Place} (h : d.entry? place ≠ some .directory) :
    place ≠ [] := by
  rintro rfl
  exact h (if_pos rfl)

/-- A path that can be written to leads to the file that was written. -/
theorem find_of_writeText {d d' : Disk} {path s : String} (h : d.writeText path s = .ok d') :
    ∃ place, d'.find path = .ok place ∧ d'.entry? place = some (.file (.text s)) := by
  obtain ⟨place, hNot, rfl, hFind⟩ := put_of_writeText h
  exact ⟨place, hFind, entry?_put_self (ne_root_of_not_directory hNot) d _⟩

/-- **A text that was written is read back.** -/
theorem readText_of_writeText {d d' : Disk} {path s : String} (h : d.writeText path s = .ok d') :
    d'.readText path = .ok s := by
  obtain ⟨place, hFind, hFile⟩ := find_of_writeText h
  simp [readText, hFind, hFile, bind, Except.bind]

/-- A file that can be read is where the path leads. -/
theorem file_of_readText {d : Disk} {path s : String} (h : d.readText path = .ok s) :
    ∃ place, d.find path = .ok place ∧ d.entry? place = some (.file (.text s)) := by
  cases hFind : d.find path with
  | error e => simp [readText, hFind, bind, Except.bind] at h
  | ok place =>
    refine ⟨place, rfl, ?_⟩
    simp only [readText, hFind, bind, Except.bind] at h
    split at h
    · next hFile =>
      cases h
      exact hFile
    · cases h
    · cases h
    · cases h

theorem exists_of_find {d : Disk} {path : String} {place : Place} {e : Entry}
    (hFind : d.find path = .ok place) (hEntry : d.entry? place = some e) :
    d.exists? path = true := by
  rw [exists?, hFind]
  simp only [hEntry]
  rfl

/-- A file can be written to. -/
theorem writeText_of_file {d : Disk} {path : String} {place : Place} {content : Content}
    (hFind : d.find path = .ok place) (hFile : d.entry? place = some (.file content)) (s : String) :
    d.writeText path s = .ok (d.put place (.file (.text s))) := by
  rw [writeText, writeContent, hFind]
  simp only [hFile]

/-- Whether a text can be written does not depend on the text. -/
theorem writeText_of_ok {d d' : Disk} {path s : String} (h : d.writeText path s = .ok d')
    (s' : String) : ∃ d'', d.writeText path s' = .ok d'' := by
  rw [writeText, writeContent.eq_def] at h ⊢
  split at h
  · next hFind =>
    cases hTarget : d.target path with
    | error e => simp [hTarget, bind, Except.bind] at h
    | ok target =>
      simp only [hTarget, bind, Except.bind] at h ⊢
      split at h
      · cases h
      · cases h
      · cases h
      · next hDirectory => exact ⟨_, rfl⟩
  · split at h
    · cases h
    · next hNot => exact ⟨_, rfl⟩

/-! ## 6. Directories -/

/-- A directory that is there is left alone. -/
theorem makeDirectories_of_find {d : Disk} {path : String} {place : Place}
    (hFind : d.find path = .ok place) (hDirectory : d.entry? place = some .directory) :
    d.makeDirectories path = .ok d := by
  have hIsDirectory : d.isDirectory path = true := by
    rw [isDirectory, hFind]
    simp only [hDirectory]
  have hThere : d.makeDirectory path = .error .alreadyExists := by
    rw [makeDirectory, hFind]
  rw [makeDirectories, makeDirectoriesIn]
  by_cases hPath : path = ""
  · rw [if_pos hPath]
  · rw [if_neg hPath]
    simp only [hThere, hIsDirectory, if_true]

theorem find_root (d : Disk) : d.find "/" = .ok [] := by
  have hParts : Path.parts "/" = ["", ""] := by decide
  have hOrigin : d.origin "/" = [] := rfl
  have hEnter : d.enter [] "" = .ok [] := rfl
  rw [find, if_neg (by decide), hParts, hOrigin, List.foldlM_cons, hEnter]
  show (d.enter [] "" >>= fun place => .ok place) = _
  rw [hEnter]
  rfl

theorem makeDirectories_empty (d : Disk) : d.makeDirectories "" = .ok d := by
  rw [makeDirectories, makeDirectoriesIn, if_pos rfl]

/-- **Where a path leads to a file, the directory that it lies in is there.** -/
theorem makeDirectories_parent {d : Disk} {path directory : String} {place : Place}
    (hFind : d.find path = .ok place) (hParent : Path.parent? path = some directory) :
    d.makeDirectories directory = .ok d := by
  rcases Path.parent?_cases hParent with rfl | ⟨rest, hParts, hRest, hAbsolute, hNotEmpty⟩
  · cases Path.isAbsolute path with
    | false => exact makeDirectories_empty d
    | true => exact makeDirectories_of_find (find_root d) (if_pos rfl)
  · rw [find] at hFind
    split at hFind
    · cases hFind
    · rw [hParts, List.foldlM_append] at hFind
      cases hWay : (Path.parts directory).foldlM d.enter (d.origin path) with
      | error e =>
        rw [hWay] at hFind
        cases hFind
      | ok home =>
        rw [hWay] at hFind
        have hDirectory : d.entry? home = some .directory := by
          obtain ⟨name, more, rfl⟩ := List.exists_cons_of_ne_nil hRest
          cases hEnter : d.enter home name with
          | error e =>
            have hFails : (d.enter home name >>= fun p => more.foldlM d.enter p) = .ok place := hFind
            rw [hEnter] at hFails
            cases hFails
          | ok next => exact directory_of_enter hEnter
        refine makeDirectories_of_find ?_ hDirectory
        rw [find, if_neg hNotEmpty, origin, hAbsolute]
        exact hWay

end PageQuery.Disk
