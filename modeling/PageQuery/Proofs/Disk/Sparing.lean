import PageQuery.Disk.Basic
import PageQuery.Proofs.Disk.Files
import PageQuery.Store.Basic
/-!
What writing a file leaves alone.

Settings and exports are written alike: the directories that the file lies in are made, and then the file
is written. A directory is made only where there is nothing, so no file is lost to it, and the write is to
one place. `SparesAllBut` says so of two disks, place by place, as two paths may lead to one place. The
statements are `sparesAllBut_set` for settings and `file?_writeExport` for exports.
-/

namespace PageQuery

/-! ## 1. Paths without a slash at the end -/

namespace Path

open Text

/-- A path as it names a directory to be made. -/
def withoutSlash (path : String) : String :=
  String.ofList (path.toList.reverse.dropWhile (· == '/')).reverse

theorem withoutSlash_of_getLast? {path : String} (h : path.toList.getLast? ≠ some '/') :
    withoutSlash path = path := by
  have hKept : path.toList.reverse.dropWhile (· == '/') = path.toList.reverse := by
    rw [← List.head?_reverse] at h
    cases hReverse : path.toList.reverse with
    | nil => rfl
    | cons c rest =>
      rw [hReverse] at h
      have hOther : (c == '/') = false := by simpa using h
      rw [List.dropWhile_cons, hOther]
      rfl
  unfold withoutSlash
  rw [hKept, List.reverse_reverse, String.ofList_toList]

/-- The last name of a path with a slash at the end is empty. -/
theorem getLast?_parts_of_slash {path : String} (h : path.toList.getLast? = some '/') :
    (parts path).getLast? = some "" := by
  rw [← List.head?_reverse] at h
  obtain ⟨rest, hReverse⟩ := List.head?_eq_some_iff.mp h
  unfold parts
  rw [List.getLast?_map, getLast?_pieces, hReverse]
  rfl

/-- A parent is the root, or ends in no slash. -/
theorem withoutSlash_parent {path directory : String} (h : parent? path = some directory) :
    directory = "/" ∨ withoutSlash directory = directory := by
  rw [parent?] at h
  split at h
  · cases h
  · cases h
    split
    · exact Or.inl rfl
    · exact Or.inr rfl
  · next last previous more hIndices =>
    right
    obtain rfl := Option.some.inj h
    have hMem : previous ∈ nameIndices path := by
      rw [← List.mem_reverse, hIndices]
      simp
    obtain ⟨name, hAt, hIsName⟩ := of_mem_nameIndices hMem
    have hTake : (parts path).take (previous + 1) = (parts path).take previous ++ [name] := by
      rw [List.take_add_one, hAt, Option.toList_some]
    have hParts : parts ("/".intercalate ((parts path).take (previous + 1))) =
        (parts path).take (previous + 1) := by
      refine parts_intercalate (by rw [hTake]; simp) fun name hMem => ?_
      exact not_mem_of_mem_parts (List.mem_of_mem_take hMem)
    refine withoutSlash_of_getLast? fun hSlash => ne_empty_of_isName hIsName ?_
    have hLast := getLast?_parts_of_slash hSlash
    rw [hParts, hTake, List.getLast?_concat] at hLast
    exact Option.some.inj hLast

end Path

namespace Disk

/-! ## 2. Files by place -/

/-- What the file at a place holds, if there is one. -/
def file? (d : Disk) (place : Place) : Option Content :=
  match d.entry? place with
  | some (.file content) => some content
  | _ => none

theorem file?_put_of_ne {place q : Place} (h : q ≠ place) (d : Disk) (e : Entry) :
    (d.put place e).file? q = d.file? q := by
  unfold file?
  rw [entry?_put_of_ne h]

/-- Where nothing was, a directory takes no file away. -/
theorem file?_put_directory {d : Disk} {place : Place} (h : d.entry? place = none) (q : Place) :
    (d.put place .directory).file? q = d.file? q := by
  by_cases hSame : q = place
  · subst hSame
    unfold file?
    rw [entry?_put_self (ne_root_of_not_directory (d := d) (by simp [h])), h]
  · exact file?_put_of_ne hSame d _

/-- A file that was written is where its path leads, and nothing changed at any other place. -/
theorem file?_writeText {d d' : Disk} {path s : String} (h : d.writeText path s = .ok d') :
    ∃ place, d'.find path = .ok place ∧ d'.file? place = some (.text s) ∧
      ∀ q, q ≠ place → d'.file? q = d.file? q := by
  obtain ⟨place, hNot, rfl, hFind⟩ := put_of_writeText h
  refine ⟨place, hFind, ?_, fun q hOther => file?_put_of_ne hOther d _⟩
  unfold file?
  rw [entry?_put_self (ne_root_of_not_directory hNot)]

theorem Keeps.refl (d : Disk) : d.Keeps d := ⟨rfl, id, id⟩

theorem Keeps.trans {d₁ d₂ d₃ : Disk} (h : d₁.Keeps d₂) (h' : d₂.Keeps d₃) : d₁.Keeps d₃ where
  current_eq := h'.current_eq.trans h.current_eq
  directory hDirectory := h'.directory (h.directory hDirectory)
  isSome hSome := h'.isSome (h.isSome hSome)

/-- All ways on one disk are there on the other, and files are the same but where a path leads. -/
structure SparesAllBut (path : String) (d d' : Disk) : Prop where
  keeps : d.Keeps d'
  file {place : Place} (h : d'.find path ≠ .ok place) : d'.file? place = d.file? place

theorem SparesAllBut.refl (path : String) (d : Disk) : SparesAllBut path d d where
  keeps := .refl d
  file _ := rfl

theorem SparesAllBut.trans {path : String} {d₁ d₂ d₃ : Disk} (h : SparesAllBut path d₁ d₂)
    (h' : SparesAllBut path d₂ d₃) : SparesAllBut path d₁ d₃ where
  keeps := h.keeps.trans h'.keeps
  file hOther := by
    rw [h'.file hOther, h.file fun hFind => hOther (h'.keeps.find hFind)]

/-! ## 3. Making directories -/

theorem sparesAllBut_put_directory (path : String) {d : Disk} {place : Place}
    (h : d.entry? place = none) : SparesAllBut path d (d.put place .directory) where
  keeps := keeps_put (by simp [h]) _
  file _ := file?_put_directory h _

theorem sparesAllBut_makeDirectory (path : String) {d d' : Disk} {directory : String}
    (hSlash : directory = "/" ∨ Path.withoutSlash directory = directory)
    (h : d.makeDirectory directory = .ok d') : SparesAllBut path d d' := by
  unfold makeDirectory at h
  cases hFind : d.find directory with
  | ok place => simp [hFind] at h
  | error e =>
    have hTrimmed : Path.withoutSlash directory = directory := by
      rcases hSlash with rfl | hSame
      · rw [find_root] at hFind
        cases hFind
      · exact hSame
    simp only [hFind] at h
    rw [show String.ofList (directory.toList.reverse.dropWhile (· == '/')).reverse = directory
      from hTrimmed] at h
    cases hTarget : d.target directory with
    | error e => simp [hTarget, bind, Except.bind] at h
    | ok target =>
      obtain ⟨home, name⟩ := target
      simp only [hTarget, bind, Except.bind] at h
      split at h
      · cases h
      · cases h
      · cases h
      · next hDirectory =>
        cases h
        exact sparesAllBut_put_directory path
          (entry?_of_target hTarget (by simp [hFind]) hDirectory)

theorem sparesAllBut_makeDirectoriesIn (path : String) : ∀ (steps : Nat) {d d' : Disk}
    {directory : String}, directory = "/" ∨ Path.withoutSlash directory = directory →
    d.makeDirectoriesIn steps directory = .ok d' → SparesAllBut path d d'
  | 0, _, _, _, _, h => by cases h
  | steps + 1, d, d', directory, hSlash, h => by
      have hMade : ∀ {d₁ d₂}, d₁.makeDirectory directory = .ok d₂ → SparesAllBut path d₁ d₂ :=
        sparesAllBut_makeDirectory path hSlash
      have hThere : ∀ {d₁ : Disk} {e : DiskError},
          (if d₁.isDirectory directory then Except.ok d₁ else .error e) = .ok d' →
          SparesAllBut path d₁ d' := by
        intro d₁ e hKept
        split at hKept
        · cases hKept
          exact .refl path _
        · cases hKept
      unfold makeDirectoriesIn at h
      split at h
      · cases h
        exact .refl path _
      · simp only at h
        split at h
        · next hStep =>
          cases h
          exact hMade hStep
        · split at h
          · cases h
          · next parent hParent =>
            cases hParents : d.makeDirectoriesIn steps parent with
            | error e =>
              rw [hParents] at h
              cases h
            | ok d₁ =>
              rw [hParents] at h
              have hFirst := sparesAllBut_makeDirectoriesIn path steps
                (Path.withoutSlash_parent hParent) hParents
              refine hFirst.trans ?_
              simp only [Except.bind] at h
              split at h
              · next hStep =>
                cases h
                exact hMade hStep
              · exact hThere h
        · exact hThere h

theorem sparesAllBut_makeDirectories (path : String) {d d' : Disk} {directory : String}
    (hSlash : directory = "/" ∨ Path.withoutSlash directory = directory)
    (h : d.makeDirectories directory = .ok d') : SparesAllBut path d d' :=
  sparesAllBut_makeDirectoriesIn path _ hSlash h

/-- No file is lost where directories are made. -/
theorem file?_makeDirectories {d d' : Disk} {directory : String}
    (hSlash : directory = "/" ∨ Path.withoutSlash directory = directory)
    (h : d.makeDirectories directory = .ok d') (place : Place) : d'.file? place = d.file? place := by
  -- The empty path leads nowhere, so nothing is excepted.
  exact (sparesAllBut_makeDirectories "" hSlash h).file (by simp [find])

/-! ## 4. Writing -/

/-- A write is to the place that its path leads to, then. -/
theorem sparesAllBut_writeText {d d' : Disk} {path s : String} (h : d.writeText path s = .ok d') :
    SparesAllBut path d d' := by
  obtain ⟨place, hNot, hPut, -⟩ := put_of_writeText h
  obtain ⟨there, hFind, -, hSame⟩ := file?_writeText h
  exact ⟨hPut ▸ keeps_put hNot _, fun hOther => hSame _ fun hThere => hOther (hThere ▸ hFind)⟩

/-- **An export makes no file but its own**, and that one only as it succeeds, with the text that is
exported. -/
theorem file?_writeExport (d : Disk) (path text : String) :
    d.Keeps (d.writeExport path text).2 ∧
    ∀ place, (d.writeExport path text).2.file? place = d.file? place ∨
      (d.writeExport path text).1 = .ok () ∧ (d.writeExport path text).2.find path = .ok place ∧
        (d.writeExport path text).2.file? place = some (.text text) := by
  have hWrite : ∀ {d₁ d₂ : Disk}, d₁.writeText path text = .ok d₂ → d.Keeps d₁ →
      (∀ place, d₁.file? place = d.file? place) → d.Keeps d₂ ∧ ∀ place,
        d₂.file? place = d.file? place ∨
          d₂.find path = .ok place ∧ d₂.file? place = some (.text text) := by
    intro d₁ d₂ hRun hKeeps hSame
    obtain ⟨there, hFind, hFile, hOther⟩ := file?_writeText hRun
    refine ⟨hKeeps.trans (sparesAllBut_writeText hRun).keeps, fun place => ?_⟩
    by_cases hThere : place = there
    · subst hThere
      exact Or.inr ⟨hFind, hFile⟩
    · exact Or.inl ((hOther place hThere).trans (hSame place))
  unfold writeExport
  cases hParent : Path.parent? path with
  | none =>
    simp only
    cases hRun : d.writeText path text with
    | error e => exact ⟨.refl d, fun _ => Or.inl rfl⟩
    | ok d₂ => simpa using hWrite hRun (.refl d) fun _ => rfl
  | some parent =>
    simp only
    cases hMade : d.makeDirectories parent with
    | error e => exact ⟨.refl d, fun _ => Or.inl rfl⟩
    | ok d₁ =>
      have hSlash := Path.withoutSlash_parent hParent
      have hKeeps : d.Keeps d₁ := (sparesAllBut_makeDirectories path hSlash hMade).keeps
      have hSame := file?_makeDirectories hSlash hMade
      simp only
      cases hRun : d₁.writeText path text with
      | error e => exact ⟨hKeeps, fun place => Or.inl (hSame place)⟩
      | ok d₂ => simpa using hWrite hRun hKeeps hSame

end Disk

namespace SettingsFile

/-- **Storing a setting touches no file but that of the settings**, whether it succeeds or not. -/
theorem sparesAllBut_set (f : SettingsFile) (key value : String) (d : Disk) :
    d.SparesAllBut f.path (f.set key value d).2 := by
  unfold set
  cases f.load d with
  | error e => exact .refl _ d
  | ok m =>
    simp only
    cases hHome : f.makeHome d with
    | error e => exact .refl _ d
    | ok d₁ =>
      have hMade : d.SparesAllBut f.path d₁ := by
        unfold makeHome at hHome
        split at hHome
        · cases hHome
          exact .refl _ d
        · next directory hParent =>
          split at hHome
          · next hDirectories =>
            cases hHome
            exact Disk.sparesAllBut_makeDirectories _ (Path.withoutSlash_parent hParent) hDirectories
          · cases hHome
      simp only
      cases hWrite : d₁.writeText f.path (m.insert key value).toText with
      | error e => exact hMade
      | ok d₂ => exact hMade.trans (Disk.sparesAllBut_writeText hWrite)

end SettingsFile

end PageQuery
