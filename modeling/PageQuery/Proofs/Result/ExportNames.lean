import Mathlib.Data.String.Basic
import PageQuery.Proofs.Calendar.Stamps
import PageQuery.Proofs.Disk.Sparing
import PageQuery.Result.Export
/-!
The names of exports.

The path of an export is a directory's front and a name of its own (`defaultExportPath_eq`), and the
name holds the stamp of a time. So paths are told apart, and ordered, as stamps are. On a disk a path with
a proper last name leads to a place of that name (`Disk.getLast?_of_find_join`), so two exports of
different seconds are two files. The main statement is `export_paths_tell_seconds`.
-/

namespace PageQuery

open Calendar Number Text

/-! ## 1. Paths in a directory -/

namespace Path

/-- What stands in front of a name in a directory. -/
def front (directory : String) : String :=
  if directory == "" then ""
  else if directory.toList.getLast? == some '/' then directory
  else directory ++ "/"

theorem join_eq_front (directory : String) {name : String} (h : isAbsolute name = false) :
    join directory name = front directory ++ name := by
  unfold join front
  rw [h, Bool.false_or]
  split
  · simp
  · split
    · rfl
    · rfl

/-- A front is empty or ends in a slash. -/
theorem front_cases (directory : String) :
    front directory = "" ∨ ∃ before, (front directory).toList = before ++ ['/'] := by
  unfold front
  split
  · exact Or.inl rfl
  · right
    split
    · next h => exact List.getLast?_eq_some_iff.mp (by simpa using h)
    · exact ⟨directory.toList, by simp⟩

/-- A name that says more than to stay or to go up. -/
structure IsProper (name : String) : Prop where
  noSlash : '/' ∉ name.toList
  named : ¬ (name = "" ∨ name = ".")
  notUp : name ≠ ".."

theorem IsProper.relative {name : String} (h : IsProper name) : isAbsolute name = false := by
  rw [isAbsolute, beq_eq_false_iff_ne]
  intro hHead
  exact h.noSlash (List.mem_of_head? hHead)

/-- A proper name is the last name of its path in any directory. -/
theorem IsProper.parts_join {name : String} (h : IsProper name) (directory : String) :
    ∃ before, parts (join directory name) = before ++ [name] := by
  have hName : (pieces '/' name.toList).map String.ofList = [name] := by
    rw [pieces_of_not_mem h.noSlash]
    simp
  rw [join_eq_front directory h.relative, parts, String.toList_append]
  rcases front_cases directory with hEmpty | ⟨before, hBefore⟩
  · exact ⟨[], by rw [hEmpty]; exact hName⟩
  · refine ⟨(pieces '/' before).map String.ofList, ?_⟩
    rw [hBefore, List.append_assoc, List.singleton_append, pieces_append_self, List.map_append,
      hName]

end Path

namespace Disk

theorem getLast?_of_enter {d : Disk} {place next : Place} {name : String}
    (hName : Path.IsProper name) (h : d.enter place name = .ok next) :
    next.getLast? = some name := by
  rw [enter, directory_of_enter h] at h
  simp only [if_neg hName.named, if_neg hName.notUp] at h
  split at h
  · cases h
  · cases h
    exact List.getLast?_concat

/-- A proper name in a directory leads to a place of that name. -/
theorem getLast?_of_find_join {d : Disk} {directory name : String} {place : Place}
    (hName : Path.IsProper name) (h : d.find (Path.join directory name) = .ok place) :
    place.getLast? = some name := by
  obtain ⟨before, hParts⟩ := hName.parts_join directory
  rw [find] at h
  split at h
  · cases h
  · rw [hParts, List.foldlM_append] at h
    cases hWay : before.foldlM d.enter (d.origin (Path.join directory name)) with
    | error e =>
      rw [hWay] at h
      cases h
    | ok home =>
      rw [hWay] at h
      replace h : [name].foldlM d.enter home = .ok place := h
      rw [List.foldlM_cons] at h
      cases hEnter : d.enter home name with
      | error e =>
        rw [hEnter] at h
        cases h
      | ok next =>
        rw [hEnter] at h
        cases h
        exact getLast?_of_enter hName hEnter

/-- An export to another name leaves a text as it can be read. -/
theorem readText_writeExport_of_ne {d : Disk} {directory name name' text : String}
    (hName : Path.IsProper name) (hName' : Path.IsProper name') (hOther : name ≠ name')
    (h : d.readText (Path.join directory name) = .ok text) (directory' other : String) :
    (d.writeExport (Path.join directory' name') other).2.readText (Path.join directory name)
      = .ok text := by
  obtain ⟨place, hFind, hEntry⟩ := file_of_readText h
  obtain ⟨hKeeps, hFiles⟩ := file?_writeExport d (Path.join directory' name') other
  have hFile : d.file? place = some (.text text) := by rw [file?, hEntry]
  have hFind' := hKeeps.find hFind
  rcases hFiles place with hSame | ⟨-, hThere, -⟩
  · rw [hFile, file?] at hSame
    split at hSame
    · next hEntry' =>
      cases hSame
      simp [readText, hFind', hEntry', bind, Except.bind]
    · cases hSame
  · have hLast := getLast?_of_find_join hName hFind'
    rw [getLast?_of_find_join hName' hThere] at hLast
    exact absurd (Option.some.inj hLast).symm hOther

end Disk

/-! ## 2. The name of an export -/

/-- The name of an export file. -/
def exportName (format : ExportFormat) (t : Time) : String :=
  "markql-results-" ++ String.ofList (stamp t) ++ "." ++ format.extension

theorem toList_exportName (format : ExportFormat) (t : Time) :
    (exportName format t).toList
      = "markql-results-".toList ++ (stamp t ++ ('.' :: format.extension.toList)) := by
  have hPoint : ".".toList = ['.'] := rfl
  have hStamp : (String.ofList (stamp t)).toList = stamp t := String.toList_ofList
  show ("markql-results-" ++ String.ofList (stamp t) ++ "." ++ format.extension).toList = _
  rw [String.toList_append, String.toList_append, String.toList_append, hStamp, hPoint,
    List.append_assoc, List.append_assoc, List.singleton_append]

theorem head?_exportName (format : ExportFormat) (t : Time) :
    (exportName format t).toList.head? = some 'm' := by
  have hFirst : "markql-results-".toList.head? = some 'm' := rfl
  rw [toList_exportName, List.head?_append, hFirst]
  rfl

theorem slash_not_mem_padded (width n : Nat) : '/' ∉ padded width n := by
  rw [padded_eq, List.mem_append, List.mem_replicate]
  rintro (⟨-, h⟩ | h)
  · exact absurd h (by decide)
  · exact absurd (isDigit_of_mem_naturalDigits h) (by decide)

theorem slash_not_mem_stamp (t : Time) : '/' ∉ stamp t := by
  have hSign : '/' ∉ (if t.date.year < 0 then ['-'] else []) := by
    split <;> decide
  simp only [stamp, List.mem_append, List.mem_cons, slash_not_mem_padded, hSign, or_false, false_or]
  decide

theorem slash_not_mem_exportName (format : ExportFormat) (t : Time) :
    '/' ∉ (exportName format t).toList := by
  have hStart : '/' ∉ "markql-results-".toList := by decide
  have hEnd : '/' ∉ '.' :: format.extension.toList := by cases format <;> decide
  rw [toList_exportName, List.mem_append, List.mem_append]
  rintro (h | h | h)
  · exact hStart h
  · exact slash_not_mem_stamp t h
  · exact hEnd h

theorem isProper_exportName (format : ExportFormat) (t : Time) :
    Path.IsProper (exportName format t) := by
  have hOther {other : String} (h : other.toList.head? ≠ some 'm') : exportName format t ≠ other :=
    fun hSame => h (hSame ▸ head?_exportName format t)
  exact ⟨slash_not_mem_exportName format t, not_or.mpr ⟨hOther (by decide), hOther (by decide)⟩,
    hOther (by decide)⟩

/-- The path of an export is that of its name, in the directory. -/
theorem defaultExportPath_eq_join (directory : String) (format : ExportFormat) (t : Time) :
    defaultExportPath directory format t = Path.join directory (exportName format t) := rfl

theorem toList_defaultExportPath (directory : String) (format : ExportFormat) (t : Time) :
    (defaultExportPath directory format t).toList =
      (Path.front directory).toList ++ ("markql-results-".toList ++
        (stamp t ++ ('.' :: format.extension.toList))) := by
  rw [defaultExportPath_eq_join, Path.join_eq_front directory (isProper_exportName format t).relative,
    String.toList_append, toList_exportName]

section

variable {t t' : Time} (directory : String) (format : ExportFormat)

theorem exportName_inj (ht : t.FitsStamp) (ht' : t'.FitsStamp) :
    exportName format t = exportName format t' ↔ t = t' := by
  rw [← String.toList_inj, toList_exportName, toList_exportName, List.append_cancel_left_eq,
    List.append_cancel_right_eq, stamp_inj ht ht']

theorem defaultExportPath_inj (ht : t.FitsStamp) (ht' : t'.FitsStamp) :
    defaultExportPath directory format t = defaultExportPath directory format t' ↔ t = t' := by
  rw [← String.toList_inj, toList_defaultExportPath, toList_defaultExportPath,
    List.append_cancel_left_eq, List.append_cancel_left_eq, List.append_cancel_right_eq,
    stamp_inj ht ht']

/-- Texts that go on after a common beginning are ordered by how they go on. -/
theorem append_lt_append_left_iff (a s t : List Char) : a ++ s < a ++ t ↔ s < t := by
  rw [append_lt_append_iff s t rfl]
  simp

theorem defaultExportPath_lt_iff (ht : t.FitsStamp) (ht' : t'.FitsStamp)
    (hyear : 0 ≤ t.date.year) (hyear' : 0 ≤ t'.date.year) :
    defaultExportPath directory format t < defaultExportPath directory format t'
      ↔ t.rank < t'.rank := by
  have hlength : (stamp t).length = (stamp t').length := by
    rw [length_stamp ht, length_stamp ht', if_neg (by omega), if_neg (by omega)]
  rw [String.lt_iff_toList_lt, toList_defaultExportPath, toList_defaultExportPath,
    append_lt_append_left_iff, append_lt_append_left_iff, append_lt_append_iff _ _ hlength,
    stamp_lt_iff ht ht' hyear hyear']
  simp

end

/-- **The default paths of exports tell the seconds** at which they were made, as shown at one offset.
So an export of another second leaves the earlier file as it is. Without years before the year zero the
paths are ordered as the seconds are, and so are the names, which are the paths in the empty
directory. -/
theorem export_paths_tell_seconds (directory : String) (format : ExportFormat) (offset : Int)
    {u v : Int} (hu : inRange (time u offset) = true) (hv : inRange (time v offset) = true) :
    let path (unix : Int) := defaultExportPath directory format (time unix offset)
    (path u = path v ↔ u = v) ∧
      (u ≠ v → ∀ (d : Disk) (text other : String), d.readText (path u) = .ok text →
        (d.writeExport (path v) other).2.readText (path u) = .ok text) ∧
      (0 ≤ (time u offset).date.year → 0 ≤ (time v offset).date.year →
        (path u < path v ↔ u < v)) := by
  intro path
  have htime : time u offset = time v offset ↔ u = v := by
    constructor
    · intro h
      exact (strictMono_time offset).injective (congrArg Time.rank h)
    · rintro rfl
      rfl
  refine ⟨?_, ?_, ?_⟩
  · exact (defaultExportPath_inj directory format (fitsStamp_time hu) (fitsStamp_time hv)).trans htime
  · intro hother d text other hread
    have hname : exportName format (time u offset) ≠ exportName format (time v offset) := by
      rw [ne_eq, exportName_inj format (fitsStamp_time hu) (fitsStamp_time hv), htime]
      exact hother
    exact Disk.readText_writeExport_of_ne (isProper_exportName format _)
      (isProper_exportName format _) hname hread directory other
  · intro hyear hyear'
    exact (defaultExportPath_lt_iff directory format (fitsStamp_time hu) (fitsStamp_time hv) hyear
      hyear').trans (strictMono_time offset).lt_iff_lt

/-- Two exports around a midnight that begins a leap day. -/
theorem export_paths_around_midnight :
    let path (unix : Int) := defaultExportPath "out" .csv (time unix 0)
    let d := ((Disk.mk [] []).writeExport (path 951782399) "a").2
    inRange (time 951782399 0) = true ∧ inRange (time 951782400 0) = true ∧
      path 951782400 = "out/markql-results-20000229-000000.csv" ∧
      path 951782399 ≠ path 951782400 ∧ path 951782399 < path 951782400 ∧
      d.readText (path 951782399) = .ok "a" ∧
      (d.writeExport (path 951782400) "b").2.readText (path 951782399) = .ok "a" := by
  intro path d
  have hu : inRange (time 951782399 0) = true := by decide
  have hv : inRange (time 951782400 0) = true := by decide
  obtain ⟨htell, hspare, horder⟩ := export_paths_tell_seconds "out" .csv 0 hu hv
  have hother : (951782399 : Int) ≠ 951782400 := by decide
  have hname : path 951782400 = "out/markql-results-20000229-000000.csv" := by decide +kernel
  have hread : d.readText (path 951782399) = .ok "a" := by decide +kernel
  refine ⟨hu, hv, hname, fun h => hother (htell.mp h), ?_, hread,
    hspare hother d "a" "b" hread⟩
  exact (horder (by decide) (by decide)).mpr (by decide)

end PageQuery
