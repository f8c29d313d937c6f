import PageQuery.Proofs.Disk.Files
import PageQuery.Proofs.Workbench.Task
import PageQuery.Proofs.Workbench.Scripted
import PageQuery.Workbench.Station
/-!
What exports deliver.

An export has two outlets, each of which may fail, and one text for both. `Delivery` has one case for each
way in which an export of a result can end, with all that is said by then: the file comes first, and what
fails ends the export. `Bench.Delivers` is what can be relied on, and `exports_deliver` says that it holds
of an export as it is asked for, of a copy and of a file alike. That a file which was written holds the
text is asked of the outside, and is shown for files on a disk.
-/

namespace PageQuery

variable {σ : Type}

/-! ## 1. Files -/

/-- An outside with files: what is written there can be read, and copies leave files alone. -/
structure KeepsFiles (env : Environment σ) (file : σ → String → Option String) : Prop where
  write {path text : String} {s : σ} : (env (.writeFile path text) s).1 = .ok () →
    file (env (.writeFile path text) s).2 path = some text
  copy (text : String) (s : σ) : file (env (.copy text) s).2 = file s

/-- The text of a file on a disk. -/
def Disk.text? (d : Disk) (path : String) : Option String := (d.readText path).toOption

/-- An export that succeeds has written its text, once there were directories for it. -/
theorem Disk.writeText_of_writeExport {d : Disk} {path text : String}
    (h : (d.writeExport path text).1 = .ok ()) :
    ∃ d₁ : Disk, d₁.writeText path text = .ok (d.writeExport path text).2 := by
  cases hParent : Path.parent? path with
  | none =>
    simp only [writeExport, hParent] at h ⊢
    cases hRun : d.writeText path text with
    | error e =>
      rw [hRun] at h
      cases h
    | ok d₂ => exact ⟨d, hRun⟩
  | some parent =>
    simp only [writeExport, hParent] at h ⊢
    cases hMade : d.makeDirectories parent with
    | error e =>
      rw [hMade] at h
      cases h
    | ok d₁ =>
      simp only [hMade] at h ⊢
      cases hRun : d₁.writeText path text with
      | error e =>
        rw [hRun] at h
        cases h
      | ok d₂ => exact ⟨d₁, hRun⟩

/-- **An export that is written to a disk can be read there.** -/
theorem Disk.text?_writeExport {d : Disk} {path text : String}
    (h : (d.writeExport path text).1 = .ok ()) :
    (d.writeExport path text).2.text? path = some text := by
  obtain ⟨d₁, hRun⟩ := writeText_of_writeExport h
  rw [text?, readText_of_writeText hRun]
  rfl

theorem Script.keepsFiles : KeepsFiles Script.environment fun s => s.world.disk.text? where
  write h := Disk.text?_writeExport h
  copy text s := by
    show (s.copy text).2.world.disk.text? = _
    rw [Script.copy]
    split
    · rfl
    · rfl

theorem Station.keepsFiles : KeepsFiles Station.environment fun s => s.world.disk.text? where
  write h := Disk.text?_writeExport h
  copy _ _ := rfl

/-! ## 2. How an export ends -/

namespace ExportOptions

/-- What is said when a result is written to a file, if there is to be one. -/
def written (o : ExportOptions) (r : QueryResult) : List Exchange :=
  o.path.toList.map fun path => ⟨.writeFile path (o.format.render r), .ok ()⟩

/-- What is said when a result is copied, if it is to be. -/
def copied (o : ExportOptions) (r : QueryResult) : List Exchange :=
  if o.copy then [⟨.copy (o.format.render r), .ok ()⟩] else []

end ExportOptions

/-- The ways the export of a result can end: what was said by then, and what the export comes to. -/
inductive Delivery (o : ExportOptions) (r : QueryResult) :
    List Exchange → Except ClientError Exported → Prop
  | notWritten {path : String} {f : Fault} : o.path = some path →
      Delivery o r [⟨.writeFile path (o.format.render r), .error f⟩] (.error (.write f.message))
  | notCopied {f : Fault} : o.copy = true →
      Delivery o r (o.written r ++ [⟨.copy (o.format.render r), .error f⟩])
        (.error (.clipboard f.message))
  | delivered :
      Delivery o r (o.written r ++ o.copied r)
        (.ok ⟨o.format.render r, r.rows.length, o.path, o.copy⟩)

section Ends

variable (env : Environment σ) (o : ExportOptions) (r : QueryResult) (b : Bench σ)

/-- Writing the file ends the export, or it succeeds. -/
theorem writeTo_ends :
    ∃ outcome b', (benchOutlets env).writeTo o.path (o.format.render r) b = (outcome, b') ∧
      b'.desk = b.desk ∧
      ((∃ path f, o.path = some path ∧ outcome = .error (.write f.message) ∧
          b.Makes env [⟨.writeFile path (o.format.render r), .error f⟩] b') ∨
        outcome = .ok () ∧ b.Makes env (o.written r) b') := by
  rw [ExportOptions.written]
  cases hPath : o.path with
  | none => exact ⟨.ok (), b, rfl, rfl, Or.inr ⟨rfl, .refl env b⟩⟩
  | some path =>
    have hMakes := Bench.Makes.ask env (.writeFile path (o.format.render r)) b
    refine ⟨_, _, writeTo_run env path _ b, rfl, ?_⟩
    cases hReply : (b.ask env (.writeFile path (o.format.render r))).1 with
    | error f =>
      rw [hReply] at hMakes
      exact Or.inl ⟨path, f, rfl, rfl, hMakes⟩
    | ok _ =>
      rw [hReply] at hMakes
      exact Or.inr ⟨rfl, hMakes⟩

/-- Copying ends the export, or it succeeds. -/
theorem copyIf_ends :
    ∃ outcome b', (benchOutlets env).copyIf o.copy (o.format.render r) b = (outcome, b') ∧
      b'.desk = b.desk ∧
      ((∃ f, o.copy = true ∧ outcome = .error (.clipboard f.message) ∧
          b.Makes env [⟨.copy (o.format.render r), .error f⟩] b') ∨
        outcome = .ok () ∧ b.Makes env (o.copied r) b') := by
  rw [ExportOptions.copied]
  cases hCopy : o.copy with
  | false => exact ⟨.ok (), b, rfl, rfl, Or.inr ⟨rfl, .refl env b⟩⟩
  | true =>
    have hMakes := Bench.Makes.ask env (.copy (o.format.render r)) b
    refine ⟨_, _, copyIf_run env _ b, rfl, ?_⟩
    cases hReply : (b.ask env (.copy (o.format.render r))).1 with
    | error f =>
      rw [hReply] at hMakes
      exact Or.inl ⟨f, rfl, rfl, hMakes⟩
    | ok _ =>
      rw [hReply] at hMakes
      exact Or.inr ⟨rfl, hMakes⟩

end Ends

/-- Where files are kept, an export that does not end with the file leaves its text there. -/
theorem Delivery.file_eq {env : Environment σ} {file : σ → String → Option String}
    (hFiles : KeepsFiles env file) {o : ExportOptions} {r : QueryResult} {talk : List Exchange}
    {outcome : Except ClientError Exported} (h : Delivery o r talk outcome) {s s' : σ}
    (hSaid : Answered env s talk s') {path : String} (hPath : o.path = some path)
    (hWritten : ∀ m, outcome ≠ .error (.write m)) : file s' path = some (o.format.render r) := by
  have hCopied : ∀ {reply s}, Answered env s [⟨.copy (o.format.render r), reply⟩] s' →
      file s' = file s := by
    intro reply s hCopy
    obtain ⟨-, hDone⟩ := hCopy.of_cons
    cases hDone
    exact hFiles.copy _ _
  have hFirst : o.written r = [⟨.writeFile path (o.format.render r), .ok ()⟩] := by
    rw [ExportOptions.written, hPath]
    rfl
  cases h with
  | notWritten _ => exact absurd rfl (hWritten _)
  | notCopied _ =>
    rw [hFirst, List.singleton_append] at hSaid
    obtain ⟨hReply, hRest⟩ := hSaid.of_cons
    rw [hCopied hRest]
    exact hFiles.write hReply
  | delivered =>
    rw [hFirst, List.singleton_append] at hSaid
    obtain ⟨hReply, hRest⟩ := hSaid.of_cons
    rw [ExportOptions.copied] at hRest
    cases hCopy : o.copy with
    | true =>
      rw [hCopy, if_pos rfl] at hRest
      rw [hCopied hRest]
      exact hFiles.write hReply
    | false =>
      rw [hCopy] at hRest
      cases hRest
      exact hFiles.write hReply

/-- **What can be relied on** where a workbench exports its result. Without a result nothing is said.
With one, the text is what `buildExport` gives, and the export ends in one of the ways of a `Delivery`.
Unless it ends with the file, the file that was asked for holds the text, wherever files are kept. -/
def Bench.Delivers (env : Environment σ) (b : Bench σ) (o : ExportOptions)
    (run : Except ClientError Exported × Bench σ) : Prop :=
  ∃ talk, b.Makes env talk run.2 ∧
    (b.desk.result = none → talk = [] ∧ run.1 = .error .noResult ∧ run.2 = b) ∧
    ∀ r, b.desk.result = some r →
      b.desk.buildExport o.format = .ok (o.format.render r) ∧ Delivery o r talk run.1 ∧
      ∀ file, KeepsFiles env file → ∀ path, o.path = some path →
        (∀ m, run.1 ≠ .error (.write m)) →
        file run.2.outside path = some (o.format.render r)

/-- What ends in one of the ways of a `Delivery` can be relied on. -/
theorem Delivery.delivers {env : Environment σ} {b : Bench σ} {o : ExportOptions} {r : QueryResult}
    (hResult : b.desk.result = some r) {talk : List Exchange}
    {run : Except ClientError Exported × Bench σ} (hMakes : b.Makes env talk run.2)
    (h : Delivery o r talk run.1) : b.Delivers env o run := by
  refine ⟨talk, hMakes, fun hNone => ?_, fun r' hSame => ?_⟩
  · rw [hResult] at hNone
    cases hNone
  · obtain rfl : r = r' := Option.some.inj (hResult.symm.trans hSame)
    refine ⟨by rw [Desk.buildExport, hResult], h, fun file hFiles path hPath hWritten => ?_⟩
    exact h.file_eq hFiles hMakes.answered hPath hWritten

/-- Every export ends in one of these ways. -/
theorem deliver_delivers (env : Environment σ) (o : ExportOptions) (b : Bench σ) :
    b.Delivers env o (deliver env o b) ∧ (deliver env o b).2.desk = b.desk := by
  rw [deliver]
  cases hResult : b.desk.result with
  | none =>
    refine ⟨⟨[], .refl env b, fun _ => ⟨rfl, rfl, rfl⟩, fun r hSome => ?_⟩, rfl⟩
    rw [hResult] at hSome
    cases hSome
  | some r =>
    obtain ⟨wrote, b₁, hWrite, hDesk₁, hWritten⟩ := writeTo_ends env o r b
    rw [exportResult]
    simp only [hWrite]
    rcases hWritten with ⟨path, f, hPath, rfl, hMakes⟩ | ⟨rfl, hMakes⟩
    · exact ⟨Delivery.delivers hResult hMakes (.notWritten hPath), hDesk₁⟩
    · obtain ⟨copied, b₂, hCopy, hDesk₂, hCopied⟩ := copyIf_ends env o r b₁
      simp only [hCopy]
      have hDesk := hDesk₂.trans hDesk₁
      rcases hCopied with ⟨f, hWanted, rfl, hMakes'⟩ | ⟨rfl, hMakes'⟩
      · exact ⟨Delivery.delivers hResult (hMakes.trans hMakes') (.notCopied hWanted), hDesk⟩
      · exact ⟨Delivery.delivers hResult (hMakes.trans hMakes') .delivered, hDesk⟩

/-! ## 3. Exports through a workbench -/

/-- An export that succeeds is reported in the status. -/
def Desk.afterExport (d : Desk) (report : Exported → String) : Except ClientError Exported → Desk
  | .ok e => { d with status := report e }
  | .error _ => d

def copyReport (format : ExportFormat) (e : Exported) : String :=
  "Copied " ++ format.label ++ " (" ++ natText e.rows ++ " rows)."

def fileReport (format : ExportFormat) (path : String) (e : Exported) : String :=
  "Saved " ++ format.label ++ " (" ++ natText e.rows ++ " rows) to " ++ path ++ "."

/-- An export through a workbench is the export, and then the report. -/
theorem deliver_reported (env : Environment σ) (o : ExportOptions) (report : Exported → String)
    (b : Bench σ) :
    (deliver env o >>= fun e => setStatus (report e) >>= fun _ => pure e) b =
      ((deliver env o b).1,
        { (deliver env o b).2 with
          desk := (deliver env o b).2.desk.afterExport report (deliver env o b).1 }) := by
  rw [Task.bind_run]
  rcases deliver env o b with ⟨e | e, b'⟩
  · rfl
  · rfl

/-- The report changes nothing that was delivered. -/
theorem Bench.Delivers.reported {env : Environment σ} {b b' : Bench σ} {o : ExportOptions}
    {outcome : Except ClientError Exported} (h : b.Delivers env o (outcome, b'))
    (report : Exported → String) :
    b.Delivers env o (outcome, { b' with desk := b'.desk.afterExport report outcome }) := by
  obtain ⟨talk, hMakes, hNone, hSome⟩ := h
  refine ⟨talk, hMakes.thenDesk _, fun hResult => ?_, hSome⟩
  obtain ⟨hTalk, hOutcome, hSame⟩ := hNone hResult
  obtain rfl : outcome = .error .noResult := hOutcome
  exact ⟨hTalk, rfl, hSame⟩

/-- **Exports deliver one text, in order.** Whatever clipboard and file system do, an export as the
options ask, a copy, and an export to a file all deliver the rendering that `buildExport` gives of the
current result. The file is written first. If that fails, the export fails with it, and nothing is copied;
if the copy fails, so does the export, and the whole text was written already; and if neither does, the
text that is returned is the one that was written and copied, with the number of rows of the result.
Without a result nothing is touched. Where a file that was written holds what was written, it then holds
the text. A copy and an export to a file report the number of rows, and nothing where they fail. -/
theorem exports_deliver (env : Environment σ) (b : Bench σ) :
    (∀ o, b.Delivers env o (deliver env o b) ∧ (deliver env o b).2.desk = b.desk) ∧
    (∀ format,
      let run := copyExport env format b
      b.Delivers env ⟨format, none, true⟩ run ∧
        run.2.desk = b.desk.afterExport (copyReport format) run.1) ∧
    ∀ format path,
      let run := exportToFile env format path b
      b.Delivers env ⟨format, some path, false⟩ run ∧
        run.2.desk = b.desk.afterExport (fileReport format path) run.1 := by
  have hReported : ∀ o report, b.Delivers env o
      ((deliver env o >>= fun e => setStatus (report e) >>= fun _ => pure e) b) ∧
      ((deliver env o >>= fun e => setStatus (report e) >>= fun _ => pure e) b).2.desk =
        b.desk.afterExport report
          ((deliver env o >>= fun e => setStatus (report e) >>= fun _ => pure e) b).1 := by
    intro o report
    obtain ⟨hDelivers, hDesk⟩ := deliver_delivers env o b
    rw [deliver_reported, ← hDesk]
    exact ⟨hDelivers.reported report, rfl⟩
  exact ⟨fun o => deliver_delivers env o b, fun format => hReported _ (copyReport format),
    fun format path => hReported _ (fileReport format path)⟩

/-- A workbench with a result of one row, on an empty disk and with no clipboard to speak of. -/
def withoutClipboard : Bench Script :=
  let b := Bench.new .standard
    { Script.ofSettings [] with refusal := some (.root "backend refused") }
  { b with desk := { b.desk with result := some ⟨["n"], [[.int 7]], 0, false, none⟩ } }

/-- The copy fails, and the file has the whole text. -/
theorem withoutClipboard_delivers :
    let run := deliver Script.environment ⟨.csv, some "out/r.csv", true⟩ withoutClipboard
    KeepsFiles Script.environment (fun s => s.world.disk.text?) ∧
      withoutClipboard.desk.buildExport .csv = .ok "n\n7" ∧
      run.1.map (fun _ => ()) = .error (.clipboard "backend refused") ∧
      run.2.outside.copies = [] ∧
      run.2.outside.world.disk.text? "out/r.csv" = some "n\n7" := by
  intro run
  have hText : ExportFormat.csv.render ⟨["n"], [[.int 7]], 0, false, none⟩ = "n\n7" := by
    decide +kernel
  obtain ⟨hDelivers, -⟩ := (exports_deliver Script.environment withoutClipboard).1
    ⟨.csv, some "out/r.csv", true⟩
  obtain ⟨talk, -, -, hSome⟩ := hDelivers
  obtain ⟨hBuilt, -, hFile⟩ := hSome _ rfl
  rw [hText] at hBuilt hFile
  have hRefused : run.1.map (fun _ => ()) = .error (.clipboard "backend refused") := rfl
  have hNotWrite : ∀ m, run.1 ≠ .error (.write m) := by
    intro m hError
    rw [hError] at hRefused
    cases hRefused
  exact ⟨Script.keepsFiles, hBuilt, hRefused, by decide +kernel,
    hFile _ Script.keepsFiles _ rfl hNotWrite⟩

end PageQuery
