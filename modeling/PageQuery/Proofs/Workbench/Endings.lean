import PageQuery.Proofs.Workbench.QueryRun
/-!
How actions end.

`Ends` has one case for each way in which the work of an action can end: what was said to the outside
by then, what the work comes to, and the desk that it leaves. `work_ends` says that there are no others,
and `trigger_ends` says the same of triggered actions. What is to be shown of the end of every action can
so be shown case by case, without following the actions again.
-/

namespace PageQuery

open Text

variable {σ : Type}

/-! ## 1. The ways to end -/

/-- How a query comes by its snapshot: it is at hand, or it is captured. -/
inductive Supplies (d : Desk) : List Exchange → Snapshot → Desk → Prop
  | atHand {s : Snapshot} : d.Reuses false → d.snapshot = some s → Supplies d [] s d
  | captured {talk : List Exchange} {s : Snapshot} {d' : Desk} :
      ¬ d.Reuses false → Captures d talk (.ok s) d' → Supplies d talk s d'

/-- A snapshot for a query changes nothing on the desk but the status and the snapshot. -/
theorem Supplies.desk_eq {d d' : Desk} {talk : List Exchange} {s : Snapshot}
    (h : Supplies d talk s d') : d' = { d with status := d'.status, snapshot := d'.snapshot } := by
  cases h with
  | atHand _ _ => rfl
  | captured _ hCaptures => exact hCaptures.desk_eq

/-- The format in which an action copies the result. -/
def Action.copied? : Action → Option ExportFormat
  | copyCsv => some .csv
  | copyJson => some .json
  | _ => none

def copiedStatus (format : ExportFormat) (r : QueryResult) : String :=
  "Copied " ++ format.label ++ " (" ++ natText r.rows.length ++ " rows)."

/-- The ways the work of an action can end, from the desk on which it began. -/
inductive Ends (d : Desk) : Action → List Exchange → Except ClientError Unit → Desk → Prop
  /-- The page is not captured. -/
  | notCaptured {talk : List Exchange} {e : ClientError} {d' : Desk} :
      Captures d talk (.error e) d' → Ends d .capture talk (.error e) d'
  | captured {talk : List Exchange} {s : Snapshot} {d' : Desk} :
      Captures d talk (.ok s) d' → Ends d .capture talk (.ok ()) d'
  /-- A query has blank inputs. -/
  | refused {e : ClientError} {editor : TokenEditor} :
      checkInputs d = .error e →
      Ends d .runQuery [] (.error e) { d with tokenEditor := editor }
  /-- A query cannot be remembered. -/
  | notRemembered {token query : String} {f : Fault} :
      checkInputs d = .ok (token, query) →
      Ends d .runQuery [⟨.writeSetting queryKey query, .error f⟩] (.error (.ofStore f)) d
  /-- A query gets no snapshot. -/
  | notSupplied {token query : String} {talk : List Exchange} {e : ClientError} {d' : Desk} :
      checkInputs d = .ok (token, query) → Captures d talk (.error e) d' →
      Ends d .runQuery (⟨.writeSetting queryKey query, .ok ()⟩ :: talk) (.error e) d'
  /-- The agent gives a query no result. -/
  | notAnswered {token query : String} {talk : List Exchange} {s : Snapshot} {d' : Desk}
      {e : ClientError} :
      checkInputs d = .ok (token, query) → Supplies d talk s d' →
      Ends d .runQuery
        (⟨.writeSetting queryKey query, .ok ()⟩ ::
          (talk ++ [⟨.query token ⟨s.html, query, d'.queryOptions⟩, .error e⟩]))
        (.error e) d'.asking
  | answered {token query : String} {talk : List Exchange} {s : Snapshot} {d' : Desk}
      {r : QueryResult} :
      checkInputs d = .ok (token, query) → Supplies d talk s d' →
      Ends d .runQuery
        (⟨.writeSetting queryKey query, .ok ()⟩ ::
          (talk ++ [⟨.query token ⟨s.html, query, d'.queryOptions⟩, .ok r⟩]))
        (.ok ()) (d'.afterAnswer s (.ok r))
  /-- There is nothing to copy. -/
  | noResult {a : Action} {format : ExportFormat} :
      a.copied? = some format → d.result = none → Ends d a [] (.error .noResult) d
  | copied {a : Action} {format : ExportFormat} {r : QueryResult} :
      a.copied? = some format → d.result = some r →
      Ends d a [⟨.copy (format.render r), .ok ()⟩] (.ok ())
        { d with status := copiedStatus format r }
  /-- The clipboard refuses the copy. -/
  | notCopied {a : Action} {format : ExportFormat} {r : QueryResult} {f : Fault} :
      a.copied? = some format → d.result = some r →
      Ends d a [⟨.copy (format.render r), .error f⟩] (.error (.clipboard f.message)) d
  /-- A blank token is saved. -/
  | cleared :
      trim d.token = "" →
      Ends d .saveToken [⟨.writeSetting tokenKey (trim d.token), .ok ()⟩] (.ok ())
        { d with token := "", tokenEditor := .forToken "" true }
  | saved :
      trim d.token ≠ "" →
      Ends d .saveToken [⟨.writeSetting tokenKey (trim d.token), .ok ()⟩] (.ok ())
        { d with
          tokenEditor := .forToken (trim d.token) false
          token := trim d.token
          status := "Token saved." }
  /-- The token cannot be saved. -/
  | notSaved {f : Fault} :
      Ends d .saveToken [⟨.writeSetting tokenKey (trim d.token), .error f⟩]
        (.error (.ofStore f)) d

/-! ## 2. Every action ends in one of them -/

/-- What a task came to on a bench is an end of the action. -/
def Bench.EndsAs (env : Environment σ) (b : Bench σ) (a : Action)
    (r : Except ClientError Unit × Bench σ) : Prop :=
  ∃ talk, b.Makes env talk r.2 ∧ Ends b.desk a talk r.1 r.2.desk

theorem capture_ends (env : Environment σ) (b : Bench σ) :
    b.EndsAs env .capture (Action.work env .capture b) := by
  have hAfresh : ¬ b.desk.Reuses true := fun h => Bool.false_ne_true h.1.symm
  obtain ⟨talk, outcome, b', hRun, hMakes, hCaptures⟩ := captureAfresh_spec env b
  rw [← capture_of_not_reuses env hAfresh] at hRun
  cases outcome with
  | ok s =>
    rw [Bench.EndsAs, Action.work, Task.bind_ok hRun]
    exact ⟨talk, hMakes, .captured hCaptures⟩
  | error e =>
    rw [Bench.EndsAs, Action.work, Task.bind_error hRun]
    exact ⟨talk, hMakes, .notCaptured hCaptures⟩

theorem runChecked_ends (env : Environment σ) {token query : String} {b : Bench σ}
    (hChecked : checkInputs b.desk = .ok (token, query)) :
    b.EndsAs env .runQuery (runChecked env token query b) := by
  let stored := b.ask env (.writeSetting queryKey query)
  have hStored : b.Makes env [⟨.writeSetting queryKey query, stored.1⟩] stored.2 :=
    .ask env (.writeSetting queryKey query) b
  have hRun : runChecked env token query b = (orStorage stored.1 >>= fun _ =>
      capture env false >>= askAgent env token query) stored.2 :=
    Task.bind_ok (ask_run env (.writeSetting queryKey query) b) _
  rw [Bench.EndsAs, hRun]
  cases hReply : stored.1 with
  | error f =>
    rw [hReply] at hStored
    exact ⟨_, hStored, .notRemembered hChecked⟩
  | ok _ =>
    rw [hReply] at hStored
    rw [Task.bind_ok (orStorage_ok _ stored.2)]
    -- With a snapshot, be it at hand or captured, it is the agent's answer that counts.
    have hAsked : ∀ {talk s b₂}, capture env false stored.2 = (.ok s, b₂) →
        stored.2.Makes env talk b₂ → Supplies b.desk talk s b₂.desk →
        b.EndsAs env .runQuery ((capture env false >>= askAgent env token query) stored.2) := by
      intro talk s b₂ hCapture hMakes hSupplies
      obtain ⟨answer, hQuery, hOutcome, hDesk⟩ := askAgent_spec env token query s b₂
      rw [Bench.EndsAs, Task.bind_ok hCapture, hOutcome, hDesk]
      refine ⟨_, hStored.trans (hMakes.trans hQuery), ?_⟩
      cases answer with
      | ok r => exact .answered hChecked hSupplies
      | error e => exact .notAnswered hChecked hSupplies
    by_cases hReuses : stored.2.desk.Reuses false
    · obtain ⟨s, hSnapshot, hCapture⟩ := capture_of_reuses env hReuses
      exact hAsked hCapture (.refl env stored.2) (.atHand hReuses hSnapshot)
    · obtain ⟨talk, outcome, b₂, hAfresh, hMakes, hCaptures⟩ := captureAfresh_spec env stored.2
      rw [← capture_of_not_reuses env hReuses] at hAfresh
      cases outcome with
      | ok s => exact hAsked hAfresh hMakes (.captured hReuses hCaptures)
      | error e =>
        rw [Task.bind_error hAfresh]
        exact ⟨_, hStored.trans hMakes, .notSupplied hChecked hCaptures⟩

theorem runQuery_ends (env : Environment σ) (b : Bench σ) :
    b.EndsAs env .runQuery (runQuery env b) := by
  cases hChecked : checkInputs b.desk with
  | error e =>
    obtain ⟨editor, hRun⟩ := runQuery_of_refused env hChecked
    rw [Bench.EndsAs, hRun]
    exact ⟨[], .desk env b _, .refused hChecked⟩
  | ok inputs =>
    rw [Bench.EndsAs, runQuery_of_checked env hChecked]
    exact runChecked_ends env hChecked

/-- A copy is one call, and fails as it does. -/
theorem deliver_copy (env : Environment σ) (format : ExportFormat) {r : QueryResult} {b : Bench σ}
    (h : b.desk.result = some r) :
    deliver env ⟨format, none, true⟩ b =
      ((b.ask env (.copy (format.render r))).1.map
        (fun _ => ⟨format.render r, r.rows.length, none, true⟩) |>.mapError
          fun f => .clipboard f.message,
        (b.ask env (.copy (format.render r))).2) := by
  rw [deliver, h]
  simp only [exportResult, Outlets.writeTo, copyIf_run]
  rcases b.ask env (.copy (format.render r)) with ⟨reply, b'⟩
  cases reply with
  | ok _ => rfl
  | error f => rfl

theorem copyExport_ends (env : Environment σ) {a : Action} {format : ExportFormat}
    (h : a.copied? = some format) (b : Bench σ) :
    b.EndsAs env a ((do let _ ← copyExport env format : Task σ Unit) b) := by
  cases hResult : b.desk.result with
  | none =>
    have hRun : deliver env ⟨format, none, true⟩ b = (.error .noResult, b) := by
      rw [deliver, hResult]
      rfl
    have hWork : copyExport env format b = (.error .noResult, b) := Task.bind_error hRun _
    rw [Bench.EndsAs, Task.bind_error hWork]
    exact ⟨[], .refl env b, .noResult h hResult⟩
  | some r =>
    have hRun := deliver_copy env format hResult
    have hMakes := Bench.Makes.ask env (.copy (format.render r)) b
    cases hReply : (b.ask env (.copy (format.render r))).1 with
    | error f =>
      rw [hReply] at hRun hMakes
      have hWork := Task.bind_error hRun fun e => do
        setStatus ("Copied " ++ format.label ++ " (" ++ natText e.rows ++ " rows).")
        return e
      rw [Bench.EndsAs, Task.bind_error (t := copyExport env format) hWork]
      exact ⟨_, hMakes, .notCopied h hResult⟩
    | ok _ =>
      rw [hReply] at hRun hMakes
      have hWork := Task.bind_ok hRun fun e => do
        setStatus ("Copied " ++ format.label ++ " (" ++ natText e.rows ++ " rows).")
        return e
      rw [Bench.EndsAs, Task.bind_ok (t := copyExport env format) hWork]
      exact ⟨_, hMakes.thenDesk _, .copied h hResult⟩

theorem saveToken_ends (env : Environment σ) (b : Bench σ) :
    b.EndsAs env .saveToken (saveToken env b) := by
  let stored := b.ask env (.writeSetting tokenKey (trim b.desk.token))
  have hStored : b.Makes env [⟨.writeSetting tokenKey (trim b.desk.token), stored.1⟩] stored.2 :=
    .ask env _ b
  have hRun : saveToken env b =
      (orStorage stored.1 >>= fun _ => noteSaved (trim b.desk.token)) stored.2 := by
    rw [saveToken_eq, Task.bind_ok (theDesk_run b), Task.bind_ok (ask_run env _ b)]
  rw [Bench.EndsAs, hRun]
  cases hReply : stored.1 with
  | error f =>
    rw [hReply] at hStored
    exact ⟨_, hStored, .notSaved⟩
  | ok _ =>
    rw [hReply] at hStored
    rw [Task.bind_ok (orStorage_ok _ stored.2), noteSaved]
    by_cases hToken : trim b.desk.token = ""
    · rw [if_pos hToken]
      exact ⟨_, hStored.thenDesk _, .cleared hToken⟩
    · rw [if_neg hToken]
      exact ⟨_, hStored.thenDesk _, .saved hToken⟩

/-- **Every action ends in one of these ways.** -/
theorem work_ends (env : Environment σ) (a : Action) (b : Bench σ) :
    b.EndsAs env a (a.work env b) := by
  cases a with
  | capture => exact capture_ends env b
  | runQuery => exact runQuery_ends env b
  | copyCsv => exact copyExport_ends env rfl b
  | copyJson => exact copyExport_ends env rfl b
  | saveToken => exact saveToken_ends env b

/-- A triggered action, unless the gate is held, ends as its work does on a desk with the gate held;
then the gate is given back, and a failure is shown. -/
theorem trigger_ends (env : Environment σ) (a : Action) {b : Bench σ}
    (h : b.desk.gate.isHeld = false) :
    ∃ talk d', b.Makes env talk (trigger env a b).2 ∧
      Ends { b.desk with gate := ⟨true⟩ } a talk (trigger env a b).1 d' ∧
      (trigger env a b).2.desk = d'.afterWork (trigger env a b).1 := by
  obtain ⟨talk, hMakes, hEnds⟩ :=
    work_ends env a { b with desk := { b.desk with gate := ⟨true⟩ } }
  rw [trigger_free env a h]
  exact ⟨talk, _, ((Bench.Makes.desk env b _).trans hMakes).thenDesk _, hEnds, rfl⟩

end PageQuery
