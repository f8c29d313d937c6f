import PageQuery.Proofs.Workbench.Endings
import PageQuery.Proofs.Workbench.Operations
import PageQuery.Proofs.Workbench.Scripted
/-!
What the status says of the actions so far.

A failed action puts its error into the status, and what a successful one puts there is never read as
an error. Only a saved blank token leaves the status as it was. So an error stays on display over a
success in that case alone, and `errorShown` tells it from the actions of a run.
-/

namespace PageQuery

open Text

variable {σ : Type}

/-! ## 1. Errors in the status -/

/-- The status is read as an error. -/
def ShowsError (status : String) : Prop := "Error: ".toList <+: status.toList

instance (status : String) : Decidable (ShowsError status) :=
  inferInstanceAs (Decidable ("Error: ".toList <+: status.toList))

theorem showsError_errorStatus (e : ClientError) : ShowsError (errorStatus e) := by
  rw [ShowsError, errorStatus, String.toList_append]
  exact List.prefix_append _ _

/-- An error is told by the first letter already. -/
theorem ShowsError.head? {status : String} (h : ShowsError status) :
    status.toList.head? = some 'E' := by
  obtain ⟨rest, hStatus⟩ := h
  rw [← hStatus]
  rfl

theorem not_showsError_ready : ¬ ShowsError readyStatus := by decide

theorem head?_toList_append {first : String} {c : Char} (h : first.toList.head? = some c) (rest : String) :
    (first ++ rest).toList.head? = some c := by
  rw [String.toList_append, List.head?_append, h, Option.some_or]

/-- What begins with another letter is not read as an error. -/
theorem not_showsError_of_head {status : String} {c : Char} (h : status.toList.head? = some c)
    (hOther : c ≠ 'E') : ¬ ShowsError status := by
  intro hError
  rw [hError.head?] at h
  exact hOther (Option.some.inj h).symm

theorem not_showsError_captured (s : Snapshot) (cached : Bool) :
    ¬ ShowsError (capturedStatus s cached) := by
  refine not_showsError_of_head (c := 'C') ?_ (by decide)
  iterate 8 refine head?_toList_append ?_ _
  decide

theorem not_showsError_query (bytes : Nat) (r : QueryResult) :
    ¬ ShowsError (queryStatus bytes r) := by
  refine not_showsError_of_head (c := 'S') ?_ (by decide)
  iterate 7 refine head?_toList_append ?_ _
  decide

theorem not_showsError_copied (format : ExportFormat) (r : QueryResult) :
    ¬ ShowsError (copiedStatus format r) := by
  refine not_showsError_of_head (c := 'C') ?_ (by decide)
  iterate 4 refine head?_toList_append ?_ _
  decide

theorem not_showsError_saved : ¬ ShowsError "Token saved." := by decide

/-! ## 2. One action -/

/-- The action saves a blank token. -/
def Action.ClearsToken (a : Action) (d : Desk) : Prop := a = .saveToken ∧ trim d.token = ""

instance (a : Action) (d : Desk) : Decidable (a.ClearsToken d) :=
  inferInstanceAs (Decidable (_ ∧ _))

/-- After a success the status is not read as an error, but that after a saved blank token it is what
it was. -/
theorem Ends.status_of_ok {d d' : Desk} {a : Action} {talk : List Exchange}
    (h : Ends d a talk (.ok ()) d') :
    (a.ClearsToken d ∧ d'.status = d.status) ∨ ¬ a.ClearsToken d ∧ ¬ ShowsError d'.status := by
  have hOther : a ≠ .saveToken → ¬ a.ClearsToken d := fun hAction hClears => hAction hClears.1
  cases h with
  | captured hCaptures =>
    cases hCaptures with
    | taken stored _ _ _ => exact Or.inr ⟨hOther (by simp), not_showsError_captured _ _⟩
  | answered _ _ => exact Or.inr ⟨hOther (by simp), not_showsError_query _ _⟩
  | copied hFormat _ =>
    refine Or.inr ⟨hOther ?_, not_showsError_copied _ _⟩
    rintro rfl
    cases hFormat
  | cleared hBlank => exact Or.inl ⟨⟨rfl, hBlank⟩, rfl⟩
  | saved hToken => exact Or.inr ⟨fun hClears => hToken hClears.2, not_showsError_saved⟩

/-- The error on display: the status is the error's, or else is not read as one. -/
def Displays (status : String) : Option ClientError → Prop
  | some e => status = errorStatus e
  | none => ¬ ShowsError status

theorem Displays.showsError_iff {status : String} {shown : Option ClientError}
    (h : Displays status shown) : ShowsError status ↔ ∃ e, shown = some e := by
  cases shown with
  | none =>
    constructor
    · intro hShows
      exact absurd hShows h
    · rintro ⟨e, ⟨⟩⟩
  | some e =>
    rw [show status = errorStatus e from h]
    exact ⟨fun _ => ⟨e, rfl⟩, fun _ => showsError_errorStatus e⟩

/-- The error on display after an action, from the one before. A refused action and a saved blank token
leave it. -/
def errorAfter (env : Environment σ) (a : Action) (b : Bench σ) (shown : Option ClientError) :
    Option ClientError :=
  if b.desk.gate.isHeld = true then shown
  else
    match (trigger env a b).1 with
    | .error e => some e
    | .ok _ => if a.ClearsToken b.desk then shown else none

section Step

variable {env : Environment σ} {a : Action} {b : Bench σ}

/-- After a failure the status is its error's. -/
theorem status_of_error (hFree : b.desk.gate.isHeld = false) {e : ClientError}
    (hFailed : (trigger env a b).1 = .error e) :
    (trigger env a b).2.desk.status = errorStatus e := by
  obtain ⟨-, d', -, -, hDesk⟩ := trigger_ends env a hFree
  rw [hDesk, hFailed]
  rfl

/-- After a success the status is as `Ends.status_of_ok` says. -/
theorem status_of_success (hFree : b.desk.gate.isHeld = false) (hOk : (trigger env a b).1 = .ok ()) :
    (a.ClearsToken b.desk ∧ (trigger env a b).2.desk.status = b.desk.status) ∨
      ¬ a.ClearsToken b.desk ∧ ¬ ShowsError (trigger env a b).2.desk.status := by
  obtain ⟨talk, d', -, hEnds, hDesk⟩ := trigger_ends env a hFree
  rw [hOk] at hEnds
  rw [hDesk, hOk]
  exact hEnds.status_of_ok

theorem displays_trigger {shown : Option ClientError} (h : Displays b.desk.status shown) :
    Displays (trigger env a b).2.desk.status (errorAfter env a b shown) := by
  rw [errorAfter]
  cases hHeld : b.desk.gate.isHeld with
  | true =>
    rw [trigger_held env a hHeld]
    exact h
  | false =>
    cases hOutcome : (trigger env a b).1 with
    | error e => exact status_of_error hHeld hOutcome
    | ok _ =>
      rcases status_of_success hHeld hOutcome with ⟨hClears, hSame⟩ | ⟨hNot, hNoError⟩
      · simp only [hSame, hClears, if_true]
        exact h
      · simp only [hNot, if_false]
        exact hNoError

end Step

/-! ## 3. Runs -/

namespace Operation

/-- Actions are triggered, fields are typed in, and others may hold the gate. -/
def IsByHand : Operation → Prop
  | trigger _ | editToken | typeToken _ | typeQuery _ | typeMaxRows _ | typeTimeout _
  | setGate _ => True
  | restore | capture _ | runQuery | saveToken | copyExport _ | exportToFile _ _ | reopen _ => False

/-- The error on display after an operation by hand, from the one before. -/
def errorAfter (env : Environment σ) : Operation → Bench σ → Option ClientError → Option ClientError
  | trigger a, b, shown => PageQuery.errorAfter env a b shown
  | _, _, shown => shown

theorem displays_perform {env : Environment σ} {op : Operation} (hOp : op.IsByHand) {b : Bench σ}
    {shown : Option ClientError} (h : Displays b.desk.status shown) :
    Displays (op.perform env b).2.desk.status (op.errorAfter env b shown) := by
  cases op with
  | trigger a => exact displays_trigger h
  | editToken | typeToken | typeQuery | typeMaxRows | typeTimeout | setGate => exact h
  | restore | capture | runQuery | saveToken | copyExport | exportToFile | reopen => cases hOp

end Operation

/-- The error on display after a run, from the one before. -/
def Bench.errorShown (env : Environment σ) :
    List Operation → Bench σ → Option ClientError → Option ClientError
  | [], _, shown => shown
  | op :: rest, b, shown =>
      Bench.errorShown env rest (op.perform env b).2 (op.errorAfter env b shown)

/-- Over every run the status displays the error that the run tells. -/
theorem displays_run (env : Environment σ) : ∀ (ops : List Operation) {b : Bench σ}
    {shown : Option ClientError}, (∀ op ∈ ops, op.IsByHand) → Displays b.desk.status shown →
    Displays (Bench.run env ops b).desk.status (Bench.errorShown env ops b shown)
  | [], _, _, _, h => h
  | op :: rest, _, _, hOps, h =>
      displays_run env rest (fun op hMem => hOps op (List.mem_cons_of_mem _ hMem))
        (Operation.displays_perform (hOps op List.mem_cons_self) h)

/-- **When the status is read as an error.** Over any run by hand from a bench that shows no error, and
with any outside, let an action be triggered with the gate free. If it fails, the status is "Error: "
and its error. If it succeeds the status is not read as an error, except that a saved blank token
leaves the status as it was. So the status and the outcome disagree exactly if a blank token is saved
while an error from before, which the run tells, is on display. -/
theorem trigger_status (env : Environment σ) {start : Bench σ}
    (hStart : ¬ ShowsError start.desk.status) {ops : List Operation}
    (hOps : ∀ op ∈ ops, op.IsByHand) (a : Action)
    (hFree : (Bench.run env ops start).desk.gate.isHeld = false) :
    let b := Bench.run env ops start
    let outcome := (trigger env a b).1
    let status := (trigger env a b).2.desk.status
    let before := Bench.errorShown env ops start none
    (∀ e, outcome = .error e → status = errorStatus e) ∧
    (outcome = .ok () → ¬ a.ClearsToken b.desk → ¬ ShowsError status) ∧
    (outcome = .ok () → a.ClearsToken b.desk →
      status = b.desk.status ∧ Displays status before) ∧
    ((ShowsError status ↔ ∃ e, outcome = .error e) ↔
      ¬ (outcome = .ok () ∧ a.ClearsToken b.desk ∧ ∃ e, before = some e)) := by
  intro b outcome status before
  have hBefore : Displays b.desk.status before := displays_run env ops hOps hStart
  cases hOutcome : outcome with
  | error e =>
    have hStatus : status = errorStatus e := status_of_error hFree hOutcome
    refine ⟨?_, ?_, ?_, ?_⟩
    · rintro _ ⟨⟩
      exact hStatus
    · rintro ⟨⟩
    · rintro ⟨⟩
    · have hShows : ShowsError status := hStatus ▸ showsError_errorStatus e
      simp [hShows]
  | ok _ =>
    rcases status_of_success hFree hOutcome with ⟨hClears, hSame⟩ | ⟨hNot, hNoError⟩
    · have hStatus : Displays status before := by
        rw [show status = b.desk.status from hSame]
        exact hBefore
      refine ⟨?_, fun _ hNot => absurd hClears hNot, fun _ _ => ⟨hSame, hStatus⟩, ?_⟩
      · rintro _ ⟨⟩
      · simp [hStatus.showsError_iff, show a.ClearsToken b.desk from hClears]
    · refine ⟨?_, fun _ _ => hNoError, fun _ hClears => absurd hClears hNot, ?_⟩
      · rintro _ ⟨⟩
      · simp [show ¬ ShowsError status from hNoError, show ¬ a.ClearsToken b.desk from hNot]

/-- A query without a token fails, and its error is still on display when a blank token is saved. -/
theorem error_shown_over_success :
    let b := Bench.run Script.environment [.trigger .runQuery]
      (.new .standard (.ofSettings []))
    let saved := trigger Script.environment .saveToken b
    saved.1 = .ok () ∧ saved.2.desk.status = errorStatus .missingToken ∧
      ¬ (ShowsError saved.2.desk.status ↔ ∃ e, saved.1 = .error e) := by
  intro b saved
  have hClears : Action.saveToken.ClearsToken b.desk := ⟨rfl, by decide⟩
  have hSaved : saved.1 = .ok () := rfl
  have hBefore : Bench.errorShown Script.environment [.trigger .runQuery]
      (.new .standard (.ofSettings [])) none = some .missingToken := rfl
  have hStart : ¬ ShowsError (Bench.new .standard (Script.ofSettings [])).desk.status :=
    not_showsError_ready
  have hOps : ∀ op ∈ [Operation.trigger .runQuery], op.IsByHand := by simp [Operation.IsByHand]
  obtain ⟨-, -, hKept, hAgree⟩ := trigger_status Script.environment hStart hOps .saveToken rfl
  obtain ⟨-, hStatus⟩ := hKept hSaved hClears
  rw [hBefore] at hStatus
  exact ⟨hSaved, hStatus, fun h => hAgree.mp h ⟨hSaved, hClears, _, hBefore⟩⟩

end PageQuery
