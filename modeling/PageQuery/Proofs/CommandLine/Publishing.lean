import PageQuery.CommandLine.Query
import PageQuery.Proofs.Workbench.Endings
import PageQuery.Proofs.Workbench.Exports
/-!
What a query gives out.

A query from the command line restores, saves a token, takes its inputs and asks the agent, and any of that
can fail. None of it gives anything out: no file, no copy, and nothing is printed but notes. `IsQuiet` says
so of an exchange and of a job. What comes after the agent's answer is the export of that one result, and
`Published` puts the two together: either everything is quiet, or everything is up to an answer, and then
the result of that answer is printed or written, and copied. `publishes_queryOnBench` is the statement.
-/

namespace PageQuery

variable {σ α β : Type}

/-! ## 1. Quiet exchanges -/

/-- The call takes a text out of the workbench. -/
def Call.Exports : Call → Prop
  | copy _ | writeFile _ _ => True
  | _ => False

/-- The call concerns neither the agent nor anything that is given out. -/
def Call.IsPrivate : Call → Prop
  | query _ _ | copy _ | writeFile _ _ => False
  | _ => True

instance : DecidablePred Call.IsPrivate
  | .query _ _ | .copy _ | .writeFile _ _ => .isFalse id
  | .activeTab | .capture _ | .readSetting _ | .writeSetting _ _ | .readSession _ | .writeSession _ =>
    .isTrue trivial

/-- Nothing is given out, and the agent returns no result. -/
structure Exchange.IsQuiet (x : Exchange) : Prop where
  not_exports : ¬ x.call.Exports
  not_returns (r : QueryResult) : ¬ x.Returns r

namespace Exchange

theorem isQuiet_of_private {x : Exchange} (h : x.call.IsPrivate) : x.IsQuiet where
  not_exports hExports := by
    obtain ⟨c, reply⟩ := x
    cases c with
    | copy _ | writeFile _ _ => exact h
    | _ => exact hExports
  not_returns r := by
    rintro ⟨token, request, rfl⟩
    exact h

/-- A query that the agent does not answer with a result is quiet. -/
theorem isQuiet_of_query_error (token : String) (request : QueryRequest) (e : ClientError) :
    IsQuiet ⟨.query token request, .error e⟩ where
  not_exports := id
  not_returns r := by
    rintro ⟨token', request', hSame⟩
    cases hSame

end Exchange

theorem Call.IsOfCapture.isPrivate {c : Call} (h : c.IsOfCapture) : c.IsPrivate := by
  cases c with
  | query _ _ | copy _ | writeFile _ _ => exact h
  | _ => trivial

theorem Captures.isQuiet {d d' : Desk} {talk : List Exchange}
    {outcome : Except ClientError Snapshot} (h : Captures d talk outcome d') :
    ∀ x ∈ talk, x.IsQuiet :=
  fun x hMem => Exchange.isQuiet_of_private (h.isOfCapture x hMem).isPrivate

theorem Supplies.isQuiet {d d' : Desk} {talk : List Exchange} {s : Snapshot}
    (h : Supplies d talk s d') : ∀ x ∈ talk, x.IsQuiet := by
  cases h with
  | atHand _ _ => simp
  | captured _ hCaptures => exact hCaptures.isQuiet

/-- Between two benches all was quiet. -/
def Hushed (env : Environment σ) (b b' : Bench σ) : Prop :=
  ∃ talk, b.Makes env talk b' ∧ ∀ x ∈ talk, x.IsQuiet

theorem preserves_hushed (env : Environment σ) :
    Preserves env Call.IsPrivate (fun _ => ()) (Hushed env) where
  refl b := ⟨[], .refl env b, by simp⟩
  trans := by
    rintro b₁ b₂ b₃ ⟨first, hFirst, hQuiet⟩ ⟨second, hSecond, hQuiet'⟩
    exact ⟨_, hFirst.trans hSecond, List.forall_mem_append.mpr ⟨hQuiet, hQuiet'⟩⟩
  ask hPrivate b := ⟨_, .ask env _ b, by simpa using Exchange.isQuiet_of_private hPrivate⟩
  onDesk _ b := ⟨[], .desk env b _, by simp⟩

theorem restore_hushed (env : Environment σ) : (restore env).Moves (Hushed env) := by
  have hKeeps := preserves_hushed env
  exact hKeeps.restore (fun _ => trivial) (fun _ => trivial) (fun _ => trivial)
    (fun _ _ _ _ _ => rfl) (hKeeps.restoreSnapshot (fun _ => trivial) (fun _ => trivial)
      fun _ _ => rfl)

theorem trigger_saveToken_hushed (env : Environment σ) :
    (trigger env .saveToken).Moves (Hushed env) := by
  have hKeeps := preserves_hushed env
  exact hKeeps.trigger (a := .saveToken)
    (hKeeps.saveToken (fun _ => trivial) fun _ _ _ _ => rfl) (fun _ _ => rfl) fun _ _ => rfl

/-! ## 2. How a query ends -/

/-- A query ends quietly and fails, or the agent returned a result in the end. -/
inductive Concludes (env : Environment σ) (b : Bench σ) : Except ClientError Unit × Bench σ → Prop
  | unanswered {e : ClientError} {b' : Bench σ} : Hushed env b b' → Concludes env b (.error e, b')
  | answered {before : List Exchange} {token : String} {request : QueryRequest} {r : QueryResult}
      {b' : Bench σ} : (∀ x ∈ before, x.IsQuiet) →
      b.Makes env (before ++ [⟨.query token request, .ok r⟩]) b' → b'.desk.result = some r →
      b'.desk.gate.isHeld = false → Concludes env b (.ok (), b')

theorem concludes_trigger (env : Environment σ) (b : Bench σ) :
    Concludes env b (trigger env .runQuery b) := by
  cases hHeld : b.desk.gate.isHeld with
  | true =>
    rw [trigger_held env .runQuery hHeld]
    exact .unanswered ((preserves_hushed env).refl b)
  | false =>
    obtain ⟨talk, d', hMakes, hEnds, hDesk⟩ := trigger_ends env .runQuery hHeld
    rcases hRun : trigger env .runQuery b with ⟨outcome, b'⟩
    rw [hRun] at hMakes hEnds hDesk
    have hStored : ∀ query stored, Exchange.IsQuiet ⟨.writeSetting queryKey query, stored⟩ :=
      fun _ _ => Exchange.isQuiet_of_private trivial
    cases hEnds with
    | refused _ => exact .unanswered ⟨_, hMakes, by simp⟩
    | notRemembered _ => exact .unanswered ⟨_, hMakes, by simpa using hStored _ _⟩
    | notSupplied _ hCaptures =>
      exact .unanswered ⟨_, hMakes, List.forall_mem_cons.mpr ⟨hStored _ _, hCaptures.isQuiet⟩⟩
    | @notAnswered _ _ _ _ _ e _ hSupplies =>
      have hAsked := Exchange.isQuiet_of_query_error
      refine .unanswered ⟨_, hMakes, List.forall_mem_cons.mpr ⟨hStored _ _, ?_⟩⟩
      exact List.forall_mem_append.mpr ⟨hSupplies.isQuiet, by simpa using hAsked _ _ e⟩
    | answered _ hSupplies =>
      refine .answered (List.forall_mem_cons.mpr ⟨hStored _ _, hSupplies.isQuiet⟩) hMakes ?_ ?_
      · rw [show b'.desk = _ from hDesk]
        rfl
      · rw [show b'.desk = _ from hDesk]
        rfl
    | noResult hFormat _ | copied hFormat _ | notCopied hFormat _ => cases hFormat

/-- The result is exported to a file, or else the export ends with the file. -/
theorem exportToFile_ends (env : Environment σ) (o : ExportOptions) {path : String}
    (hPath : o.path = some path) {r : QueryResult} {b : Bench σ} (hResult : b.desk.result = some r) :
    ∃ outcome b', exportToFile env o.format path b = (outcome, b') ∧
      b'.desk = { b.desk with status := b'.desk.status } ∧
      ((∃ e f, outcome = .error e ∧
          b.Makes env [⟨.writeFile path (o.format.render r), .error f⟩] b') ∨
        (∃ e, outcome = .ok e) ∧ b.Makes env (o.written r) b') := by
  have hWritten : o.written r = ExportOptions.written ⟨o.format, some path, false⟩ r := by
    rw [ExportOptions.written, hPath]
    rfl
  obtain ⟨⟨talk, hMakes, -, hDelivers⟩, hDesk⟩ :=
    deliver_delivers env ⟨o.format, some path, false⟩ b
  obtain ⟨-, hDelivery, -⟩ := hDelivers r hResult
  refine ⟨_, _, deliver_reported env _ (fileReport o.format path) b, ?_, ?_⟩
  · rw [hDesk]
    cases (deliver env ⟨o.format, some path, false⟩ b).1 with
    | ok e => rfl
    | error e => rfl
  · generalize (deliver env ⟨o.format, some path, false⟩ b).1 = outcome at hDelivery
    cases hDelivery with
    | @notWritten _ f hSame =>
      obtain rfl := Option.some.inj hSame
      exact Or.inl ⟨_, f, rfl, hMakes.thenDesk _⟩
    | notCopied hCopy => cases hCopy
    | delivered =>
      rw [hWritten]
      exact Or.inr ⟨⟨_, rfl⟩, by simpa [ExportOptions.copied] using hMakes.thenDesk _⟩

/-- What is said as a result is copied. -/
theorem Ends.of_copy {format : ExportFormat} {d d' : Desk} {r : QueryResult} {talk : List Exchange}
    {outcome : Except ClientError Unit}
    (h : Ends d (CommandLine.copyAction format) talk outcome d') (hResult : d.result = some r) :
    ∃ reply, talk = [⟨.copy (format.render r), reply⟩] := by
  have hFormat : (CommandLine.copyAction format).copied? = some format := by
    cases format with
    | csv => rfl
    | json => rfl
  generalize CommandLine.copyAction format = a at h hFormat
  cases h with
  | noResult _ hNone =>
    rw [hResult] at hNone
    cases hNone
  | copied hSame hSome | notCopied hSame hSome =>
    obtain rfl := Option.some.inj (hFormat.symm.trans hSame)
    obtain rfl := Option.some.inj (hResult.symm.trans hSome)
    exact ⟨_, rfl⟩
  | _ => cases hFormat

/-- What is printed as a result is given out: the rendering and the end of its line, or nothing if there is
a file for it. -/
def ExportOptions.printed (o : ExportOptions) (r : QueryResult) : String :=
  if o.path = none then o.format.render r ++ "\n" else ""

/-- The ways in which a query can end for those who wait for its result. Without an answer of the agent
everything is quiet and nothing is printed. Otherwise everything up to the answer is quiet, and its result
is exported as the options ask, and printed if there is no file for it. -/
inductive Published (o : ExportOptions) : List Exchange → String → Prop
  | unanswered {talk : List Exchange} : (∀ x ∈ talk, x.IsQuiet) → Published o talk ""
  | answered {before exports : List Exchange} {token : String} {request : QueryRequest}
      {r : QueryResult} {outcome : Except ClientError Exported} :
      (∀ x ∈ before, x.IsQuiet) → Delivery o r exports outcome →
      Published o (before ++ ⟨.query token request, .ok r⟩ :: exports) (o.printed r)

theorem Published.after {o : ExportOptions} {before talk : List Exchange} {out : String}
    (h : Published o talk out) (hBefore : ∀ x ∈ before, x.IsQuiet) :
    Published o (before ++ talk) out := by
  cases h with
  | unanswered hQuiet => exact .unanswered (List.forall_mem_append.mpr ⟨hBefore, hQuiet⟩)
  | answered hQuiet hDelivery =>
    rw [← List.append_assoc]
    exact .answered (List.forall_mem_append.mpr ⟨hBefore, hQuiet⟩) hDelivery

namespace CommandLine

/-! ## 3. Jobs on a bench -/

theorem Job.bind_run (j : Job σ α) (f : α → Job σ β) (s : Shell σ) :
    (j >>= f) s =
      match j s with
      | (.ok a, s') => f a s'
      | (.error e, s') => (.error e, s') := by
  show ExceptT.bindCont f (j s).1 (j s).2 = _
  rcases j s with ⟨a | e, s'⟩ <;> rfl

theorem Job.bind_ok {j : Job σ α} {s s' : Shell σ} {a : α} (h : j s = (.ok a, s'))
    (f : α → Job σ β) : (j >>= f) s = f a s' := by
  rw [bind_run, h]

theorem Job.bind_error {j : Job σ α} {s s' : Shell σ} {e : String} (h : j s = (.error e, s'))
    (f : α → Job σ β) : (j >>= f) s = (.error e, s') := by
  rw [bind_run, h]

/-- A task is done on the bench, prints nothing, and stops a job if it fails. -/
theorem onBench_run (t : Task σ α) (s : Shell (Bench σ)) :
    onBench t s = ((t s.state).1.mapError ClientError.message, ⟨(t s.state).2, s.printed⟩) := by
  unfold onBench
  rw [Job.bind_run]
  show (change (fun _ => (t s.state).2) >>= fun _ => orStopWith (t s.state).1 :
    Job (Bench σ) α) s = _
  rw [Job.bind_run]
  show orStopWith (t s.state).1 ⟨(t s.state).2, s.printed⟩ = _
  cases (t s.state).1 with
  | ok a => rfl
  | error e => rfl

variable {env : Environment σ}

/-- A job gives nothing out. -/
def Job.IsQuiet (env : Environment σ) (j : Job (Bench σ) α) : Prop :=
  ∀ s, Hushed env s.state (j s).2.state ∧ (j s).2.printed.out = s.printed.out

theorem Job.IsQuiet.bind {j : Job (Bench σ) α} {f : α → Job (Bench σ) β} (hj : j.IsQuiet env)
    (hf : ∀ a, (f a).IsQuiet env) : Job.IsQuiet env (j >>= f) := by
  intro s
  have hFirst := hj s
  rw [Job.bind_run]
  rcases hRun : j s with ⟨a | e, s'⟩
  · rw [hRun] at hFirst
    exact hFirst
  · rw [hRun] at hFirst
    obtain ⟨hHushed, hOut⟩ := hf _ s'
    exact ⟨(preserves_hushed env).trans hFirst.1 hHushed, hOut.trans hFirst.2⟩

theorem Job.IsQuiet.pure (a : α) : Job.IsQuiet env (Pure.pure a) :=
  fun s => ⟨(preserves_hushed env).refl s.state, rfl⟩

theorem Job.IsQuiet.onBench {t : Task σ α} (h : t.Moves (Hushed env)) :
    (onBench t).IsQuiet env := by
  intro s
  rw [onBench_run]
  exact ⟨h s.state, rfl⟩

theorem Job.IsQuiet.takeToken (a : QueryArguments) : (takeToken env a).IsQuiet env := by
  unfold CommandLine.takeToken
  cases a.token with
  | none => exact .pure ()
  | some token =>
    refine .bind (.onBench ((preserves_hushed env).onDesk fun _ => rfl)) fun _ => ?_
    cases a.saveToken with
    | false => exact .pure ()
    | true => exact .onBench (trigger_saveToken_hushed env)

/-- A job publishes what a query may. -/
def Job.Publishes (env : Environment σ) (o : ExportOptions) (j : Job (Bench σ) Unit) : Prop :=
  ∀ s, ∃ talk out, s.state.Makes env talk (j s).2.state ∧ Published o talk out ∧
    (j s).2.printed.out = s.printed.out ++ out

theorem Job.Publishes.after {o : ExportOptions} {j : Job (Bench σ) α}
    {f : α → Job (Bench σ) Unit} (hj : j.IsQuiet env) (hf : ∀ a, (f a).Publishes env o) :
    Job.Publishes env o (j >>= f) := by
  intro s
  obtain ⟨⟨before, hBefore, hQuiet⟩, hSame⟩ := hj s
  rw [Job.bind_run]
  rcases hRun : j s with ⟨e | a, s'⟩
  · rw [hRun] at hBefore hSame
    exact ⟨before, "", hBefore, .unanswered hQuiet, by simpa using hSame⟩
  · rw [hRun] at hBefore hSame
    obtain ⟨talk, out, hMakes, hPublished, hOut⟩ := hf a s'
    refine ⟨_, out, hBefore.trans hMakes, hPublished.after hQuiet, ?_⟩
    rw [hOut, show s'.printed.out = s.printed.out from hSame]

/-! ## 4. Giving out a result -/

/-- Copy the result, and note how it went. -/
def copyResult (env : Environment σ) (format : ExportFormat) : Job (Bench σ) Unit := do
  onBench (trigger env (copyAction format))
  noteStatus

/-- What a query does with its result. -/
def publish (env : Environment σ) (format : ExportFormat) (a : QueryArguments) :
    Job (Bench σ) Unit := do
  noteStatus
  deliverResult env format a.output
  if a.copy then copyResult env format

theorem queryOnBench_eq (env : Environment σ) (a : QueryArguments) (query : String)
    (format : ExportFormat) :
    queryOnBench env a query format = onBench (restore env) >>= fun _ =>
      takeToken env a >>= fun _ => onBench (onDesk (withInputs a query)) >>= fun _ =>
        onBench (trigger env .runQuery) >>= fun _ => publish env format a := rfl

section Results

variable (env) (o : ExportOptions) {r : QueryResult} {s : Shell (Bench σ)}
variable (hResult : s.state.desk.result = some r)

include hResult

/-- A result is printed or written, or else the query ends with the file. -/
theorem deliverResult_ends :
    ∃ outcome s', deliverResult env o.format o.path s = (outcome, s') ∧
      s'.printed.out = s.printed.out ++ o.printed r ∧
      ((∃ message path f, outcome = .error message ∧ o.path = some path ∧
          s.state.Makes env [⟨.writeFile path (o.format.render r), .error f⟩] s'.state) ∨
        outcome = .ok () ∧ s.state.Makes env (o.written r) s'.state ∧
          s'.state.desk = { s.state.desk with status := s'.state.desk.status }) := by
  cases hPath : o.path with
  | none =>
    have hBuilt : s.state.desk.buildExport o.format = .ok (o.format.render r) := by
      rw [Desk.buildExport, hResult]
    have hRun : deliverResult env o.format none s =
        (orStopWith (s.state.desk.buildExport o.format) >>= emit) s := rfl
    rw [hRun, hBuilt]
    refine ⟨_, _, rfl, ?_, Or.inr ⟨rfl, ?_, rfl⟩⟩
    · simp [ExportOptions.printed, hPath, String.append_assoc]
    · rw [ExportOptions.written, hPath]
      exact .refl env s.state
  | some path =>
    have hSilent : o.printed r = "" := by simp [ExportOptions.printed, hPath]
    obtain ⟨outcome, b', hExport, hDesk, hEnds⟩ := exportToFile_ends env o hPath hResult
    have hRun : deliverResult env o.format (some path) s =
        (onBench (exportToFile env o.format path) >>= fun _ => noteStatus) s := rfl
    rw [hRun, Job.bind_run, onBench_run, hExport, hSilent]
    rcases hEnds with ⟨e, f, rfl, hMakes⟩ | ⟨⟨e, rfl⟩, hMakes⟩
    · exact ⟨_, _, rfl, by simp, Or.inl ⟨_, path, f, rfl, rfl, hMakes⟩⟩
    · exact ⟨_, _, rfl, by simp, Or.inr ⟨rfl, hMakes, hDesk⟩⟩

variable (hFree : s.state.desk.gate.isHeld = false)

include hFree

theorem copyResult_says : ∃ reply,
    s.state.Makes env [⟨.copy (o.format.render r), reply⟩] (copyResult env o.format s).2.state ∧
      (copyResult env o.format s).2.printed.out = s.printed.out := by
  obtain ⟨talk, d', hMakes, hEnds, -⟩ := trigger_ends env (copyAction o.format) hFree
  obtain ⟨reply, rfl⟩ := hEnds.of_copy hResult
  refine ⟨reply, ?_⟩
  unfold copyResult
  rw [Job.bind_run, onBench_run]
  rcases hRun : trigger env (copyAction o.format) s.state with ⟨e | _, b'⟩
  · rw [hRun] at hMakes
    exact ⟨hMakes, rfl⟩
  · rw [hRun] at hMakes
    exact ⟨hMakes, rfl⟩

/-- A result is given out in one of the ways of a `Delivery`. -/
theorem publish_delivers (a : QueryArguments) (hPath : a.output = o.path) (hCopy : a.copy = o.copy) :
    ∃ exports outcome, s.state.Makes env exports (publish env o.format a s).2.state ∧
      Delivery o r exports outcome ∧
      (publish env o.format a s).2.printed.out = s.printed.out ++ o.printed r := by
  obtain ⟨outcome, s', hRun, hOut, hEnds⟩ := deliverResult_ends env o
    (s := { s with printed := (noteStatus s).2.printed }) hResult
  have hPublish : publish env o.format a s =
      (deliverResult env o.format o.path >>= fun _ =>
        if o.copy then copyResult env o.format else pure ())
          { s with printed := (noteStatus s).2.printed } := by
    rw [← hPath, ← hCopy]
    rfl
  rw [hPublish, Job.bind_run, hRun]
  rcases hEnds with ⟨message, path, f, rfl, hFile, hMakes⟩ | ⟨rfl, hMakes, hDesk⟩
  · exact ⟨_, _, hMakes, .notWritten hFile, hOut⟩
  · cases hWanted : o.copy with
    | false =>
      have hNone : o.copied r = [] := by simp [ExportOptions.copied, hWanted]
      exact ⟨_, _, hMakes, by simpa [hNone] using Delivery.delivered (o := o) (r := r), hOut⟩
    | true =>
      have hResult' : s'.state.desk.result = some r := by
        rw [hDesk]
        exact hResult
      have hFree' : s'.state.desk.gate.isHeld = false := by
        rw [hDesk]
        exact hFree
      obtain ⟨reply, hCopied, hSame⟩ := copyResult_says env o hResult' hFree'
      have hAll := hMakes.trans hCopied
      cases reply with
      | error f => exact ⟨_, _, hAll, .notCopied hWanted, hSame.trans hOut⟩
      | ok _ =>
        have hSays : o.copied r = [⟨.copy (o.format.render r), .ok ()⟩] := by
          simp [ExportOptions.copied, hWanted]
        rw [← hSays] at hAll
        exact ⟨_, _, hAll, .delivered, hSame.trans hOut⟩

end Results

/-- A query that is run gives out the result that the agent returns, and nothing else. -/
theorem publishes_run (env : Environment σ) (a : QueryArguments) (format : ExportFormat) :
    Job.Publishes env ⟨format, a.output, a.copy⟩
      (onBench (trigger env .runQuery) >>= fun _ => publish env format a) := by
  intro s
  have hConcludes := concludes_trigger env s.state
  rw [Job.bind_run, onBench_run]
  rcases hRun : trigger env .runQuery s.state with ⟨outcome, b'⟩
  rw [hRun] at hConcludes
  cases hConcludes with
  | unanswered hHushed =>
    obtain ⟨talk, hMakes, hQuiet⟩ := hHushed
    exact ⟨talk, "", hMakes, .unanswered hQuiet, String.append_empty.symm⟩
  | answered hQuiet hMakes hResult hFree =>
    obtain ⟨exports, outcome, hExports, hDelivery, hOut⟩ :=
      publish_delivers env ⟨format, a.output, a.copy⟩ (s := ⟨b', s.printed⟩) hResult hFree a rfl rfl
    refine ⟨_, _, hMakes.trans hExports, ?_, hOut⟩
    rw [List.append_assoc]
    exact .answered hQuiet hDelivery

/-- **What a query gives out**, whatever answers it and whatever it begins with: nothing before the agent
has returned a result, and then the rendering of that result. -/
theorem publishes_queryOnBench (env : Environment σ) (a : QueryArguments) (query : String)
    (format : ExportFormat) :
    (queryOnBench env a query format).Publishes env ⟨format, a.output, a.copy⟩ := by
  rw [queryOnBench_eq]
  refine .after (.onBench (restore_hushed env)) fun _ => ?_
  refine .after (.takeToken a) fun _ => ?_
  refine .after (.onBench ((preserves_hushed env).onDesk fun _ => rfl)) fun _ => ?_
  exact publishes_run env a format

end CommandLine

end PageQuery
