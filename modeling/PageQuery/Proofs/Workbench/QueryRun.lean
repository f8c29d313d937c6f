import PageQuery.Proofs.Workbench.Capture
/-!
How a query runs.

A query is checked, remembered, given a snapshot and sent to the agent, and each step is taken only if
the one before it succeeded. `runQuery_order` tells this from the conversation with the outside: which
calls there are, in which order, with which contents, where the query stops, and when the result on
the desk is replaced.
-/

namespace PageQuery

open Text

variable {σ : Type}

/-! ## 1. The steps -/

/-- Send a checked query to the agent, with a snapshot, and take its result. -/
def askAgent (env : Environment σ) (token query : String) (s : Snapshot) : Task σ Unit := do
  let options := (← theDesk).queryOptions
  onDesk fun d =>
    { d with
      maxRowsInput := natText options.maxRows
      timeoutInput := natText options.timeoutMs
      status := "Running query..." }
  let result ← orFail (← ask env (.query token ⟨s.html, query, options⟩))
  onDesk fun d => { d with status := queryStatus s.sizeBytes result, result := some result }

/-- Run a checked query: remember it, get a snapshot and ask the agent. -/
def runChecked (env : Environment σ) (token query : String) : Task σ Unit := do
  orStorage (← ask env (.writeSetting queryKey query))
  let s ← capture env false
  askAgent env token query s

theorem runQuery_eq (env : Environment σ) :
    runQuery env = theDesk >>= fun d => noteMissingToken (checkInputs d) >>= fun _ =>
      orFail (checkInputs d) >>= fun checked => runChecked env checked.1 checked.2 := rfl

theorem noteMissingToken_run (checked : Except ClientError (String × String)) (b : Bench σ) :
    ∃ editor, noteMissingToken checked b =
      (.ok (), { b with desk := { b.desk with tokenEditor := editor } }) := by
  rw [noteMissingToken.eq_def]
  split
  · exact ⟨_, rfl⟩
  · exact ⟨b.desk.tokenEditor, rfl⟩

/-! ## 2. Checking -/

section Checking

variable (env : Environment σ) {b : Bench σ}

/-- Inputs that do not pass stop the query before anything is asked. -/
theorem runQuery_of_refused {e : ClientError} (h : checkInputs b.desk = .error e) :
    ∃ editor, runQuery env b =
      (.error e, { b with desk := { b.desk with tokenEditor := editor } }) := by
  obtain ⟨editor, hNote⟩ := noteMissingToken_run (checkInputs b.desk) b
  refine ⟨editor, ?_⟩
  rw [runQuery_eq, Task.bind_ok (theDesk_run b), Task.bind_ok hNote, h]
  rfl

theorem runQuery_of_checked {token query : String}
    (h : checkInputs b.desk = .ok (token, query)) :
    runQuery env b = runChecked env token query b := by
  have hNote : noteMissingToken (checkInputs b.desk) b = (.ok (), b) := by
    rw [h]
    rfl
  have hChecked : orFail (checkInputs b.desk) b = (.ok (token, query), b) := by
    rw [h]
    rfl
  rw [runQuery_eq, Task.bind_ok (theDesk_run b), Task.bind_ok hNote, Task.bind_ok hChecked]

end Checking

/-! ## 3. Asking the agent -/

/-- The exchange asks the agent. -/
def Exchange.AsksAgent (x : Exchange) : Prop := ∃ token r, x.call = .query token r

/-- What is said in a capture is not said to the agent. -/
theorem Captures.not_asksAgent {d d' : Desk} {talk : List Exchange}
    {outcome : Except ClientError Snapshot} (h : Captures d talk outcome d') :
    ∀ x ∈ talk, ¬ x.AsksAgent := by
  rintro x hMem ⟨token, r, hCall⟩
  have hOfCapture := h.isOfCapture x hMem
  rw [hCall] at hOfCapture
  exact hOfCapture

/-- A capture, as far as a query is concerned: it is not said to the agent, it leaves the inputs and
the result alone, and the snapshot it answers with is the one on the desk. -/
theorem capture_spec (env : Environment σ) (force : Bool) (b : Bench σ) :
    ∃ talk, b.Makes env talk (capture env force b).2 ∧ (∀ x ∈ talk, ¬ x.AsksAgent) ∧
      (capture env force b).2.desk = { b.desk with
        status := (capture env force b).2.desk.status
        snapshot := (capture env force b).2.desk.snapshot } ∧
      ∀ s, (capture env force b).1 = .ok s → (capture env force b).2.desk.snapshot = some s := by
  by_cases hReuses : b.desk.Reuses force
  · obtain ⟨s, hSnapshot, hRun⟩ := capture_of_reuses env hReuses
    rw [hRun]
    refine ⟨[], .refl env b, by simp, rfl, ?_⟩
    rintro _ ⟨⟩
    exact hSnapshot
  · obtain ⟨talk, outcome, b', hRun, hMakes, hCaptures⟩ := captureAfresh_spec env b
    rw [capture_of_not_reuses env hReuses, hRun]
    obtain ⟨found, sent, writes, -, -, -, -, hTaken, -⟩ := hCaptures.account
    exact ⟨talk, hMakes, hCaptures.not_asksAgent, hCaptures.desk_eq, fun s h => (hTaken s h).1⟩

/-- The desk while the agent is asked: the numbers typed in show what they are taken for. -/
def Desk.asking (d : Desk) : Desk :=
  { d with
    maxRowsInput := natText d.queryOptions.maxRows
    timeoutInput := natText d.queryOptions.timeoutMs
    status := "Running query..." }

/-- The desk after the agent's answer to a query on a snapshot. -/
def Desk.afterAnswer (d : Desk) (s : Snapshot) : Except ClientError QueryResult → Desk
  | .ok r => { d.asking with status := queryStatus s.sizeBytes r, result := some r }
  | .error _ => d.asking

theorem Desk.result_afterAnswer (d : Desk) (s : Snapshot)
    (answer : Except ClientError QueryResult) :
    (d.afterAnswer s answer).result =
      match answer with
      | .ok r => some r
      | .error _ => d.result := by
  cases answer with
  | ok r => rfl
  | error e => rfl

/-- The agent is asked once, and its result is taken if it gives one. -/
theorem askAgent_spec (env : Environment σ) (token query : String) (s : Snapshot) (b : Bench σ) :
    ∃ answer : Except ClientError QueryResult,
      b.Makes env [⟨.query token ⟨s.html, query, b.desk.queryOptions⟩, answer⟩]
        (askAgent env token query s b).2 ∧
      (askAgent env token query s b).1 = answer.map (fun _ => ()) ∧
      (askAgent env token query s b).2.desk = b.desk.afterAnswer s answer := by
  let b₁ : Bench σ := { b with desk := b.desk.asking }
  let c : Call := .query token ⟨s.html, query, b.desk.queryOptions⟩
  have hAsked : b.Makes env [⟨c, (b₁.ask env c).1⟩] (b₁.ask env c).2 :=
    (Bench.Makes.desk env b b.desk.asking).trans (.ask env c b₁)
  have hRun : askAgent env token query s b =
      (orFail (b₁.ask env c).1 >>= fun result =>
        onDesk fun d => { d with status := queryStatus s.sizeBytes result, result := some result })
          (b₁.ask env c).2 := by
    rw [askAgent, Task.bind_ok (theDesk_run b), Task.bind_ok (onDesk_run _ b)]
    exact Task.bind_ok (ask_run env c b₁) _
  refine ⟨(b₁.ask env c).1, ?_⟩
  rw [hRun]
  cases hAnswer : (b₁.ask env c).1 with
  | ok result =>
    rw [hAnswer] at hAsked
    exact ⟨hAsked.thenDesk _, rfl, rfl⟩
  | error e =>
    rw [hAnswer] at hAsked
    exact ⟨hAsked, rfl, rfl⟩

/-! ## 4. The order of a query -/

/-- The agent was asked and returned a result. -/
def Exchange.Returns (x : Exchange) (r : QueryResult) : Prop :=
  ∃ token request, x = ⟨.query token request, .ok r⟩

theorem Exchange.Returns.asksAgent {x : Exchange} {r : QueryResult} (h : x.Returns r) :
    x.AsksAgent := by
  obtain ⟨token, request, rfl⟩ := h
  exact ⟨token, request, rfl⟩

/-- The result on the desk is the one that was returned in the conversation, or else the one from
before. -/
def ResultFollows (talk : List Exchange) (before after : Option QueryResult) : Prop :=
  (∀ r, (∃ x ∈ talk, x.Returns r) → after = some r) ∧
    ((∀ x ∈ talk, ∀ r, ¬ x.Returns r) → after = before)

theorem resultFollows_of_silent {talk : List Exchange} (h : ∀ x ∈ talk, ¬ x.AsksAgent)
    (result : Option QueryResult) : ResultFollows talk result result := by
  refine ⟨fun r hReturned => ?_, fun _ => rfl⟩
  obtain ⟨x, hMem, hReturns⟩ := hReturned
  exact absurd hReturns.asksAgent (h x hMem)

/-- What is said before, but not to the agent, has no part in the result. -/
theorem ResultFollows.prepend {before talk : List Exchange} {old new : Option QueryResult}
    (h : ResultFollows talk old new) (hBefore : ∀ x ∈ before, ¬ x.AsksAgent) :
    ResultFollows (before ++ talk) old new := by
  refine ⟨fun r hReturned => ?_, fun hSilent => h.2 fun x hMem => ?_⟩
  · obtain ⟨x, hMem, hReturns⟩ := hReturned
    rcases List.mem_append.mp hMem with hMem | hMem
    · exact absurd hReturns.asksAgent (hBefore x hMem)
    · exact h.1 r ⟨x, hMem, hReturns⟩
  · exact hSilent x (List.mem_append_right before hMem)

theorem resultFollows_answer (token : String) (request : QueryRequest)
    (answer : Except ClientError QueryResult) (old : Option QueryResult) :
    ResultFollows [⟨.query token request, answer⟩] old
      (match answer with
        | .ok r => some r
        | .error _ => old) := by
  cases answer with
  | ok r =>
    refine ⟨fun r' hReturned => ?_, fun hSilent => ?_⟩
    · obtain ⟨x, hMem, token', request', rfl⟩ := hReturned
      cases List.mem_singleton.mp hMem
      rfl
    · exact absurd ⟨token, request, rfl⟩ (hSilent _ List.mem_cons_self r)
  | error e =>
    refine ⟨fun r hReturned => ?_, fun _ => rfl⟩
    obtain ⟨x, hMem, token', request', rfl⟩ := hReturned
    cases List.mem_singleton.mp hMem

/-- The order of a checked query. -/
theorem runChecked_spec (env : Environment σ) (token query : String) (b : Bench σ) :
    let stored := b.ask env (.writeSetting queryKey query)
    let captured := capture env false stored.2
    ∃ captureTalk asked,
      b.Makes env (⟨.writeSetting queryKey query, stored.1⟩ :: (captureTalk ++ asked))
        (runChecked env token query b).2 ∧
      (∀ f, stored.1 = .error f → captureTalk = [] ∧ asked = [] ∧
        (runChecked env token query b).1 = .error (.ofStore f)) ∧
      (stored.1 = .ok () → stored.2.Makes env captureTalk captured.2 ∧
        (∀ x ∈ captureTalk, ¬ x.AsksAgent) ∧
        (∀ e, captured.1 = .error e →
          asked = [] ∧ (runChecked env token query b).1 = .error e) ∧
        ∀ s, captured.1 = .ok s → captured.2.desk.snapshot = some s ∧ ∃ answer,
          asked = [⟨.query token ⟨s.html, query, b.desk.queryOptions⟩, answer⟩] ∧
          (runChecked env token query b).1 = answer.map (fun _ => ())) ∧
      ResultFollows (captureTalk ++ asked) b.desk.result
        (runChecked env token query b).2.desk.result := by
  intro stored captured
  have hStored : b.Makes env [⟨.writeSetting queryKey query, stored.1⟩] stored.2 :=
    .ask env (.writeSetting queryKey query) b
  have hDesk : stored.2.desk = b.desk := rfl
  have hRun : runChecked env token query b = (orStorage stored.1 >>= fun _ =>
      capture env false >>= askAgent env token query) stored.2 :=
    Task.bind_ok (ask_run env (.writeSetting queryKey query) b) _
  rw [hRun]
  cases hReply : stored.1 with
  | error f =>
    rw [hReply] at hStored
    refine ⟨[], [], hStored, ?_, ?_, resultFollows_of_silent (by simp) _⟩
    · rintro _ ⟨⟩
      exact ⟨rfl, rfl, rfl⟩
    · rintro ⟨⟩
  | ok _ =>
    rw [hReply] at hStored
    obtain ⟨captureTalk, hMakes, hSilent, hKept, hCurrent⟩ := capture_spec env false stored.2
    have hResult : captured.2.desk.result = b.desk.result := by
      rw [show captured.2.desk = _ from hKept, hDesk]
    have hOptions : captured.2.desk.queryOptions = b.desk.queryOptions := by
      rw [show captured.2.desk = _ from hKept, hDesk]
      rfl
    rw [Task.bind_ok (orStorage_ok _ stored.2), Task.bind_run]
    rcases hCaptured : capture env false stored.2 with ⟨e | s, b₂⟩
    · have hFailed : captured = (.error e, b₂) := hCaptured
      rw [hFailed] at hResult
      rw [hCaptured] at hMakes
      rw [hFailed]
      refine ⟨captureTalk, [], ?_, ?_, fun _ => ⟨hMakes, hSilent, ?_, ?_⟩, ?_⟩
      · simpa using hStored.trans hMakes
      · rintro _ ⟨⟩
      · rintro _ ⟨⟩
        exact ⟨rfl, rfl⟩
      · rintro _ ⟨⟩
      · have hSame : b₂.desk.result = b.desk.result := hResult
        show ResultFollows (captureTalk ++ []) b.desk.result b₂.desk.result
        rw [hSame, List.append_nil]
        exact resultFollows_of_silent hSilent b.desk.result
    · have hTaken : captured = (.ok s, b₂) := hCaptured
      rw [hTaken] at hResult hOptions
      rw [hCaptured] at hMakes hCurrent
      rw [hTaken]
      obtain ⟨answer, hAsked, hOutcome, hDesk₃⟩ := askAgent_spec env token query s b₂
      have hAfter := (congrArg Desk.result hDesk₃).trans (b₂.desk.result_afterAnswer s answer)
      simp only at hResult hOptions
      rw [hOptions] at hAsked
      rw [hResult] at hAfter
      refine ⟨captureTalk, [⟨.query token ⟨s.html, query, b.desk.queryOptions⟩, answer⟩],
        hStored.trans (hMakes.trans hAsked), ?_, fun _ => ⟨hMakes, hSilent, ?_, ?_⟩, ?_⟩
      · rintro _ ⟨⟩
      · rintro _ ⟨⟩
      · rintro _ ⟨⟩
        exact ⟨hCurrent s rfl, answer, rfl, hOutcome⟩
      · simp only [hAfter]
        exact (resultFollows_answer _ _ answer b.desk.result).prepend hSilent

/-- **A query runs in this order.** Blank inputs stop it with a validation error, the token first, and
nothing is said to the outside. Otherwise the trimmed query is stored under its key; then a capture
that is not forced is made, as it would be made there; then the agent is asked once, under the trimmed
token, with the trimmed query, the markup of the snapshot that is then on the desk, and the options
that the inputs come to in their bounds. Each step is taken only if the one before succeeded, and
where one fails the query fails as it does. The result on the desk is the one that the agent
returned, or else the one from before. -/
theorem runQuery_order (env : Environment σ) (b : Bench σ) :
    let token := trim b.desk.token
    let query := trim (String.ofList b.desk.editor.text)
    let outcome := (runQuery env b).1
    let b' := (runQuery env b).2
    let options : QueryOptions :=
      ⟨b.desk.options.maxRows.clampInput b.desk.maxRowsInput,
        b.desk.options.timeoutMs.clampInput b.desk.timeoutInput⟩
    ∃ talk, b.Makes env talk b' ∧
      (token = "" → talk = [] ∧ outcome = .error .missingToken) ∧
      (token ≠ "" → query = "" → talk = [] ∧ outcome = .error .emptyQuery) ∧
      (token ≠ "" → query ≠ "" →
        let stored := b.ask env (.writeSetting queryKey query)
        let captured := capture env false stored.2
        ∃ captureTalk asked,
          talk = ⟨.writeSetting queryKey query, stored.1⟩ :: (captureTalk ++ asked) ∧
          (∀ f, stored.1 = .error f →
            captureTalk = [] ∧ asked = [] ∧ outcome = .error (.ofStore f)) ∧
          (stored.1 = .ok () → stored.2.Makes env captureTalk captured.2 ∧
            (∀ x ∈ captureTalk, ¬ x.AsksAgent) ∧
            (∀ e, captured.1 = .error e → asked = [] ∧ outcome = .error e) ∧
            ∀ s, captured.1 = .ok s → captured.2.desk.snapshot = some s ∧ ∃ answer,
              asked = [⟨.query token ⟨s.html, query, options⟩, answer⟩] ∧
              outcome = answer.map (fun _ => ()))) ∧
      ResultFollows talk b.desk.result b'.desk.result := by
  rcases hRan : runQuery env b with ⟨answered, after⟩
  intro token query outcome b' options
  have hSilent : ∀ x ∈ ([] : List Exchange), ¬ x.AsksAgent := by simp
  by_cases hToken : token = ""
  · have hRefused : checkInputs b.desk = .error .missingToken := if_pos hToken
    obtain ⟨editor, hRun⟩ := runQuery_of_refused env hRefused
    obtain ⟨rfl, rfl⟩ := Prod.mk.inj (hRan.symm.trans hRun)
    exact ⟨[], .desk env b _, fun _ => ⟨rfl, rfl⟩, fun h => absurd hToken h,
      fun h => absurd hToken h, resultFollows_of_silent hSilent b.desk.result⟩
  by_cases hQuery : query = ""
  · have hRefused : checkInputs b.desk = .error .emptyQuery :=
      (if_neg hToken).trans (if_pos hQuery)
    obtain ⟨editor, hRun⟩ := runQuery_of_refused env hRefused
    obtain ⟨rfl, rfl⟩ := Prod.mk.inj (hRan.symm.trans hRun)
    exact ⟨[], .desk env b _, fun h => absurd h hToken, fun _ _ => ⟨rfl, rfl⟩,
      fun _ h => absurd hQuery h, resultFollows_of_silent hSilent b.desk.result⟩
  · have hChecked : checkInputs b.desk = .ok (token, query) :=
      (if_neg hToken).trans (if_neg hQuery)
    have hRun : runChecked env token query b = (answered, after) :=
      (runQuery_of_checked env hChecked).symm.trans hRan
    obtain ⟨captureTalk, asked, hMakes, hStopped, hGone, hResult⟩ :=
      runChecked_spec env token query b
    rw [hRun] at hMakes hStopped hGone hResult
    have hStored : ∀ x ∈ [Exchange.mk (.writeSetting queryKey query)
        (b.ask env (.writeSetting queryKey query)).1], ¬ x.AsksAgent := by
      intro x hMem
      rw [List.mem_singleton.mp hMem]
      rintro ⟨_, _, hCall⟩
      cases hCall
    exact ⟨_, hMakes, fun h => absurd h hToken, fun _ h => absurd h hQuery,
      fun _ _ => ⟨captureTalk, asked, rfl, hStopped, hGone⟩, hResult.prepend hStored⟩

end PageQuery
