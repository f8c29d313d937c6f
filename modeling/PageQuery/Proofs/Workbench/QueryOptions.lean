import PageQuery.Proofs.Agent.Options
import PageQuery.Proofs.Workbench.Operations
import PageQuery.Proofs.Workbench.QueryRun
/-!
The options that queries are sent with.

What the inputs of a desk come to are the options of its next query. `KeepsOptions` says that a piece of
work leaves them as they are, and sends no query with others. Everything that can be done to a workbench
does, but for typing in the inputs and starting anew: the inputs are rewritten by a query alone, and to
values that come to themselves. So the options of a new workbench last until something is typed, and
whatever is typed, the options sent are in range. `options_stay_in_range` is the statement.
-/

namespace PageQuery

open Number Text

variable {σ : Type}

/-! ## 1. The bounds of a workbench -/

namespace WorkbenchOptions

/-- The bounds are those of the two options, each with a default that was set for it. -/
structure HasDefaults (o : WorkbenchOptions) (rows timeout : Nat) : Prop where
  maxRows_eq : o.maxRows = OptionBounds.maxRows.withDefault rows
  timeoutMs_eq : o.timeoutMs = OptionBounds.timeoutMs.withDefault timeout

/-- The bounds are those of the two options, whatever the defaults. -/
def HasBounds (o : WorkbenchOptions) : Prop := ∃ rows timeout, o.HasDefaults rows timeout

theorem HasDefaults.hasBounds {o : WorkbenchOptions} {rows timeout : Nat}
    (h : o.HasDefaults rows timeout) : o.HasBounds := ⟨rows, timeout, h⟩

namespace HasBounds

variable {o : WorkbenchOptions} (h : o.HasBounds)

include h

theorem isSound_maxRows : o.maxRows.IsSound := by
  obtain ⟨rows, timeout, hDefaults⟩ := h
  rw [hDefaults.maxRows_eq]
  exact OptionBounds.isSound_maxRows.withDefault rows

theorem isSound_timeoutMs : o.timeoutMs.IsSound := by
  obtain ⟨rows, timeout, hDefaults⟩ := h
  rw [hDefaults.timeoutMs_eq]
  exact OptionBounds.isSound_timeoutMs.withDefault timeout

theorem allows_maxRows (v : Nat) : o.maxRows.Allows v ↔ OptionBounds.maxRows.Allows v := by
  obtain ⟨rows, timeout, hDefaults⟩ := h
  rw [hDefaults.maxRows_eq, OptionBounds.allows_withDefault]

theorem allows_timeoutMs (v : Nat) : o.timeoutMs.Allows v ↔ OptionBounds.timeoutMs.Allows v := by
  obtain ⟨rows, timeout, hDefaults⟩ := h
  rw [hDefaults.timeoutMs_eq, OptionBounds.allows_withDefault]

end HasBounds

/-- The default of an option is the configured one, or else its own. -/
theorem hasDefaults_ofConfig (c : Config) :
    (ofConfig c).HasDefaults (c.maxRows.getD OptionBounds.maxRows.default)
      (c.timeoutMs.getD OptionBounds.timeoutMs.default) where
  maxRows_eq := by
    show c.rowBounds = _
    unfold Config.rowBounds
    cases c.maxRows <;> rfl
  timeoutMs_eq := by
    show c.timeoutBounds = _
    unfold Config.timeoutBounds
    cases c.timeoutMs <;> rfl

end WorkbenchOptions

/-- The options are in range. -/
def QueryOptions.InRange (o : QueryOptions) : Prop :=
  OptionBounds.maxRows.Allows o.maxRows ∧ OptionBounds.timeoutMs.Allows o.timeoutMs

/-- Whatever is typed, the options of the next query are in range. -/
theorem Desk.inRange_queryOptions {d : Desk} (h : d.options.HasBounds) : d.queryOptions.InRange := by
  simp only [Desk.queryOptions, QueryOptions.InRange, ← h.allows_maxRows, ← h.allows_timeoutMs]
  constructor
  · exact OptionBounds.allows_clampInput h.isSound_maxRows d.maxRowsInput
  · exact OptionBounds.allows_clampInput h.isSound_timeoutMs d.timeoutInput

/-- Inputs that show what they come to come to the same. -/
theorem Desk.queryOptions_asking {d : Desk} (h : d.options.HasBounds) :
    d.asking.queryOptions = d.queryOptions := by
  have hRows := OptionBounds.allows_clampInput h.isSound_maxRows d.maxRowsInput
  have hTimeout := OptionBounds.allows_clampInput h.isSound_timeoutMs d.timeoutInput
  have hRowsShown := OptionBounds.clampInput_naturalDigits h.isSound_maxRows hRows
  have hTimeoutShown := OptionBounds.clampInput_naturalDigits h.isSound_timeoutMs hTimeout
  simp only [Desk.queryOptions, Desk.asking, natText, hRowsShown, hTimeoutShown]

/-! ## 2. What keeps the options -/

/-- On the way from one bench to the other the options stay as they are, what is set up and what the inputs
come to, and every query is sent with them. -/
structure KeepsOptions (b b' : Bench σ) : Prop where
  options_eq : b'.desk.options = b.desk.options
  queryOptions_eq : b'.desk.queryOptions = b.desk.queryOptions
  sent : ∃ calls, b'.calls = b.calls ++ calls ∧
    ∀ token r, Call.query token r ∈ calls → r.options = b.desk.queryOptions

/-- The same, on benches with the bounds of the two options. -/
def KeepsBounded (b b' : Bench σ) : Prop := b.desk.options.HasBounds → KeepsOptions b b'

theorem KeepsOptions.trans {b₁ b₂ b₃ : Bench σ} (h : KeepsOptions b₁ b₂)
    (h' : KeepsOptions b₂ b₃) : KeepsOptions b₁ b₃ := by
  obtain ⟨first, hFirst, hSent⟩ := h.sent
  obtain ⟨second, hSecond, hSent'⟩ := h'.sent
  have hOptions := h'.options_eq.trans h.options_eq
  have hInputs := h'.queryOptions_eq.trans h.queryOptions_eq
  refine ⟨hOptions, hInputs, first ++ second, ?_, ?_⟩
  · rw [hSecond, hFirst, List.append_assoc]
  · intro token r hMem
    rcases List.mem_append.mp hMem with hMem | hMem
    · exact hSent token r hMem
    · rw [← h.queryOptions_eq]
      exact hSent' token r hMem

/-- A change of the desk keeps the options if they are on the desk as before. -/
theorem KeepsOptions.desk {b : Bench σ} {d : Desk} (hOptions : d.options = b.desk.options)
    (hInputs : d.queryOptions = b.desk.queryOptions) : KeepsOptions b { b with desk := d } :=
  ⟨hOptions, hInputs, [], (List.append_nil _).symm, by simp⟩

theorem isFrame_keepsBounded : IsFrame (KeepsBounded (σ := σ)) where
  refl b _ := .desk (b := b) rfl rfl
  trans h h' hBounds := by
    have hFirst := h hBounds
    exact hFirst.trans (h' (hFirst.options_eq ▸ hBounds))

/-- Every call but a query leaves the options alone, and so does every change of the desk that keeps them
and the inputs. -/
theorem preserves_keepsBounded (env : Environment σ) :
    Preserves env (fun c => ∀ token r, c ≠ .query token r)
      (fun d => (d.options, d.maxRowsInput, d.timeoutInput)) KeepsBounded where
  toIsFrame := isFrame_keepsBounded
  ask {c} hOther b _ := by
    refine ⟨rfl, rfl, [c], (Bench.Makes.ask env c b).calls_eq, fun token r hMem => ?_⟩
    exact absurd (List.mem_singleton.mp hMem).symm (hOther token r)
  onDesk {f} hView b _ := by
    obtain ⟨hOptions, hRows, hTimeout⟩ : (f b.desk).options = b.desk.options ∧
        (f b.desk).maxRowsInput = b.desk.maxRowsInput ∧
        (f b.desk).timeoutInput = b.desk.timeoutInput := by
      simpa using hView b.desk
    refine KeepsOptions.desk hOptions ?_
    unfold Desk.queryOptions
    rw [hOptions, hRows, hTimeout]

variable (env : Environment σ)

theorem capture_keepsBounded (force : Bool) : (capture env force).Moves KeepsBounded :=
  (preserves_keepsBounded env).capture force (by simp) (by simp) (by simp) fun _ _ _ => rfl

/-- The agent is asked with the options at hand, and the inputs come to them afterwards as well. -/
theorem askAgent_keepsBounded (token query : String) (s : Snapshot) :
    (askAgent env token query s).Moves KeepsBounded := by
  intro b hBounds
  obtain ⟨answer, hMakes, -, hDesk⟩ := askAgent_spec env token query s b
  have hKept : (b.desk.afterAnswer s answer).options = b.desk.options ∧
      (b.desk.afterAnswer s answer).queryOptions = b.desk.asking.queryOptions := by
    cases answer <;> exact ⟨rfl, rfl⟩
  refine ⟨?_, ?_, _, hMakes.calls_eq, ?_⟩
  · rw [hDesk, hKept.1]
  · rw [hDesk, hKept.2, Desk.queryOptions_asking hBounds]
  · intro token' r hMem
    simp only [List.map_cons, List.map_nil, List.mem_singleton, Call.query.injEq] at hMem
    rw [hMem.2]

theorem runQuery_keepsBounded : (runQuery env).Moves KeepsBounded := by
  have hPreserves := preserves_keepsBounded env
  rw [runQuery_eq]
  refine hPreserves.bind hPreserves.theDesk fun d => ?_
  refine hPreserves.bind ?_ fun _ => ?_
  · rw [noteMissingToken.eq_def]
    split
    · exact hPreserves.onDesk fun _ => rfl
    · exact hPreserves.pure _
  · refine hPreserves.bind (hPreserves.orFail _) fun checked => ?_
    refine hPreserves.bind (hPreserves.ask (by simp)) fun answer => ?_
    refine hPreserves.bind (hPreserves.orStorage answer) fun _ => ?_
    exact hPreserves.bind (capture_keepsBounded env false) fun s => askAgent_keepsBounded env _ _ s

theorem work_keepsBounded (a : Action) : (a.work env).Moves KeepsBounded := by
  have hPreserves := preserves_keepsBounded env
  have hCopy : ∀ format, (copyExport env format).Moves KeepsBounded :=
    hPreserves.copyExport (by simp) (by simp) fun _ _ => rfl
  cases a with
  | capture => exact hPreserves.bind (capture_keepsBounded env true) fun _ => hPreserves.pure _
  | runQuery => exact runQuery_keepsBounded env
  | copyCsv => exact hPreserves.bind (hCopy .csv) fun _ => hPreserves.pure _
  | copyJson => exact hPreserves.bind (hCopy .json) fun _ => hPreserves.pure _
  | saveToken => exact hPreserves.saveToken (by simp) fun _ _ _ _ => rfl

/-! ## 3. Operations -/

/-- The operation types in the input of an option, or sets the options up anew. -/
def Operation.SetsOptions : Operation → Prop
  | typeMaxRows _ | typeTimeout _ | reopen _ => True
  | _ => False

theorem restore_keepsBounded : (restore env).Moves KeepsBounded := by
  have hPreserves := preserves_keepsBounded env
  refine hPreserves.restore (by simp) (by simp) (by simp) (fun _ _ _ _ _ => rfl) ?_
  exact hPreserves.restoreSnapshot (by simp) (by simp) fun _ _ => rfl

/-- All that is done to a workbench keeps the options, but for setting them. -/
theorem perform_keepsBounded {op : Operation} (h : ¬ op.SetsOptions) :
    (op.perform env).Moves KeepsBounded := by
  have hPreserves := preserves_keepsBounded env
  refine hPreserves.perform (capture_keepsBounded env) (work_keepsBounded env) (restore_keepsBounded env)
    (by simp) (by simp) (fun _ _ _ => rfl) fun f hChange => hPreserves.onDesk ?_
  cases op with
  | editToken | typeToken | typeQuery | setGate =>
    cases hChange
    exact fun _ => rfl
  | typeMaxRows | typeTimeout | reopen => exact absurd trivial h
  | _ => cases hChange

/-- Every query sent so far had its options in range. -/
def Bench.SentInRange (b : Bench σ) : Prop :=
  ∀ token r, Call.query token r ∈ b.calls → r.options.InRange

/-- What keeps the options sends them in range. -/
theorem KeepsOptions.sentInRange {b b' : Bench σ} (h : KeepsOptions b b')
    (hBounds : b.desk.options.HasBounds) (hSent : b.SentInRange) : b'.SentInRange := by
  obtain ⟨calls, hCalls, hOptions⟩ := h.sent
  intro token r hMem
  rw [hCalls] at hMem
  rcases List.mem_append.mp hMem with hMem | hMem
  · exact hSent token r hMem
  · rw [hOptions token r hMem]
    exact Desk.inRange_queryOptions hBounds

/-- After any operation the bounds are those of the two options and all queries were in range, if it was so
before and nobody brings in other bounds. -/
theorem perform_sentInRange {op : Operation} {b : Bench σ}
    (hReopen : ∀ o, op = .reopen o → o.HasBounds) (hBounds : b.desk.options.HasBounds)
    (hSent : b.SentInRange) :
    (op.perform env b).2.desk.options.HasBounds ∧ (op.perform env b).2.SentInRange := by
  by_cases hSets : op.SetsOptions
  · cases op with
    | typeMaxRows | typeTimeout => exact ⟨hBounds, hSent⟩
    | reopen o => exact ⟨hReopen o rfl, hSent⟩
    | _ => exact absurd hSets id
  · have hKeeps := perform_keepsBounded env hSets b hBounds
    refine ⟨?_, hKeeps.sentInRange hBounds hSent⟩
    rw [hKeeps.options_eq]
    exact hBounds

/-! ## 4. Whole runs -/

theorem run_keepsBounded {ops : List Operation} (h : ∀ op ∈ ops, ¬ op.SetsOptions) (b : Bench σ) :
    KeepsBounded b (Bench.run env ops b) := by
  induction ops generalizing b with
  | nil => exact isFrame_keepsBounded.refl b
  | cons op rest ih =>
    obtain ⟨hFirst, hRest⟩ := List.forall_mem_cons.mp h
    exact isFrame_keepsBounded.trans (perform_keepsBounded env hFirst b) (ih hRest _)

theorem run_sentInRange {ops : List Operation} (hReopen : ∀ o, .reopen o ∈ ops → o.HasBounds)
    {b : Bench σ} (hBounds : b.desk.options.HasBounds) (hSent : b.SentInRange) :
    (Bench.run env ops b).SentInRange := by
  induction ops generalizing b with
  | nil => exact hSent
  | cons op rest ih =>
    have hFirst : ∀ o, op = .reopen o → o.HasBounds := by
      rintro o rfl
      exact hReopen o List.mem_cons_self
    obtain ⟨hBounds', hSent'⟩ := perform_sentInRange env hFirst hBounds hSent
    exact ih (fun o hMem => hReopen o (List.mem_cons_of_mem _ hMem)) hBounds' hSent'

/-- The inputs of a new workbench show the defaults, and come to them. -/
theorem Desk.queryOptions_new {o : WorkbenchOptions} (h : o.HasBounds) :
    (Desk.new o).queryOptions = ⟨o.maxRows.default, o.timeoutMs.default⟩ := by
  have hRows := h.isSound_maxRows.allows_default
  have hTimeout := h.isSound_timeoutMs.allows_default
  have hRowsShown := OptionBounds.clampInput_naturalDigits h.isSound_maxRows hRows
  have hTimeoutShown := OptionBounds.clampInput_naturalDigits h.isSound_timeoutMs hTimeout
  simp only [Desk.queryOptions, Desk.new, natText, hRowsShown, hTimeoutShown]

/-- **Options are kept in range, and kept.** Whatever default was set for an option and whatever is typed
for it, the outcome is a value of its range: if a finite number is read from what was typed, the number's
floor brought into the range, and else the default brought into the range. That value in decimal comes to
itself. So in any run of a configured workbench every query is sent with options in range; as long as
nothing is typed in their inputs it is sent with the configured defaults; and no query changes the options
of the next, though it rewrites the inputs. -/
theorem options_stay_in_range (env : Environment σ) (c : Config) (start : σ) :
    (∀ b ∈ [OptionBounds.maxRows, OptionBounds.timeoutMs], ∀ (d : Nat) (input : String),
      let v := (b.withDefault d).clampInput input
      b.Allows v ∧
        (∀ x, readNumeral (trimChars input.toList) = some (.finite x) →
          (v : Int) = b.bring ⌊x.toRat⌋) ∧
        ((∀ x, readNumeral (trimChars input.toList) ≠ some (.finite x)) → (v : Int) = b.bring d) ∧
        (b.withDefault d).clampInput (natText v) = v) ∧
    (∀ ops, (∀ o, .reopen o ∈ ops → o.HasBounds) →
      ∀ token r, .query token r ∈ (Bench.run env ops (.new (.ofConfig c) start)).calls →
        r.options.InRange) ∧
    (∀ ops : List Operation, (∀ op ∈ ops, ¬ op.SetsOptions) →
      ∀ token r, .query token r ∈ (Bench.run env ops (.new (.ofConfig c) start)).calls →
        (r.options.maxRows : Int) =
            OptionBounds.maxRows.bring (c.maxRows.getD OptionBounds.maxRows.default) ∧
          (r.options.timeoutMs : Int) =
            OptionBounds.timeoutMs.bring (c.timeoutMs.getD OptionBounds.timeoutMs.default)) ∧
    ∀ b : Bench σ, b.desk.options.HasBounds →
      b.desk.queryOptions.InRange ∧ (runQuery env b).2.desk.queryOptions = b.desk.queryOptions ∧
        ∃ calls, (runQuery env b).2.calls = b.calls ++ calls ∧
          ∀ token r, Call.query token r ∈ calls → r.options = b.desk.queryOptions := by
  have hConfigured := WorkbenchOptions.hasDefaults_ofConfig c
  refine ⟨fun b hMem d input => ?_, fun ops hReopen => ?_, fun ops hOps token r hMem => ?_, ?_⟩
  · have hSound : b.IsSound := by
      simp only [List.mem_cons, List.not_mem_nil, or_false] at hMem
      rcases hMem with rfl | rfl
      · exact OptionBounds.isSound_maxRows
      · exact OptionBounds.isSound_timeoutMs
    have hSound' := hSound.withDefault d
    refine ⟨?_, fun x hRead => ?_, fun hOther => ?_, ?_⟩
    · exact OptionBounds.allows_clampInput hSound' input
    · exact OptionBounds.clampInput_of_finite hSound' hRead
    · rw [OptionBounds.clampInput_of_other hOther, OptionBounds.bring_withDefault hSound]
    · exact OptionBounds.clampInput_naturalDigits hSound' (OptionBounds.allows_clampInput hSound' input)
  · have hNone : (Bench.new (.ofConfig c) start).SentInRange := by
      simp [Bench.SentInRange, Bench.new, Bench.calls]
    exact run_sentInRange env hReopen hConfigured.hasBounds hNone
  · have hKept := run_keepsBounded env hOps (.new (.ofConfig c) start) hConfigured.hasBounds
    obtain ⟨calls, hCalls, hOptions⟩ := hKept.sent
    have hNew : (Bench.new (.ofConfig c) start).calls = [] := rfl
    rw [hCalls, hNew, List.nil_append] at hMem
    rw [hOptions token r hMem, Bench.new, Desk.queryOptions_new hConfigured.hasBounds,
      hConfigured.maxRows_eq, hConfigured.timeoutMs_eq]
    exact ⟨OptionBounds.bring_withDefault OptionBounds.isSound_maxRows _,
      OptionBounds.bring_withDefault OptionBounds.isSound_timeoutMs _⟩
  · intro b hBounds
    have hKept := runQuery_keepsBounded env b hBounds
    exact ⟨Desk.inRange_queryOptions hBounds, hKept.queryOptions_eq, hKept.sent⟩

/-- A query whose options were configured far below and far above their ranges is sent at the ends of
them. -/
theorem query_at_the_ends :
    let c : Config := { Config.empty with maxRows := some 0, timeoutMs := some 999999 }
    let outside : Script := { Script.ofSettings [] with
      tab := .ok 3
      replies := [.ok (.captured ⟨some .full, .full, "<p/>", none⟩)] }
    let b := Bench.run Script.environment
      [.typeToken "t", .typeQuery (.ofText "SELECT n".toList), .runQuery] (.new (.ofConfig c) outside)
    ∃ r, .query "t" r ∈ b.calls ∧ (r.options.maxRows : Int) = OptionBounds.maxRows.bring 0 ∧
      (r.options.timeoutMs : Int) = OptionBounds.timeoutMs.bring 999999 := by
  intro c outside b
  have hSent : Call.query "t" ⟨"<p/>", "SELECT n", ⟨1, 120000⟩⟩ ∈ b.calls := by decide +kernel
  obtain ⟨-, -, hDefaults, -⟩ := options_stay_in_range Script.environment c outside
  exact ⟨_, hSent, hDefaults _ (by simp [Operation.SetsOptions]) _ _ hSent⟩

end PageQuery
