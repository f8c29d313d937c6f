import PageQuery.Proofs.Workbench.Operations
import PageQuery.Proofs.Workbench.Scripted
/-!
A token that was cleared.

Saving a blank token puts an empty text under the token's key, and an empty text counts as none. So
the next restore looks under the earlier key, which no operation ever writes or clears: if something
is there, it is taken for the token and moved, and the cleared token is back. The main statement is
`restore_after_clearing`, which says exactly when.
-/

namespace PageQuery

open Text

variable {σ : Type}

/-! ## 1. The invariant -/

/-- Since the token was cleared, nothing but what the earlier key holds has come under its key. -/
structure IsCleared (held : String → Option String) (earlier : Option String) : Prop where
  earlier_eq : held earlierTokenKey = earlier
  current : filled (held tokenKey) = none ∨ filled (held tokenKey) = filled earlier

/-- What is found for a cleared token is what the earlier key holds. -/
theorem IsCleared.found {held : String → Option String} {earlier : Option String}
    (h : IsCleared held earlier) : foundSetting held tokenKey earlierTokenKey = filled earlier := by
  rw [foundSetting, h.earlier_eq]
  rcases h.current with hNone | hSame
  · rw [hNone]
    rfl
  · rw [hSame]
    cases filled earlier with
    | none => rfl
    | some token => rfl

theorem filled_getD_eq_empty (value : Option String) (token : String) :
    (filled value).getD token = "" ↔ filled value = none ∧ token = "" := by
  cases hFilled : filled value with
  | none => simp
  | some text =>
    have hText : text ≠ "" := by simpa using (Option.filter_eq_some_iff.mp hFilled).2
    simp [hText]

section Runs

variable {env : Environment σ} {stored : σ → String → Option String} {failed : σ → Prop}
variable {earlier : Option String} (hKeeps : KeepsSettings env stored failed)

include hKeeps

/-- A blank token that is saved is cleared. -/
theorem isCleared_of_save {op : Operation} {b : Bench σ} (hSave : op.SavesToken b)
    (hBlank : trim b.desk.token = "") (hOk : ¬ failed (op.perform env b).2.outside) :
    (op.perform env b).1 = .ok () ∧ (op.perform env b).2.desk.token = "" ∧
      IsCleared (stored (op.perform env b).2.outside) (stored b.outside earlierTokenKey) := by
  have hEarlier := (perform_retains hKeeps op b).stored_eq hOk earlierTokenKey rfl
  obtain ⟨b', hRun, hToken, hStored⟩ := perform_save hKeeps hSave hOk
  rw [hRun] at hEarlier ⊢
  refine ⟨rfl, hToken.trans hBlank, hEarlier, Or.inl ?_⟩
  rw [hStored, hBlank]
  rfl

/-- Restoring a cleared token takes what the earlier key holds, and asks for a token only if that is
nothing and there is none on the desk. -/
theorem IsCleared.restore {b : Bench σ} (h : IsCleared (stored b.outside) earlier)
    (hOk : ¬ failed (restore env b).2.outside) :
    (PageQuery.restore env b).1 = .ok () ∧
      (PageQuery.restore env b).2.desk.token = (filled earlier).getD b.desk.token ∧
      (PageQuery.restore env b).2.desk.tokenEditor =
        .forToken (PageQuery.restore env b).2.desk.token false ∧
      (((PageQuery.restore env b).2.desk.token = "" ∧
        (PageQuery.restore env b).2.desk.tokenEditor = ⟨true, TokenEditor.missingHelp⟩) ↔
          filled earlier = none ∧ b.desk.token = "") := by
  obtain ⟨b', hRun, hTaken, hEditor, _⟩ := restore_spec hKeeps b hOk
  rw [h.found] at hTaken
  rw [hRun, ← filled_getD_eq_empty, ← hTaken]
  refine ⟨rfl, rfl, hEditor, And.left, fun hEmpty => ⟨hEmpty, ?_⟩⟩
  show b'.desk.tokenEditor = _
  rw [hEditor, show b'.desk.token = "" from hEmpty]
  decide

/-- An operation that does not save the token keeps it cleared. -/
theorem IsCleared.perform {op : Operation} {b : Bench σ}
    (h : IsCleared (stored b.outside) earlier) (hSave : ¬ op.SavesToken b)
    (hOk : ¬ failed (op.perform env b).2.outside) :
    IsCleared (stored (op.perform env b).2.outside) earlier := by
  by_cases hRestore : op = .restore
  · subst hRestore
    obtain ⟨b', hRun, _, _, hCurrent, hEarlier⟩ := restore_spec hKeeps b hOk
    rw [Operation.perform, hRun]
    refine ⟨hEarlier.trans h.earlier_eq, ?_⟩
    rw [hCurrent, h.found]
    cases hFilled : filled earlier with
    | none => exact h.current.elim Or.inl fun hSame => Or.inl (hSame.trans hFilled)
    | some token =>
      right
      rw [Option.some_or, ← hFilled, filled_filled]
  · obtain ⟨hOther, _⟩ := perform_other hKeeps hSave hRestore
    refine ⟨?_, ?_⟩
    · rw [hOther.stored_eq hOk earlierTokenKey (by decide)]
      exact h.earlier_eq
    · rw [hOther.stored_eq hOk tokenKey (by decide)]
      exact h.current

/-- A run in which the token is not saved keeps it cleared. -/
theorem IsCleared.run : ∀ (ops : List Operation) {b : Bench σ},
    IsCleared (stored b.outside) earlier → Bench.NoTokenSave env ops b →
    ¬ failed (Bench.run env ops b).outside →
    IsCleared (stored (Bench.run env ops b).outside) earlier
  | [], _, h, _, _ => h
  | op :: rest, b, h, hSaves, hOk =>
      have hStep : ¬ failed (op.perform env b).2.outside :=
        mt (run_retains hKeeps rest _).failed_after hOk
      IsCleared.run rest (h.perform hKeeps hSaves.1 hStep) hSaves.2 hOk

/-- If the earlier key holds nothing, the desk stays without a token until one is typed in. -/
theorem run_token_empty : ∀ (ops : List Operation) {b : Bench σ},
    IsCleared (stored b.outside) earlier → filled earlier = none → b.desk.token = "" →
    Bench.NoTokenSave env ops b → (∀ op ∈ ops, ¬ op.TypesToken) →
    ¬ failed (Bench.run env ops b).outside → (Bench.run env ops b).desk.token = ""
  | [], _, _, _, hToken, _, _, _ => hToken
  | op :: rest, b, h, hNone, hToken, hSaves, hTypes, hOk => by
      have hStep : ¬ failed (op.perform env b).2.outside :=
        mt (run_retains hKeeps rest _).failed_after hOk
      have hNext : (op.perform env b).2.desk.token = "" := by
        by_cases hRestore : op = .restore
        · subst hRestore
          obtain ⟨b', hRun, hTaken, _⟩ := restore_spec hKeeps b hStep
          rw [h.found, hNone] at hTaken
          rw [Operation.perform, hRun]
          exact hTaken.trans hToken
        · rw [(perform_other hKeeps hSaves.1 hRestore).2]
          cases op with
          | typeToken text => exact absurd trivial (hTypes _ List.mem_cons_self)
          | reopen options => rfl
          | trigger | restore | capture | runQuery | saveToken | copyExport | exportToFile
          | editToken | typeQuery | typeMaxRows | typeTimeout | setGate => exact hToken
      exact run_token_empty rest (h.perform hKeeps hSaves.1 hStep) hNone hNext hSaves.2
        (fun other hMem => hTypes other (List.mem_cons_of_mem _ hMem)) hOk

end Runs

/-! ## 2. Restoring after the token was cleared -/

/-- **When a cleared token comes back.** In a run whose settings reads and writes succeed, let a blank
token be saved, and let it be restored after operations that save no token. Saving and restoring
succeed, and the token is then the one that the earlier key held before the run, if there is one, and
else the one on the desk. So the workbench has no token and asks for one exactly if that key held
none and none was typed in since; where nobody types, the earlier key alone decides. -/
theorem restore_after_clearing {env : Environment σ} {stored : σ → String → Option String}
    {failed : σ → Prop} (hKeeps : KeepsSettings env stored failed) (start : Bench σ)
    (before after : List Operation) (save : Operation)
    (hSave : save.SavesToken (Bench.run env before start))
    (hBlank : trim (Bench.run env before start).desk.token = "")
    (hAfter : Bench.NoTokenSave env after (save.perform env (Bench.run env before start)).2)
    (hOk : ¬ failed (restore env
      (Bench.run env after (save.perform env (Bench.run env before start)).2)).2.outside) :
    let cleared := save.perform env (Bench.run env before start)
    let last := Bench.run env after cleared.2
    let restored := restore env last
    let earlier := filled (stored start.outside earlierTokenKey)
    let asksForToken := restored.2.desk.token = "" ∧
      restored.2.desk.tokenEditor = ⟨true, TokenEditor.missingHelp⟩
    cleared.1 = .ok () ∧ restored.1 = .ok () ∧
    restored.2.desk.token = earlier.getD last.desk.token ∧
    restored.2.desk.tokenEditor = .forToken restored.2.desk.token false ∧
    (asksForToken ↔ earlier = none ∧ last.desk.token = "") ∧
    ((∀ op ∈ after, ¬ op.TypesToken) → (asksForToken ↔ earlier = none)) := by
  intro cleared last restored earlier asksForToken
  have hLastOk : ¬ failed last.outside := mt (restore_retains hKeeps last).failed_after hOk
  have hClearedOk : ¬ failed cleared.2.outside := mt (run_retains hKeeps after _).failed_after hLastOk
  have hBeforeOk : ¬ failed (Bench.run env before start).outside :=
    mt (perform_retains hKeeps save _).failed_after hClearedOk
  obtain ⟨hSaved, hNoToken, hCleared⟩ := isCleared_of_save hKeeps hSave hBlank hClearedOk
  rw [(run_retains hKeeps before start).stored_eq hBeforeOk _ rfl] at hCleared
  have hLast := hCleared.run hKeeps after hAfter hLastOk
  obtain ⟨hRestored, hToken, hEditor, hAsks⟩ := hLast.restore hKeeps hOk
  refine ⟨hSaved, hRestored, hToken, hEditor, hAsks, fun hTypes => ?_⟩
  refine hAsks.trans ⟨And.left, fun hNone => ⟨hNone, ?_⟩⟩
  exact run_token_empty hKeeps after hCleared hNone hNoToken hAfter hTypes hLastOk

/-- A token of an earlier version is restored, cleared, and back after the next restore. -/
theorem cleared_token_comes_back :
    let typed := Bench.run Script.environment [.restore, .typeToken " "]
      (.new .standard (.ofSettings [(earlierTokenKey, "old")]))
    let cleared := Operation.saveToken.perform Script.environment typed
    let restored := restore Script.environment
      (Bench.run Script.environment [.trigger .capture, .editToken] cleared.2)
    trim typed.desk.token = "" ∧ cleared.1 = .ok () ∧ cleared.2.desk.token = "" ∧
    restored.1 = .ok () ∧ restored.2.desk.token = "old" := by
  have hBlank : trim (Bench.run Script.environment [.restore, .typeToken " "]
      (.new .standard (.ofSettings [(earlierTokenKey, "old")]))).desk.token = "" := by decide
  obtain ⟨hCleared, hRestored, hToken, _⟩ := restore_after_clearing Script.keepsSettings
    (.new .standard (.ofSettings [(earlierTokenKey, "old")])) [.restore, .typeToken " "]
    [.trigger .capture, .editToken] .saveToken trivial hBlank ⟨id, id, trivial⟩ (by
      rintro (hReads | hWrites)
      · exact hReads (by decide)
      · exact hWrites (by decide))
  exact ⟨hBlank, hCleared, by decide, hRestored, hToken⟩

end PageQuery
