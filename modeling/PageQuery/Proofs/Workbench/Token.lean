import PageQuery.Proofs.Workbench.Settings
/-!
What restoring and saving do to the token.

`restore_spec` and `saveToken_spec` say where token and token editor come from and what the settings
hold under the token's keys afterwards.
-/

namespace PageQuery

open Text

variable {σ : Type}

/-! ## 1. The parts of a restore do not fail -/

theorem sessionValue_completes (env : Environment σ) (key : String) :
    (sessionValue env key).Completes := by
  refine (Task.Completes.ask env _).bind fun answer => ?_
  cases answer with
  | ok value => exact Task.Completes.pure _
  | error f => exact Task.Completes.pure _

theorem cachedMarkup_completes (env : Environment σ) : (cachedMarkup env).Completes := by
  refine (sessionValue_completes env _).bind fun current => ?_
  cases current with
  | some html => exact Task.Completes.pure _
  | none =>
    refine (sessionValue_completes env _).bind fun before => ?_
    cases before with
    | none => exact Task.Completes.pure _
    | some html => exact (Task.Completes.ask env _).bind fun _ => Task.Completes.pure _

/-- Whatever becomes of the session cache, restoring the snapshot does not fail. -/
theorem restoreSnapshot_completes (env : Environment σ) : (restoreSnapshot env).Completes := by
  refine (cachedMarkup_completes env).bind fun markup => ?_
  cases markup with
  | none => exact Task.Completes.pure _
  | some html =>
    refine (sessionValue_completes env _).bind fun name => ?_
    cases name.bind Scope.parse? with
    | none => exact Task.Completes.pure _
    | some scope => exact (Task.Completes.onDesk _).bind fun _ => Task.Completes.pure _

theorem takeToken_run (found : Option String) (b : Bench σ) :
    takeToken found b =
      (.ok (), { b with desk := { b.desk with token := found.getD b.desk.token } }) := by
  cases found with
  | none => rfl
  | some token => rfl

theorem takeQuery_completes (found : Option String) : (takeQuery (σ := σ) found).Completes := by
  cases found with
  | none => exact Task.Completes.pure _
  | some query => exact fun _ => ⟨_, _, rfl⟩

theorem restoreRest_completes (env : Environment σ) : (restoreRest env).Completes :=
  (Task.Completes.onDesk _).bind fun _ =>
    (restoreSnapshot_completes env).bind fun _ => Task.Completes.onDesk _

/-! ## 2. Restoring -/

section Restoring

variable {env : Environment σ} {stored : σ → String → Option String} {failed : σ → Prop}
variable {keys : String → Prop} (hKeeps : KeepsSettings env stored failed)

include hKeeps

theorem takeQuery_retains (found : Option String) :
    (takeQuery (σ := σ) found).Moves (Retains stored failed keys Desk.token) :=
  (preserves_retains hKeeps).takeQuery (fun _ _ => rfl) found

theorem restoreRest_retains :
    (restoreRest env).Moves (Retains stored failed keys Desk.token) := by
  refine isFrame_retains.bind (retains_onDesk fun _ => rfl) fun _ => ?_
  refine isFrame_retains.bind (restoreSnapshot_retains hKeeps fun _ _ => rfl) fun _ => ?_
  exact retains_onDesk fun _ => rfl

theorem restoreRest_tokenEditor (b : Bench σ) :
    (restoreRest env b).2.desk.tokenEditor = .forToken b.desk.token false := by
  have hMoves : Task.Moves (Retains stored failed (fun _ => True) Desk.tokenEditor)
      (do setStatus (restoredStatus (← restoreSnapshot env))) := by
    refine isFrame_retains.bind (restoreSnapshot_retains hKeeps fun _ _ => rfl) fun _ => ?_
    exact retains_onDesk fun _ => rfl
  rw [restoreRest, Task.bind_ok (onDesk_run _ b)]
  exact (hMoves _).view_eq

theorem restoreAfterToken_retains :
    (restoreAfterToken env).Moves (Retains stored failed (· ≠ queryKey) Desk.token) := by
  have hLoad : (loadSetting env queryKey earlierQueryKey).Moves
      (Retains stored failed (· ≠ queryKey) Desk.token) :=
    fun b => (loadSetting_retains hKeeps queryKey earlierQueryKey b).part (fun _ => id) Desk.token
  refine isFrame_retains.bind hLoad fun found => ?_
  exact isFrame_retains.bind (takeQuery_retains hKeeps found) fun _ => restoreRest_retains hKeeps

theorem restoreAfterToken_spec (b : Bench σ)
    (hOk : ¬ failed (restoreAfterToken env b).2.outside) :
    ∃ b', restoreAfterToken env b = (.ok (), b') ∧
      b'.desk.tokenEditor = .forToken b.desk.token false := by
  have hRest : ∀ found : Option String, (takeQuery found >>= fun _ => restoreRest env).Moves
      (Retains stored failed (· ≠ queryKey) Desk.token) :=
    fun found => isFrame_retains.bind (takeQuery_retains hKeeps found)
      fun _ => restoreRest_retains hKeeps
  obtain ⟨b₁, hLoad, _⟩ := loadSetting_spec hKeeps queryKey earlierQueryKey b
    (not_failed_of_bind hRest hOk)
  obtain ⟨_, b₂, hTake⟩ := takeQuery_completes
    (foundSetting (stored b.outside) queryKey earlierQueryKey) b₁
  obtain ⟨_, b₃, hRun⟩ := restoreRest_completes env b₂
  have hDesk : b₁.desk = b.desk := by
    have h := (loadSetting_retains hKeeps queryKey earlierQueryKey b).view_eq
    rwa [hLoad] at h
  have hToken : b₂.desk.token = b₁.desk.token := by
    have h : Retains stored failed (· ≠ queryKey) Desk.token b₁ _ :=
      takeQuery_retains hKeeps (foundSetting (stored b.outside) queryKey earlierQueryKey) b₁
    rw [hTake] at h
    exact h.view_eq
  have hEditor := restoreRest_tokenEditor hKeeps b₂
  rw [hRun, hToken, hDesk] at hEditor
  refine ⟨b₃, ?_, hEditor⟩
  rw [restoreAfterToken, Task.bind_ok hLoad, Task.bind_ok hTake, hRun]

/-- **What restoring does to the token.** It takes the one that the settings hold, if there is one,
and leaves it under its key; the editor is open only if there is no token then. -/
theorem restore_spec (b : Bench σ) (hOk : ¬ failed (restore env b).2.outside) :
    ∃ b', restore env b = (.ok (), b') ∧
      b'.desk.token =
        (foundSetting (stored b.outside) tokenKey earlierTokenKey).getD b.desk.token ∧
      b'.desk.tokenEditor = .forToken b'.desk.token false ∧
      stored b'.outside tokenKey =
        (foundSetting (stored b.outside) tokenKey earlierTokenKey).or
          (stored b.outside tokenKey) ∧
      stored b'.outside earlierTokenKey = stored b.outside earlierTokenKey := by
  rw [restore_eq] at hOk ⊢
  have hRest : ∀ found : Option String, (takeToken found >>= fun _ => restoreAfterToken env).Moves
      (Retains stored failed (· ≠ queryKey) fun _ => ()) := by
    intro found
    refine isFrame_retains.bind
      ((preserves_retains hKeeps).takeToken (fun _ _ => rfl) found) fun _ b => ?_
    exact (restoreAfterToken_retains hKeeps b).part (fun _ => id) fun _ => ()
  have hLoadOk := not_failed_of_bind hRest hOk
  obtain ⟨b₁, hLoad, hStored⟩ := loadSetting_spec hKeeps tokenKey earlierTokenKey b hLoadOk
  have hKept := loadSetting_retains hKeeps tokenKey earlierTokenKey b
  rw [hLoad] at hKept hLoadOk
  have hDesk : b₁.desk = b.desk := hKept.view_eq
  have hEarlier : stored b₁.outside earlierTokenKey = stored b.outside earlierTokenKey :=
    hKept.stored_eq hLoadOk _ (by decide)
  rw [Task.bind_ok hLoad, Task.bind_ok (takeToken_run _ b₁)] at hOk ⊢
  obtain ⟨b', hRun, hEditor⟩ := restoreAfterToken_spec hKeeps _ hOk
  have hAfter := restoreAfterToken_retains hKeeps
    { b₁ with
      desk := { b₁.desk with
        token := (foundSetting (stored b.outside) tokenKey earlierTokenKey).getD b₁.desk.token } }
  rw [hRun] at hAfter hOk
  have hToken : b'.desk.token =
      (foundSetting (stored b.outside) tokenKey earlierTokenKey).getD b₁.desk.token :=
    hAfter.view_eq
  refine ⟨b', hRun, ?_, ?_, ?_, ?_⟩
  · rw [hToken, hDesk]
  · rw [hToken]
    exact hEditor
  · exact (hAfter.stored_eq hOk tokenKey (by decide)).trans hStored
  · exact (hAfter.stored_eq hOk earlierTokenKey (by decide)).trans hEarlier

/-- Restoring writes no settings but those of token and query. -/
theorem restore_retains :
    (restore env).Moves (Retains stored failed (fun key => key ≠ queryKey ∧ key ≠ tokenKey)
      fun _ => ()) :=
  (preserves_retains hKeeps).restore (fun _ _ _ _ => rfl) (fun _ _ _ hKey => if_neg hKey.2)
    (fun _ _ _ hKey => if_neg hKey.1) (fun _ _ _ _ _ => rfl)
    (restoreSnapshot_retains hKeeps fun _ _ => rfl)

/-! ## 3. Saving -/

omit hKeeps in
theorem noteSaved_spec (token : String) (b : Bench σ) :
    ∃ b', noteSaved token b = (.ok (), b') ∧ b'.desk.token = token ∧ b'.outside = b.outside := by
  rw [noteSaved]
  by_cases h : token = ""
  · rw [if_pos h]
    exact ⟨_, rfl, h.symm, rfl⟩
  · rw [if_neg h]
    exact ⟨_, rfl, rfl, rfl⟩

omit hKeeps in
theorem noteSaved_retains (answer : Except Fault Unit) (token : String) :
    (orStorage answer >>= fun _ => noteSaved (σ := σ) token).Moves
      (Retains stored failed keys fun _ => ()) := by
  refine isFrame_retains.bind (isFrame_retains.orStorage answer) fun _ b => ?_
  obtain ⟨b', hRun, _, hOutside⟩ := noteSaved_spec token b
  rw [hRun]
  exact ⟨fun h => hOutside ▸ h, rfl, fun _ _ _ => by rw [hOutside]⟩

/-- Saving the token writes no other setting. -/
theorem saveToken_retains :
    (saveToken env).Moves (Retains stored failed (· ≠ tokenKey) fun _ => ()) :=
  (preserves_retains hKeeps).saveToken (fun _ _ _ hOther => if_neg hOther) fun _ _ _ _ => rfl

/-- **What saving does to the token.** Without the blanks around it, it is on the desk and in the
settings. -/
theorem saveToken_spec (b : Bench σ) (hOk : ¬ failed (saveToken env b).2.outside) :
    ∃ b', saveToken env b = (.ok (), b') ∧ b'.desk.token = trim b.desk.token ∧
      stored b'.outside tokenKey = some (trim b.desk.token) := by
  rw [saveToken_eq, Task.bind_ok (theDesk_run b)] at hOk ⊢
  have hRest : ∀ answer, (orStorage answer >>= fun _ => noteSaved (trim b.desk.token)).Moves
      (Retains stored failed (· ≠ tokenKey) fun _ => ()) := fun answer => noteSaved_retains answer _
  have hWritten : ¬ failed (b.ask env (.writeSetting tokenKey (trim b.desk.token))).2.outside :=
    not_failed_of_bind hRest hOk
  have hReply : (b.ask env (.writeSetting tokenKey (trim b.desk.token))).1 = .ok () :=
    hKeeps.write hWritten
  obtain ⟨b', hRun, hToken, hOutside⟩ := noteSaved_spec (trim b.desk.token)
    (b.ask env (.writeSetting tokenKey (trim b.desk.token))).2
  refine ⟨b', ?_, hToken, ?_⟩
  · rw [Task.bind_ok (ask_run env _ b), hReply, Task.bind_ok (orStorage_ok () _)]
    exact hRun
  · rw [hOutside]
    show stored (env _ b.outside).2 tokenKey = _
    rw [hKeeps.stored_after hWritten, Call.settingsAfter_written]

end Restoring

end PageQuery
