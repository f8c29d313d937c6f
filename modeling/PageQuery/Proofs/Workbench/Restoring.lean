import PageQuery.Proofs.Workbench.SharedSession
/-!
Restoring, and restoring again.

Where no settings read or write fails, all that a restore does is a function of the desk and of what the
stores hold: `Desk.restored`, `settingsRestored` and `SessionCache.restored` are its parts, and
`restore_leaves` says so. Each finds in what it leaves what it found before, also where the cache refuses
the markup that is to be moved, as it will refuse it again. So a second restore changes nothing, which is
`restore_settles`.
-/

namespace PageQuery

open Text Query

variable {σ : Type}

/-! ## 1. What is left -/

/-- The settings after a restore. -/
def settingsRestored (held : String → Option String) : String → Option String :=
  settingMoved queryKey earlierQueryKey (settingMoved tokenKey earlierTokenKey held)

/-- The desk after a restore from settings and a session cache. -/
def Desk.restored (d : Desk) (held cached : String → Option String) : Desk :=
  let token := (foundSetting held tokenKey earlierTokenKey).getD d.token
  { d with
    token := token
    tokenEditor := .forToken token false
    editor := ((foundSetting held queryKey earlierQueryKey).map fun query =>
      .ofText query.toList).getD d.editor
    snapshot := d.snapshotAfter (foundPair cached)
    status := restoredStatus (foundSize cached) }

/-! ## 2. What is found in it -/

/-- A setting is found where it was moved to. -/
theorem foundSetting_moved {key earlier : String} (hKeys : earlier ≠ key)
    (held : String → Option String) :
    foundSetting (settingMoved key earlier held) key earlier = foundSetting held key earlier := by
  have hKey : settingMoved key earlier held key =
      (foundSetting held key earlier).or (held key) := if_pos rfl
  rw [foundSetting, settingMoved_of_ne hKeys, hKey, foundSetting]
  cases hCurrent : filled (held key) with
  | some value => simp [filled_of_filled hCurrent]
  | none =>
    cases hEarlier : filled (held earlier) with
    | some value => simp [filled_of_filled hEarlier]
    | none => simp [hCurrent]

/-- Moving another setting does not change what is found. -/
theorem foundSetting_moved_other {key earlier key' : String} (hKey : key ≠ key')
    (hEarlier : earlier ≠ key') (earlier' : String) (held : String → Option String) :
    foundSetting (settingMoved key' earlier' held) key earlier = foundSetting held key earlier := by
  rw [foundSetting, foundSetting, settingMoved_of_ne hKey, settingMoved_of_ne hEarlier]

theorem foundToken_restored (held : String → Option String) :
    foundSetting (settingsRestored held) tokenKey earlierTokenKey =
      foundSetting held tokenKey earlierTokenKey := by
  rw [settingsRestored, foundSetting_moved_other (by decide) (by decide),
    foundSetting_moved (by decide)]

theorem foundQuery_restored (held : String → Option String) :
    foundSetting (settingsRestored held) queryKey earlierQueryKey =
      foundSetting held queryKey earlierQueryKey := by
  rw [settingsRestored, foundSetting_moved (by decide),
    foundSetting_moved_other (by decide) (by decide)]

theorem settingsRestored_token (held : String → Option String) :
    settingsRestored held tokenKey =
      (foundSetting held tokenKey earlierTokenKey).or (held tokenKey) := by
  rw [settingsRestored, settingMoved_of_ne (by decide), settingMoved, if_pos rfl]

theorem settingsRestored_query (held : String → Option String) :
    settingsRestored held queryKey =
      (foundSetting held queryKey earlierQueryKey).or (held queryKey) := by
  rw [settingsRestored, settingMoved, if_pos rfl,
    foundSetting_moved_other (by decide) (by decide), settingMoved_of_ne (by decide)]

theorem settingsRestored_other {key : String} (hToken : key ≠ tokenKey) (hQuery : key ≠ queryKey)
    (held : String → Option String) : settingsRestored held key = held key := by
  rw [settingsRestored, settingMoved_of_ne hQuery, settingMoved_of_ne hToken]

theorem settingsRestored_restored (held : String → Option String) :
    settingsRestored (settingsRestored held) = settingsRestored held := by
  funext key
  by_cases hToken : key = tokenKey
  · subst hToken
    rw [settingsRestored_token, foundToken_restored, settingsRestored_token, ← Option.or_assoc,
      Option.or_self]
  by_cases hQuery : key = queryKey
  · subst hQuery
    rw [settingsRestored_query, foundQuery_restored, settingsRestored_query, ← Option.or_assoc,
      Option.or_self]
  · exact settingsRestored_other hToken hQuery _

namespace SessionCache

variable (c : SessionCache)

theorem restored_of_filled {c : SessionCache} {html : String}
    (h : filled (c.get? snapshotKey) = some html) : c.restored = c := by
  rw [restored, h]

theorem restored_restored : c.restored.restored = c.restored := by
  rcases c.restored_cases with hSame | ⟨-, html, hHtml⟩
  · rw [hSame, hSame]
  · exact restored_of_filled hHtml

theorem foundMarkup_restored :
    foundSetting c.restored.get? snapshotKey earlierSnapshotKey =
      foundSetting c.get? snapshotKey earlierSnapshotKey := by
  rcases c.restored_cases with hSame | ⟨hMoved, -⟩
  · rw [hSame]
  · rw [hMoved, foundSetting_moved (by decide)]

theorem foundPair_restored : foundPair c.restored.get? = foundPair c.get? := by
  rw [foundPair, c.foundMarkup_restored, c.scope_restored, foundPair]

theorem foundSize_restored : foundSize c.restored.get? = foundSize c.get? := by
  rw [foundSize, c.foundMarkup_restored, c.scope_restored, foundSize]

end SessionCache

/-- A desk that was restored is not changed by being restored from what that left. -/
theorem Desk.restored_restored (d : Desk) (held : String → Option String) (c : SessionCache) :
    (d.restored held c.get?).restored (settingsRestored held) c.restored.get? =
      d.restored held c.get? := by
  simp only [Desk.restored, Desk.snapshotAfter, foundToken_restored, foundQuery_restored,
    c.foundPair_restored, c.foundSize_restored, ← Option.getD_or, ← Option.or_assoc, Option.or_self]

/-! ## 3. What a restore leaves -/

section Restoring

variable {env : Environment σ} {stored : σ → String → Option String} {failed : σ → Prop}
variable {cache : σ → SessionCache}
variable (hKeeps : KeepsSettings env stored failed) (hServes : ServesSession env cache)

include hServes hKeeps

/-- Reading a setting moves it, and does nothing else. -/
theorem loadSetting_leaves {key earlier : String} (b : Bench σ)
    (hOk : ¬ failed (loadSetting env key earlier b).2.outside) :
    ∃ b', loadSetting env key earlier b =
        (.ok (foundSetting (stored b.outside) key earlier), b') ∧ b'.desk = b.desk ∧
      stored b'.outside = settingMoved key earlier (stored b.outside) ∧
      cache b'.outside = cache b.outside := by
  obtain ⟨b', hRun, hStored⟩ := loadSetting_spec hKeeps key earlier b hOk
  have hKept := loadSetting_retains hKeeps key earlier b
  have hSpared : SparesSnapshot cache b (loadSetting env key earlier b).2 :=
    (preserves_sparesSnapshot hServes).loadSetting key earlier (by simp) (by simp) b
  rw [hRun] at hKept hSpared hOk
  refine ⟨b', hRun, hKept.view_eq, ?_, hSpared.1⟩
  funext k
  by_cases hKey : k = key
  · subst hKey
    rw [hStored, settingMoved, if_pos rfl]
  · rw [settingMoved_of_ne hKey]
    exact hKept.stored_eq hOk k hKey

omit hKeeps hServes in
theorem takeQuery_run (found : Option String) (b : Bench σ) :
    takeQuery found b =
      (.ok (), { b with desk := { b.desk with
        editor := (found.map fun query => .ofText query.toList).getD b.desk.editor } }) := by
  cases found with
  | none => rfl
  | some query => rfl

/-- The last part of a restore takes over the snapshot and reports it. -/
theorem restoreRest_leaves (b : Bench σ) (hOk : ¬ failed (restoreRest env b).2.outside) :
    ∃ b', restoreRest env b = (.ok (), b') ∧
      b'.desk = { b.desk with
        tokenEditor := .forToken b.desk.token false
        snapshot := b.desk.snapshotAfter (foundPair (cache b.outside).get?)
        status := restoredStatus (foundSize (cache b.outside).get?) } ∧
      stored b'.outside = stored b.outside ∧ cache b'.outside = (cache b.outside).restored := by
  obtain ⟨b₁, hRun, hDesk, hCache, -⟩ := restoreSnapshot_spec hServes
    { b with desk := { b.desk with tokenEditor := .forToken b.desk.token false } }
  have hKept : Retains stored failed (fun _ => True) Desk.token b (restoreRest env b).2 :=
    restoreRest_retains hKeeps b
  rw [restoreRest, Task.bind_ok (onDesk_run _ b), Task.bind_ok hRun] at hKept hOk ⊢
  refine ⟨_, rfl, ?_, funext fun key => hKept.stored_eq hOk key trivial, hCache⟩
  simp only [hDesk]
  rfl

theorem restoreAfterToken_leaves (b : Bench σ)
    (hOk : ¬ failed (restoreAfterToken env b).2.outside) :
    ∃ b', restoreAfterToken env b = (.ok (), b') ∧
      b'.desk = { b.desk with
        editor := ((foundSetting (stored b.outside) queryKey earlierQueryKey).map fun query =>
          .ofText query.toList).getD b.desk.editor
        tokenEditor := .forToken b.desk.token false
        snapshot := b.desk.snapshotAfter (foundPair (cache b.outside).get?)
        status := restoredStatus (foundSize (cache b.outside).get?) } ∧
      stored b'.outside = settingMoved queryKey earlierQueryKey (stored b.outside) ∧
      cache b'.outside = (cache b.outside).restored := by
  have hRest : ∀ found : Option String, (takeQuery found >>= fun _ => restoreRest env).Moves
      (Retains stored failed (fun _ => True) Desk.token) :=
    fun found => isFrame_retains.bind (takeQuery_retains hKeeps found)
      fun _ => restoreRest_retains hKeeps
  obtain ⟨b₁, hLoad, hDesk₁, hStored₁, hCache₁⟩ :=
    loadSetting_leaves hKeeps hServes b (not_failed_of_bind hRest hOk)
  rw [restoreAfterToken, Task.bind_ok hLoad, Task.bind_ok (takeQuery_run _ b₁)] at hOk ⊢
  obtain ⟨b', hRun, hDesk, hStored, hCache⟩ := restoreRest_leaves hKeeps hServes _ hOk
  refine ⟨b', hRun, ?_, hStored.trans hStored₁, hCache.trans (by rw [hCache₁])⟩
  rw [hDesk]
  simp only [hDesk₁, hCache₁]
  rfl

/-- **All that a restore does**, where no settings read or write fails. -/
theorem restore_leaves (b : Bench σ) (hOk : ¬ failed (restore env b).2.outside) :
    ∃ b', restore env b = (.ok (), b') ∧
      b'.desk = b.desk.restored (stored b.outside) (cache b.outside).get? ∧
      stored b'.outside = settingsRestored (stored b.outside) ∧
      cache b'.outside = (cache b.outside).restored := by
  rw [restore_eq] at hOk ⊢
  have hRest : ∀ found : Option String, (takeToken found >>= fun _ => restoreAfterToken env).Moves
      (Retains stored failed (· ≠ queryKey) fun _ => ()) := by
    intro found
    refine isFrame_retains.bind
      ((preserves_retains hKeeps).takeToken (fun _ _ => rfl) found) fun _ b => ?_
    exact (restoreAfterToken_retains hKeeps b).part (fun _ => id) fun _ => ()
  obtain ⟨b₁, hLoad, hDesk₁, hStored₁, hCache₁⟩ :=
    loadSetting_leaves hKeeps hServes b (not_failed_of_bind hRest hOk)
  rw [Task.bind_ok hLoad, Task.bind_ok (takeToken_run _ b₁)] at hOk ⊢
  obtain ⟨b', hRun, hDesk, hStored, hCache⟩ := restoreAfterToken_leaves hKeeps hServes _ hOk
  refine ⟨b', hRun, ?_, hStored.trans (by rw [hStored₁]; rfl), hCache.trans (by rw [hCache₁])⟩
  have hQuery : foundSetting (settingMoved tokenKey earlierTokenKey (stored b.outside)) queryKey
      earlierQueryKey = foundSetting (stored b.outside) queryKey earlierQueryKey :=
    foundSetting_moved_other (by decide) (by decide) _ _
  rw [hDesk]
  simp only [hDesk₁, hStored₁, hCache₁, hQuery]
  rfl

end Restoring

/-! ## 4. Restoring again -/

/-- **A restore takes what the settings hold, and a second one changes nothing.** Let stores hold
anything, let no settings read or write fail, and let the session cache refuse writes for its quota. A
restore takes the token, and likewise the query, from its key if that holds a text that is not empty, and
else from the earlier key, and leaves what it found under its key; if it finds nothing, token and query
stay as they are. No other setting changes. Restoring once more leaves the whole desk, all settings and
the session cache as the first restore left them. -/
theorem restore_settles {env : Environment σ} {stored : σ → String → Option String}
    {failed : σ → Prop} {cache : σ → SessionCache} (hKeeps : KeepsSettings env stored failed)
    (hServes : ServesSession env cache) (b : Bench σ)
    (hOk : ¬ failed (restore env (restore env b).2).2.outside) :
    let once := restore env b
    let twice := restore env once.2
    let held := stored b.outside
    let token := foundSetting held tokenKey earlierTokenKey
    let query := foundSetting held queryKey earlierQueryKey
    once.1 = .ok () ∧
    once.2.desk.token = token.getD b.desk.token ∧
    once.2.desk.editor = (query.map fun text => .ofText text.toList).getD b.desk.editor ∧
    (∀ text, token = some text → stored once.2.outside tokenKey = some text) ∧
    (∀ text, query = some text → stored once.2.outside queryKey = some text) ∧
    (∀ key, (key = tokenKey → token = none) → (key = queryKey → query = none) →
      stored once.2.outside key = held key) ∧
    twice.1 = .ok () ∧ twice.2.desk = once.2.desk ∧
    stored twice.2.outside = stored once.2.outside ∧
    cache twice.2.outside = cache once.2.outside := by
  intro once twice held token query
  have hOnceOk : ¬ failed once.2.outside := mt (restore_retains hKeeps once.2).failed_after hOk
  obtain ⟨b₁, hOnce, hDesk₁, hStored₁, hCache₁⟩ := restore_leaves hKeeps hServes b hOnceOk
  obtain ⟨b₂, hTwice, hDesk₂, hStored₂, hCache₂⟩ := restore_leaves hKeeps hServes once.2 hOk
  have hBench : once.2 = b₁ := congrArg Prod.snd hOnce
  rw [hBench, hStored₁] at hDesk₂ hStored₂
  rw [hBench, hCache₁] at hCache₂
  rw [hCache₁, hDesk₁, Desk.restored_restored, ← hDesk₁] at hDesk₂
  rw [settingsRestored_restored, ← hStored₁] at hStored₂
  rw [SessionCache.restored_restored, ← hCache₁] at hCache₂
  rw [show twice = (.ok (), b₂) from hTwice, show once = (.ok (), b₁) from hOnce]
  refine ⟨rfl, congrArg Desk.token hDesk₁, congrArg Desk.editor hDesk₁, fun text hToken => ?_,
    fun text hQuery => ?_, fun key hToken hQuery => ?_, rfl, hDesk₂, hStored₂, hCache₂⟩
  · show stored b₁.outside tokenKey = some text
    rw [hStored₁, settingsRestored_token,
      show foundSetting (stored b.outside) tokenKey earlierTokenKey = some text from hToken,
      Option.some_or]
  · show stored b₁.outside queryKey = some text
    rw [hStored₁, settingsRestored_query,
      show foundSetting (stored b.outside) queryKey earlierQueryKey = some text from hQuery,
      Option.some_or]
  · show stored b₁.outside key = held key
    rw [hStored₁]
    by_cases hTokenKey : key = tokenKey
    · subst hTokenKey
      rw [settingsRestored_token,
        show foundSetting (stored b.outside) tokenKey earlierTokenKey = none from hToken rfl,
        Option.none_or]
    by_cases hQueryKey : key = queryKey
    · subst hQueryKey
      rw [settingsRestored_query,
        show foundSetting (stored b.outside) queryKey earlierQueryKey = none from hQuery rfl,
        Option.none_or]
    · exact settingsRestored_other hTokenKey hQueryKey _

namespace Script

/-- A script with a session cache that fails for its quota alone keeps settings as any other does. -/
theorem faultless_keepsSettings :
    KeepsSettings faultless (fun s key => s.settings.get? key) HasSettingsFaults where
  failed_after {_ s} h := keepsSettings.failed_after (s := { s with sessionFaults := .none }) h
  read {_ s} h := keepsSettings.read (s := { s with sessionFaults := .none }) h
  write {_ _ s} h := keepsSettings.write (s := { s with sessionFaults := .none }) h
  stored_after {_ s} h := keepsSettings.stored_after (s := { s with sessionFaults := .none }) h

end Script

/-- What an earlier version left, with a cleared token and a session cache that is too full for markup to
be moved. -/
def earlierLeavings : Bench Script :=
  .new .standard
    { Script.ofSettings [(tokenKey, ""), (earlierTokenKey, "old"), (earlierQueryKey, "SELECT a")] with
      session := ⟨60, [(earlierSnapshotKey, "<p>old</p>"), (scopeKey, "full")]⟩ }

/-- Token and query are moved and the markup is refused, and so it is again. -/
theorem restore_earlierLeavings :
    let once := restore Script.faultless earlierLeavings
    let twice := restore Script.faultless once.2
    ¬ twice.2.outside.HasSettingsFaults ∧
    once.2.desk.token = "old" ∧ once.2.outside.settings.get? tokenKey = some "old" ∧
    once.2.outside.settings.get? queryKey = some "SELECT a" ∧
    once.2.outside.session.get? snapshotKey = none ∧ once.2.desk.snapshot.isSome = true ∧
    twice.2.desk = once.2.desk ∧ twice.2.outside.session = once.2.outside.session := by
  intro once twice
  have hOk : ¬ twice.2.outside.HasSettingsFaults := by
    rintro (hReads | hWrites)
    · exact hReads (by decide +kernel)
    · exact hWrites (by decide +kernel)
  obtain ⟨-, hToken, -, hTokenKept, hQueryKept, -, -, hDesk, -, hSession⟩ :=
    restore_settles Script.faultless_keepsSettings Script.servesSession earlierLeavings hOk
  exact ⟨hOk, hToken, hTokenKept "old" (by decide), hQueryKept "SELECT a" (by decide),
    by decide +kernel, by decide +kernel, hDesk, hSession⟩

end PageQuery
