import PageQuery.Proofs.Workbench.Frame
/-!
What tasks do to the settings.

The store is not ours, so what it holds is given by a view `stored` of the outside, and `failed`
says that a settings read or write has failed by now. `KeepsSettings` is what makes it a store. Only
a query, a restored setting and a saved token write to it: `Retains` says what a task leaves alone,
and `loadSetting_spec` what is found and moved when a setting is read.
-/

namespace PageQuery

variable {σ α β γ : Type}

/-! ## 1. The store -/

/-- The settings after a call, from those before it. -/
def Call.settingsAfter : Call → (String → Option String) → String → Option String
  | .writeSetting key value, held => fun k => if k = key then some value else held k
  | _, held => held

theorem Call.settingsAfter_written (key value : String) (held : String → Option String) :
    (Call.writeSetting key value).settingsAfter held key = some value := if_pos rfl

theorem Call.settingsAfter_of_not_write {c : Call} (h : ¬ ∃ key value, c = .writeSetting key value)
    (held : String → Option String) : c.settingsAfter held = held := by
  cases c with
  | writeSetting key value => exact absurd ⟨key, value, rfl⟩ h
  | _ => rfl

/-- An outside with a settings store. Until a read or write fails, it reads what it holds and holds
what was written last. -/
structure KeepsSettings (env : Environment σ) (stored : σ → String → Option String)
    (failed : σ → Prop) : Prop where
  failed_after {c : Call} {s : σ} : failed s → failed (env c s).2
  read {key : String} {s : σ} : ¬ failed (env (.readSetting key) s).2 →
    (env (.readSetting key) s).1 = .ok (stored s key)
  write {key value : String} {s : σ} : ¬ failed (env (.writeSetting key value) s).2 →
    (env (.writeSetting key value) s).1 = .ok ()
  stored_after {c : Call} {s : σ} : ¬ failed (env c s).2 →
    stored (env c s).2 = c.settingsAfter (stored s)

/-! ## 2. What is left alone -/

/-- A failure is not forgotten; the view of the desk is the same; and if nothing failed, so are the
settings under the keys. -/
structure Retains (stored : σ → String → Option String) (failed : σ → Prop) (keys : String → Prop)
    (view : Desk → γ) (b b' : Bench σ) : Prop where
  failed_after : failed b.outside → failed b'.outside
  view_eq : view b'.desk = view b.desk
  stored_eq : ¬ failed b'.outside → ∀ key, keys key → stored b'.outside key = stored b.outside key

section Retains

variable {env : Environment σ} {stored : σ → String → Option String} {failed : σ → Prop}
variable {keys : String → Prop} {view : Desk → γ}

theorem isFrame_retains : IsFrame (Retains stored failed keys view) where
  refl _ := ⟨id, rfl, fun _ _ _ => rfl⟩
  trans h h' :=
    { failed_after := fun hFailed => h'.failed_after (h.failed_after hFailed)
      view_eq := h'.view_eq.trans h.view_eq
      stored_eq := fun hOk key hKey =>
        (h'.stored_eq hOk key hKey).trans (h.stored_eq (mt h'.failed_after hOk) key hKey) }

/-- What is the same as a whole is the same in part. -/
theorem Retains.part {b b' : Bench σ} (h : Retains stored failed keys view b b')
    {keys' : String → Prop} (hKeys : ∀ key, keys' key → keys key) (part : γ → β) :
    Retains stored failed keys' (fun d => part (view d)) b b' where
  failed_after := h.failed_after
  view_eq := congrArg part h.view_eq
  stored_eq hOk key hKey := h.stored_eq hOk key (hKeys key hKey)

theorem KeepsSettings.bench_ask (hKeeps : KeepsSettings env stored failed) {c : Call}
    (hCall : ∀ held key, keys key → c.settingsAfter held key = held key) (b : Bench σ) :
    Retains stored failed keys view b (b.ask env c).2 where
  failed_after := hKeeps.failed_after
  view_eq := rfl
  stored_eq hOk key hKey := by
    show stored (env c b.outside).2 key = _
    rw [hKeeps.stored_after hOk, hCall _ _ hKey]

theorem KeepsSettings.ask (hKeeps : KeepsSettings env stored failed) {c : Call}
    (hCall : ∀ held key, keys key → c.settingsAfter held key = held key) :
    (PageQuery.ask env c).Moves (Retains stored failed keys view) := hKeeps.bench_ask hCall

theorem retains_onDesk {f : Desk → Desk} (h : ∀ d, view (f d) = view d) :
    (onDesk (σ := σ) f).Moves (Retains stored failed keys view) :=
  fun b => ⟨id, h b.desk, fun _ _ _ => rfl⟩

/-- A task that writes no setting under the keys and keeps the view leaves them alone. -/
theorem preserves_retains (hKeeps : KeepsSettings env stored failed) :
    Preserves env (fun c => ∀ held key, keys key → c.settingsAfter held key = held key) view
      (Retains stored failed keys view) where
  toIsFrame := isFrame_retains
  ask := hKeeps.ask
  onDesk := retains_onDesk

/-- If nothing has failed in the end, nothing had failed when the last part began. -/
theorem not_failed_of_bind {t : Task σ α} {f : α → Task σ β} {b : Bench σ}
    (hf : ∀ a, (f a).Moves (Retains stored failed keys view))
    (hOk : ¬ failed ((t >>= f) b).2.outside) : ¬ failed (t b).2.outside := by
  intro hFailed
  apply hOk
  rw [Task.bind_run]
  rcases hRun : t b with ⟨a | e, b'⟩
  · rw [hRun] at hFailed
    exact hFailed
  · rw [hRun] at hFailed
    exact (hf _ b').failed_after hFailed

end Retains

/-! ## 3. Reading a setting -/

/-- The value under the key, or else the one under the earlier key. -/
def foundSetting (held : String → Option String) (key earlier : String) : Option String :=
  (filled (held key)).or (filled (held earlier))

theorem filled_filled (value : Option String) : filled (filled value) = filled value := by
  cases value with
  | none => rfl
  | some text =>
    by_cases h : text = ""
    · simp [filled, h]
    · simp [filled, Option.filter, h]

theorem filled_of_filled {value : Option String} {text : String} (h : filled value = some text) :
    filled (some text) = some text := by
  rw [← h, filled_filled]

/-- Settings in which what is found under a key or its earlier one is under the key. -/
def settingMoved (key earlier : String) (held : String → Option String) : String → Option String :=
  fun k => if k = key then (foundSetting held key earlier).or (held key) else held k

theorem settingMoved_of_ne {key earlier k : String} (h : k ≠ key)
    (held : String → Option String) : settingMoved key earlier held k = held k := if_neg h

section Loading

variable {env : Environment σ} {stored : σ → String → Option String} {failed : σ → Prop}
variable (hKeeps : KeepsSettings env stored failed)

include hKeeps

theorem moveEarlier_retains (key : String) (answer : Except Fault (Option String)) :
    (moveEarlier env key answer).Moves (Retains stored failed (· ≠ key) id) :=
  (preserves_retains hKeeps).moveEarlier key (fun _ _ _ hOther => if_neg hOther) answer

theorem loadFrom_retains (key earlier : String) (answer : Except Fault (Option String)) :
    (loadFrom env key earlier answer).Moves (Retains stored failed (· ≠ key) id) :=
  (preserves_retains hKeeps).loadFrom key earlier (fun _ _ _ => rfl)
    (fun _ _ _ hOther => if_neg hOther) answer

/-- A setting that is read changes under its key only. -/
theorem loadSetting_retains (key earlier : String) :
    (loadSetting env key earlier).Moves (Retains stored failed (· ≠ key) id) :=
  (preserves_retains hKeeps).loadSetting key earlier (fun _ _ _ _ => rfl)
    fun _ _ _ hOther => if_neg hOther

theorem moveEarlier_spec (key : String) (found : Option String) (b : Bench σ)
    (hOk : ¬ failed (moveEarlier env key (.ok found) b).2.outside) :
    ∃ b', moveEarlier env key (.ok found) b = (.ok (filled found), b') ∧
      stored b'.outside key = (filled found).or (stored b.outside key) := by
  rw [moveEarlier, Task.bind_ok (orStorage_ok found b)] at hOk ⊢
  cases hFilled : filled found with
  | none => exact ⟨b, rfl, rfl⟩
  | some value =>
    rw [hFilled] at hOk
    simp only at hOk ⊢
    rw [Task.bind_ok (ask_run env _ b)] at hOk ⊢
    have hRest : (orStorage (b.ask env (.writeSetting key value)).1 >>= fun _ =>
        (pure (some value) : Task σ (Option String))).Moves
          (Retains stored failed (· ≠ key) id) :=
      isFrame_retains.bind (isFrame_retains.orStorage _) fun _ => isFrame_retains.pure _
    have hWritten : ¬ failed (b.ask env (.writeSetting key value)).2.outside :=
      mt (hRest _).failed_after hOk
    have hReply : (b.ask env (.writeSetting key value)).1 = .ok () := hKeeps.write hWritten
    refine ⟨(b.ask env (.writeSetting key value)).2, ?_, ?_⟩
    · rw [hReply]
      rfl
    · show stored (env (.writeSetting key value) b.outside).2 key = some value
      rw [hKeeps.stored_after hWritten, Call.settingsAfter_written]

/-- Reading a setting finds the value under the key, or else the one under the earlier key, and
leaves what it found under the key. -/
theorem loadSetting_spec (key earlier : String) (b : Bench σ)
    (hOk : ¬ failed (loadSetting env key earlier b).2.outside) :
    ∃ b', loadSetting env key earlier b =
        (.ok (foundSetting (stored b.outside) key earlier), b') ∧
      stored b'.outside key =
        (foundSetting (stored b.outside) key earlier).or (stored b.outside key) := by
  rw [loadSetting_eq, Task.bind_ok (ask_run env _ b)] at hOk ⊢
  have hRead : ¬ failed (b.ask env (.readSetting key)).2.outside :=
    mt (loadFrom_retains hKeeps key earlier _ _).failed_after hOk
  have hReply : (b.ask env (.readSetting key)).1 = .ok (stored b.outside key) := hKeeps.read hRead
  have hHeld : stored (b.ask env (.readSetting key)).2.outside = stored b.outside :=
    hKeeps.stored_after hRead
  rw [hReply] at hOk ⊢
  rw [foundSetting]
  generalize (b.ask env (.readSetting key)).2 = b₁ at hOk hHeld ⊢
  rw [loadFrom, Task.bind_ok (orStorage_ok _ b₁)] at hOk ⊢
  cases hCurrent : filled (stored b.outside key) with
  | some value =>
    refine ⟨b₁, rfl, ?_⟩
    rw [hHeld]
    exact (Option.filter_eq_some_iff.mp hCurrent).1
  | none =>
    rw [hCurrent] at hOk
    simp only at hOk ⊢
    rw [Task.bind_ok (ask_run env _ b₁)] at hOk ⊢
    have hEarlier : ¬ failed (b₁.ask env (.readSetting earlier)).2.outside :=
      mt (moveEarlier_retains hKeeps key _ _).failed_after hOk
    have hReply : (b₁.ask env (.readSetting earlier)).1 = .ok (stored b.outside earlier) := by
      rw [← hHeld]
      exact hKeeps.read hEarlier
    have hHeld : stored (b₁.ask env (.readSetting earlier)).2.outside = stored b.outside :=
      (hKeeps.stored_after hEarlier).trans hHeld
    rw [hReply] at hOk ⊢
    obtain ⟨b', hRun, hStored⟩ := moveEarlier_spec hKeeps key _ _ hOk
    exact ⟨b', hRun, hStored.trans (by rw [hHeld]; rfl)⟩

end Loading

/-! ## 4. Tasks -/

section Tasks

variable {env : Environment σ} {stored : σ → String → Option String} {failed : σ → Prop}
variable {keys : String → Prop} (hKeeps : KeepsSettings env stored failed)

include hKeeps

/-- Restoring the snapshot changes no setting and nothing else on the desk. -/
theorem restoreSnapshot_retains {view : Desk → γ}
    (h : ∀ d snapshot, view { d with snapshot := snapshot } = view d) :
    (restoreSnapshot env).Moves (Retains stored failed keys view) :=
  (preserves_retains hKeeps).restoreSnapshot (fun _ _ _ _ => rfl) (fun _ _ _ _ => rfl) h

/-- A capture changes no setting and not the token. -/
theorem capture_retains (force : Bool) :
    (capture env force).Moves (Retains stored failed keys Desk.token) :=
  (preserves_retains hKeeps).capture force (fun _ _ _ => rfl) (fun _ _ _ _ => rfl)
    (fun _ _ _ _ => rfl) fun _ _ _ => rfl

/-- A query changes no setting but its own, and not the token. -/
theorem runQuery_retains :
    (runQuery env).Moves (Retains stored failed (· ≠ queryKey) Desk.token) :=
  (preserves_retains hKeeps).runQuery (capture_retains hKeeps false)
    (fun _ _ _ hOther => if_neg hOther) (fun _ _ _ _ _ => rfl) fun _ _ _ _ _ _ => rfl

theorem copyExport_retains (format : ExportFormat) :
    (copyExport env format).Moves (Retains stored failed keys Desk.token) :=
  (preserves_retains hKeeps).copyExport (fun _ _ _ _ _ => rfl) (fun _ _ _ _ => rfl)
    (fun _ _ => rfl) format

theorem exportToFile_retains (format : ExportFormat) (path : String) :
    (exportToFile env format path).Moves (Retains stored failed keys Desk.token) :=
  (preserves_retains hKeeps).exportToFile (fun _ _ _ _ _ => rfl) (fun _ _ _ _ => rfl)
    (fun _ _ => rfl) format path

/-- The work of any action but saving the token changes no setting but the query, and not the
token. -/
theorem work_retains {a : Action} (h : a ≠ .saveToken) :
    (a.work env).Moves (Retains stored failed (· ≠ queryKey) Desk.token) :=
  (preserves_retains hKeeps).work (capture_retains hKeeps) (fun _ _ _ hOther => if_neg hOther)
    (fun _ _ _ _ _ => rfl) (fun _ _ _ _ _ => rfl) (fun _ _ _ _ => rfl) (fun _ _ _ _ _ _ => rfl)
    fun hSave => absurd hSave h

end Tasks

end PageQuery
