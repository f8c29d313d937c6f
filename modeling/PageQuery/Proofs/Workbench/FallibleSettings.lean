import PageQuery.Proofs.Workbench.Failure
import PageQuery.Proofs.Workbench.Restoring
/-!
Settings that may fail.

`StoresSettings` is what is asked of a settings store any read and any write of which may fail: a read
that succeeds tells what is held, and only a write that succeeds changes it. On such a store
`trigger_token` says what an action does to the token, however it ends, and `restore_token` what a restore
does to it that has succeeded.
-/

namespace PageQuery

open Text

variable {σ α β : Type}

/-! ## 1. The store -/

/-- The settings after an exchange, from those before it. -/
def Exchange.settingsAfter (held : String → Option String) : Exchange → String → Option String
  | ⟨.writeSetting key value, .ok _⟩ => fun k => if k = key then some value else held k
  | _ => held

/-- An outside with a settings store, of which each read and each write may fail. -/
structure StoresSettings (env : Environment σ) (stored : σ → String → Option String) : Prop where
  read {key : String} {s : σ} {value : Option String} :
    (env (.readSetting key) s).1 = .ok value → value = stored s key
  after (c : Call) (s : σ) :
    stored (env c s).2 = (Exchange.mk c (env c s).1).settingsAfter (stored s)

theorem Exchange.settingsAfter_of_not_sets {x : Exchange} {key : String} (h : ¬ x.Sets key)
    (held : String → Option String) : x.settingsAfter held key = held key := by
  obtain ⟨c, reply⟩ := x
  cases c with
  | writeSetting other value =>
    cases reply with
    | error f => rfl
    | ok _ =>
      refine if_neg ?_
      rintro rfl
      exact h ⟨value, rfl⟩
  | _ => rfl

/-- Only a write that succeeds changes a setting. -/
theorem StoresSettings.changesBy {env : Environment σ} {stored : σ → String → Option String}
    (hStores : StoresSettings env stored) (key : String) :
    ChangesBy env (Exchange.Sets key) fun s => stored s key := by
  intro c s hNotSet
  show stored (env c s).2 key = stored s key
  rw [hStores.after, Exchange.settingsAfter_of_not_sets hNotSet]

/-- The settings change as what is said tells. -/
theorem StoresSettings.stored_eq {env : Environment σ} {stored : σ → String → Option String}
    (hStores : StoresSettings env stored) {s s' : σ} {talk : List Exchange}
    (h : Answered env s talk s') :
    stored s' = talk.foldl (fun held x => x.settingsAfter held) (stored s) := by
  induction h with
  | done s => rfl
  | next c _ ih => rw [ih, List.foldl_cons, hStores.after]

/-! ## 2. Actions and the token -/

/-- A capture sets nothing. -/
theorem Captures.not_sets {d d' : Desk} {talk : List Exchange}
    {outcome : Except ClientError Snapshot} (h : Captures d talk outcome d') {x : Exchange}
    (hMem : x ∈ talk) (key : String) : ¬ x.Sets key := by
  rcases h.mem_talk hMem with hHarmless | ⟨_, _, _, rfl⟩
  · exact hHarmless.not_sets key
  · simp [Exchange.Sets]

namespace Ends

variable {d d' : Desk} {a : Action} {talk : List Exchange} {outcome : Except ClientError Unit}

/-- What a saved token leaves. A blank one leaves the editor open, as no token does. -/
theorem of_saved (h : Ends d .saveToken talk (.ok ()) d') :
    talk = [⟨.writeSetting tokenKey (trim d.token), .ok ()⟩] ∧ d'.token = trim d.token ∧
      d'.tokenEditor = .forToken (trim d.token) false := by
  cases h with
  | cleared hBlank =>
    have hOpen : TokenEditor.forToken "" true = .forToken "" false := by decide
    simp only [hBlank, hOpen, and_self]
  | saved _ => simp only [and_self]
  | copied hFormat _ => simp [Action.copied?] at hFormat

/-- An action sets nothing but a query, and the token that it saves. -/
theorem sets_of_mem (h : Ends d a talk outcome d') {x : Exchange} (hMem : x ∈ talk) {key : String}
    (hSets : x.Sets key) : a = .runQuery ∧ key = queryKey ∨ a = .saveToken ∧ outcome = .ok () := by
  cases outcome with
  | error e => exact Or.inl (h.sets_of_error hMem hSets)
  | ok _ =>
    cases h with
    | captured hCaptures => exact absurd hSets (hCaptures.not_sets hMem key)
    | answered _ hSupplies =>
      rcases List.mem_cons.mp hMem with rfl | hLater
      · obtain ⟨_, hSame⟩ := hSets
        cases hSame
        exact Or.inl ⟨rfl, rfl⟩
      rcases List.mem_append.mp hLater with hSupplied | hAsked
      · cases hSupplies with
        | atHand _ _ => cases hSupplied
        | captured _ hCaptures => exact absurd hSets (hCaptures.not_sets hSupplied key)
      · rw [List.mem_singleton.mp hAsked] at hSets
        exact absurd hSets ((Exchange.isHarmless_of_call (Or.inr (Or.inr ⟨_, _, rfl⟩))).not_sets key)
    | copied _ _ =>
      rw [List.mem_singleton.mp hMem] at hSets
      simp [Exchange.Sets] at hSets
    | cleared _ | saved _ => exact Or.inr ⟨rfl, rfl⟩

/-- Only a saved token, and a query that is refused, change the token or its editor. -/
theorem token_eq (h : Ends d a talk outcome d') (hSave : ¬ (a = .saveToken ∧ outcome = .ok ()))
    (hQuery : a = .runQuery → ∃ inputs, checkInputs d = .ok inputs) :
    d'.token = d.token ∧ d'.tokenEditor = d.tokenEditor := by
  cases h with
  | notCaptured hCaptures | captured hCaptures | notSupplied _ hCaptures =>
    rw [hCaptures.desk_eq]
    exact ⟨rfl, rfl⟩
  | notAnswered _ hSupplies | answered _ hSupplies =>
    rw [hSupplies.desk_eq]
    exact ⟨rfl, rfl⟩
  | refused hRefused =>
    obtain ⟨inputs, hChecked⟩ := hQuery rfl
    cases hRefused.symm.trans hChecked
  | notRemembered _ | noResult _ _ | copied _ _ | notCopied _ _ | notSaved => exact ⟨rfl, rfl⟩
  | cleared _ | saved _ => exact absurd ⟨rfl, rfl⟩ hSave

end Ends

/-- What is noted of a missing token is that its editor is to be open. -/
theorem noteMissingToken_tokenEditor (checked : Except ClientError (String × String)) (b : Bench σ) :
    (noteMissingToken checked b).2.desk.tokenEditor = b.desk.tokenEditor ∨
      (noteMissingToken checked b).2.desk.tokenEditor.isVisible = true := by
  rw [noteMissingToken.eq_def]
  split
  · exact Or.inr rfl
  · exact Or.inl rfl

section Actions

variable {env : Environment σ}

/-- A query that is refused leaves the token, and leaves its editor as it is or opens it. -/
theorem runQuery_refused_token {b : Bench σ} {e : ClientError} (h : checkInputs b.desk = .error e) :
    (runQuery env b).2.desk.token = b.desk.token ∧
      ((runQuery env b).2.desk.tokenEditor = b.desk.tokenEditor ∨
        (runQuery env b).2.desk.tokenEditor.isVisible = true) := by
  have hNoted := noteMissingToken_tokenEditor (checkInputs b.desk) b
  obtain ⟨editor, hNote⟩ := noteMissingToken_run (checkInputs b.desk) b
  rw [hNote] at hNoted
  have hFails : ∀ b' : Bench σ, orFail (checkInputs b.desk) b' = (.error e, b') := by
    rw [h]
    exact fun _ => rfl
  rw [runQuery_eq, Task.bind_ok (theDesk_run b), Task.bind_ok hNote, Task.bind_error (hFails _)]
  exact ⟨rfl, hNoted⟩

variable (env) in
/-- The work of an action that is not a saved token leaves the token, and leaves its editor as it is or
opens it. -/
theorem work_token (a : Action) (b : Bench σ)
    (hSave : ¬ (a = .saveToken ∧ (a.work env b).1 = .ok ())) :
    (a.work env b).2.desk.token = b.desk.token ∧
      ((a.work env b).2.desk.tokenEditor = b.desk.tokenEditor ∨
        (a.work env b).2.desk.tokenEditor.isVisible = true) := by
  by_cases hRefused : a = .runQuery ∧ ∃ e, checkInputs b.desk = .error e
  · obtain ⟨rfl, e, hChecked⟩ := hRefused
    rw [Action.work]
    exact runQuery_refused_token hChecked
  · obtain ⟨talk, -, hEnds⟩ := work_ends env a b
    have hPasses : a = .runQuery → ∃ inputs, checkInputs b.desk = .ok inputs := by
      intro hQuery
      cases hChecked : checkInputs b.desk with
      | error e => exact absurd ⟨hQuery, e, hChecked⟩ hRefused
      | ok inputs => exact ⟨inputs, rfl⟩
    obtain ⟨hToken, hEditor⟩ := hEnds.token_eq hSave hPasses
    exact ⟨hToken, Or.inl hEditor⟩

/-- **What an action does to the token.** A token that is saved loses the blanks around it, is in the
settings, and has an editor that is open only if nothing is left of it. Nothing else changes the token, on
the desk or in the settings, or closes its editor. -/
theorem trigger_token {stored : σ → String → Option String} (hStores : StoresSettings env stored)
    (a : Action) (b : Bench σ) :
    let b' := (trigger env a b).2
    (a = .saveToken ∧ (trigger env a b).1 = .ok () ∧
      stored b'.outside tokenKey = some b'.desk.token ∧
      b'.desk.tokenEditor = .forToken b'.desk.token false) ∨
    ¬ (a = .saveToken ∧ (trigger env a b).1 = .ok ()) ∧ b'.desk.token = b.desk.token ∧
      stored b'.outside tokenKey = stored b.outside tokenKey ∧
      (b'.desk.tokenEditor = b.desk.tokenEditor ∨ b'.desk.tokenEditor.isVisible = true) := by
  intro b'
  cases hHeld : b.desk.gate.isHeld with
  | true =>
    have hRun : trigger env a b = (.error .busy, b) := trigger_held env a hHeld
    rw [show b' = b from congrArg Prod.snd hRun, hRun]
    exact Or.inr ⟨by simp, rfl, rfl, Or.inl rfl⟩
  | false =>
    let held : Bench σ := { b with desk := { b.desk with gate := ⟨true⟩ } }
    have hRun := trigger_free env a hHeld
    obtain ⟨talk, hMakes, hEnds⟩ := work_ends env a held
    have hLeft := work_token env a held
    rcases hWork : a.work env held with ⟨outcome, b₁⟩
    rw [hWork] at hMakes hEnds hLeft
    rw [show a.work env { b with desk := { b.desk with gate := ⟨true⟩ } } = (outcome, b₁) from hWork]
      at hRun
    rw [show b' = _ from congrArg Prod.snd hRun, hRun]
    have hToken : (b₁.desk.afterWork outcome).token = b₁.desk.token := by cases outcome <;> rfl
    have hEditor : (b₁.desk.afterWork outcome).tokenEditor = b₁.desk.tokenEditor := by
      cases outcome <;> rfl
    rw [hToken, hEditor]
    by_cases hSave : a = .saveToken ∧ outcome = .ok ()
    · obtain ⟨rfl, rfl⟩ := hSave
      obtain ⟨rfl, hTrimmed, hClosed⟩ := hEnds.of_saved
      refine Or.inl ⟨rfl, rfl, ?_, hTrimmed ▸ hClosed⟩
      rw [hStores.stored_eq hMakes.answered, hTrimmed]
      simp [held, Exchange.settingsAfter]
    · have hKept : stored b₁.outside tokenKey = stored held.outside tokenKey := by
        refine hMakes.answered.view_eq (hStores.changesBy tokenKey) fun x hMem hSets => ?_
        rcases hEnds.sets_of_mem hMem hSets with ⟨-, hKey⟩ | hSaved
        · exact absurd hKey (by decide)
        · exact hSave hSaved
      obtain ⟨hSame, hOpened⟩ := hLeft hSave
      exact Or.inr ⟨hSave, hSame, hKept, hOpened⟩

end Actions

/-! ## 3. Restoring -/

/-- The stored token and a view of the desk are the same. -/
def KeepsToken (stored : σ → String → Option String) (view : Desk → β) (b b' : Bench σ) : Prop :=
  stored b'.outside tokenKey = stored b.outside tokenKey ∧ view b'.desk = view b.desk

section Restoring

variable {env : Environment σ} {stored : σ → String → Option String}
variable (hStores : StoresSettings env stored)

include hStores

omit hStores in
theorem orStorage_of_ok {answer : Except Fault α} {a : α} {b b' : Bench σ}
    (h : orStorage answer b = (.ok a, b')) : answer = .ok a ∧ b' = b := by
  cases answer with
  | error f => cases h
  | ok value =>
    cases h
    exact ⟨rfl, rfl⟩

omit hStores in
/-- A setting that is found under its key is not moved. -/
theorem settingMoved_of_filled {key earlier value : String} {held : String → Option String}
    (h : filled (held key) = some value) : settingMoved key earlier held = held := by
  funext k
  by_cases hKey : k = key
  · subst hKey
    rw [settingMoved, if_pos rfl, foundSetting, h, Option.some_or]
    exact (Option.filter_eq_some_iff.mp h).1.symm
  · exact settingMoved_of_ne hKey held

/-- What is found under the earlier key is moved. -/
theorem moveEarlier_of_ok {key : String} {answer : Except Fault (Option String)}
    {found : Option String} {b b' : Bench σ} (h : moveEarlier env key answer b = (.ok found, b')) :
    ∃ value, answer = .ok value ∧ found = filled value ∧ b'.desk = b.desk ∧
      stored b'.outside =
        fun k => if k = key then found.or (stored b.outside key) else stored b.outside k := by
  obtain ⟨value, b₁, hValue, hRest⟩ := Task.ok_of_bind h
  obtain ⟨rfl, rfl⟩ := orStorage_of_ok hValue
  refine ⟨value, rfl, ?_⟩
  cases hFilled : filled value with
  | none =>
    rw [hFilled] at hRest
    cases hRest
    refine ⟨rfl, rfl, funext fun k => ?_⟩
    by_cases hKey : k = key <;> simp [hKey]
  | some text =>
    rw [hFilled] at hRest
    simp only at hRest
    rw [Task.bind_ok (ask_run env _ _)] at hRest
    obtain ⟨_, b₂, hWritten, hRest⟩ := Task.ok_of_bind hRest
    obtain ⟨hReply, rfl⟩ := orStorage_of_ok hWritten
    cases hRest
    refine ⟨rfl, rfl, ?_⟩
    have hAfter := hStores.after (.writeSetting key text) b₁.outside
    rw [show (env (.writeSetting key text) b₁.outside).1 = .ok () from hReply] at hAfter
    exact hAfter

/-- A setting that is read is found under its key or the earlier one, and then moved. -/
theorem loadSetting_of_ok {key earlier : String} {found : Option String} {b b' : Bench σ}
    (h : loadSetting env key earlier b = (.ok found, b')) :
    found = foundSetting (stored b.outside) key earlier ∧ b'.desk = b.desk ∧
      stored b'.outside = settingMoved key earlier (stored b.outside) := by
  have hRead : ∀ (k : String) (b₁ : Bench σ),
      stored (b₁.ask env (.readSetting k)).2.outside = stored b₁.outside :=
    fun k b₁ => hStores.after (.readSetting k) b₁.outside
  rw [loadSetting_eq, Task.bind_ok (ask_run env _ b)] at h
  obtain ⟨value, b₁, hValue, h⟩ := Task.ok_of_bind h
  obtain ⟨hReply, rfl⟩ := orStorage_of_ok hValue
  obtain rfl : value = stored b.outside key := hStores.read hReply
  cases hCurrent : filled (stored b.outside key) with
  | some value =>
    rw [hCurrent] at h
    cases h
    refine ⟨by rw [foundSetting, hCurrent, Option.some_or], rfl, ?_⟩
    rw [hRead, settingMoved_of_filled hCurrent]
  | none =>
    rw [hCurrent] at h
    simp only at h
    rw [Task.bind_ok (ask_run env _ _)] at h
    obtain ⟨value, hReply, rfl, hDesk, hMoved⟩ := moveEarlier_of_ok hStores h
    obtain rfl : value = stored b.outside earlier := by
      rw [hStores.read hReply]
      exact congrFun (hRead key b) earlier
    have hFound : foundSetting (stored b.outside) key earlier = filled (stored b.outside earlier) := by
      rw [foundSetting, hCurrent, Option.none_or]
    refine ⟨hFound.symm, hDesk, ?_⟩
    funext k
    rw [hMoved, hRead, hRead, settingMoved, hFound]

/-- Calls that do not store a token keep the one that is stored. -/
theorem preserves_keepsToken {view : Desk → β} :
    Preserves env (fun c => ∀ token, c ≠ .writeSetting tokenKey token) view
      (KeepsToken stored view) where
  refl _ := ⟨rfl, rfl⟩
  trans h h' := ⟨h'.1.trans h.1, h'.2.trans h.2⟩
  ask {c} hCall b := by
    refine ⟨hStores.changesBy tokenKey c b.outside ?_, rfl⟩
    rintro ⟨token, hSame⟩
    exact hCall token (congrArg Exchange.call hSame)
  onDesk hView b := ⟨rfl, hView b.desk⟩

/-- The rest of a restore leaves the token, and opens its editor if there is none. -/
theorem restoreRest_token (b : Bench σ) :
    (restoreRest env b).2.desk.token = b.desk.token ∧
      (restoreRest env b).2.desk.tokenEditor = .forToken b.desk.token false ∧
      stored (restoreRest env b).2.outside tokenKey = stored b.outside tokenKey := by
  have hKeeps : Preserves env _ (fun d => (d.token, d.tokenEditor)) (KeepsToken stored _) :=
    preserves_keepsToken hStores
  have hMoves : Task.Moves (KeepsToken stored fun d => (d.token, d.tokenEditor))
      (do setStatus (restoredStatus (← restoreSnapshot env))) :=
    hKeeps.bind (hKeeps.restoreSnapshot (by simp) (by simp) fun _ _ => rfl)
      fun _ => hKeeps.onDesk fun _ => rfl
  rw [restoreRest, Task.bind_ok (onDesk_run _ b)]
  obtain ⟨hStored, hDesk⟩ := hMoves
    { b with desk := { b.desk with tokenEditor := .forToken b.desk.token false } }
  obtain ⟨hToken, hEditor⟩ := Prod.mk.inj hDesk
  exact ⟨hToken, hEditor, hStored⟩

theorem restoreAfterToken_token {b b' : Bench σ} (h : restoreAfterToken env b = (.ok (), b')) :
    b'.desk.token = b.desk.token ∧ b'.desk.tokenEditor = .forToken b.desk.token false ∧
      stored b'.outside tokenKey = stored b.outside tokenKey := by
  obtain ⟨query, b₁, hQuery, hRest⟩ := Task.ok_of_bind h
  obtain ⟨-, hDesk, hMoved⟩ := loadSetting_of_ok hStores hQuery
  rw [Task.bind_ok (takeQuery_run _ b₁)] at hRest
  obtain rfl := congrArg Prod.snd hRest
  obtain ⟨hToken, hEditor, hStored⟩ := restoreRest_token hStores _
  have hSame : b₁.desk.token = b.desk.token := congrArg Desk.token hDesk
  refine ⟨hToken.trans hSame, hEditor.trans (congrArg (TokenEditor.forToken · false) hSame), ?_⟩
  exact hStored.trans ((congrFun hMoved tokenKey).trans (settingMoved_of_ne (by decide) _))

/-- **What a restore that succeeds does to the token.** It takes the one that the settings hold, if there
is one, and leaves it under its key; the editor is open only if there is no token then. -/
theorem restore_token {b : Bench σ} (hOk : (restore env b).1 = .ok ()) :
    let b' := (restore env b).2
    let found := foundSetting (stored b.outside) tokenKey earlierTokenKey
    b'.desk.token = found.getD b.desk.token ∧
      b'.desk.tokenEditor = .forToken b'.desk.token false ∧
      stored b'.outside tokenKey = found.or (stored b.outside tokenKey) := by
  intro b' found
  have hRun : restore env b = (.ok (), b') := Prod.ext hOk rfl
  rw [restore_eq] at hRun
  obtain ⟨token, b₁, hLoad, hRest⟩ := Task.ok_of_bind hRun
  obtain ⟨rfl, hDesk, hMoved⟩ := loadSetting_of_ok hStores hLoad
  rw [Task.bind_ok (takeToken_run _ b₁)] at hRest
  obtain ⟨hToken, hEditor, hStored⟩ := restoreAfterToken_token hStores hRest
  rw [hDesk] at hToken hEditor
  refine ⟨hToken, ?_, ?_⟩
  · rw [hToken]
    exact hEditor
  · rw [hStored]
    exact (congrFun hMoved tokenKey).trans (if_pos rfl)

end Restoring

/-! ## 4. The scripted outside -/

/-- A script stores settings, whatever keys are meant to fail. -/
theorem Script.storesSettings :
    StoresSettings Script.environment fun s key => s.settings.get? key where
  read {key s value} h := by
    have hRead : s.readSetting key = .ok value := h
    rw [readSetting] at hRead
    split at hRead
    · cases hRead
    · exact (Except.ok.inj hRead).symm
  after c s := by
    funext other
    by_cases hWrite : ∃ key value, c = .writeSetting key value
    · obtain ⟨key, value, rfl⟩ := hWrite
      show (s.writeSetting key value).2.settings.get? other =
        (Exchange.mk (.writeSetting key value) (s.writeSetting key value).1).settingsAfter
          (fun k => s.settings.get? k) other
      rw [writeSetting]
      split
      · rfl
      · rw [SettingsMap.get?_insert, Exchange.settingsAfter]
        simp only [eq_comm]
    · rw [(spares c s).settings hWrite, Exchange.settingsAfter_of_not_sets]
      rintro ⟨value, hSame⟩
      exact hWrite ⟨other, value, congrArg Exchange.call hSame⟩

end PageQuery
