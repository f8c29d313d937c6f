import PageQuery.Proofs.Store.Quota
import PageQuery.Proofs.Workbench.Task
import PageQuery.Workbench.Station
import PageQuery.Proofs.Workbench.Settings
/-!
What exchanges do to the session cache, and the stores of the scripted outside.

As with the settings, the cache is not ours, and what it holds is given by a view of the outside.
`KeepsSession` is all that is asked of it: a write that is accepted stores all its entries, a write
that is refused stores none, and nothing else changes what is held. What the cache holds after a
conversation is then a matter of the conversation alone (`Answered.held_eq`). A cache with a quota
keeps a session in this sense (`ServesSession.keepsSession`).

A script none of whose settings keys is meant to fail is a store in the sense of `KeepsSettings`. Its
session cache is one in the sense of `KeepsSession` whatever is meant to fail, as a write that fails
stores nothing.
-/

namespace PageQuery

variable {σ : Type}

/-! ## 1. What is held -/

/-- What the session cache holds after an exchange, from what it held before. -/
def Exchange.sessionAfter (held : String → Option String) : Exchange → String → Option String
  | ⟨.writeSession entries, .ok _⟩ => entriesOver entries held
  | _ => held

/-- An outside with a session cache, which stores the entries of a write all or none. -/
def KeepsSession (env : Environment σ) (held : σ → String → Option String) : Prop :=
  ∀ (c : Call) (s : σ), held (env c s).2 = (Exchange.mk c (env c s).1).sessionAfter (held s)

/-- What the session cache holds after a whole conversation. -/
theorem Answered.held_eq {env : Environment σ} {held : σ → String → Option String}
    (hKeeps : KeepsSession env held) {s s' : σ} {talk : List Exchange}
    (h : Answered env s talk s') : held s' = talk.foldl Exchange.sessionAfter (held s) := by
  induction h with
  | done s => rfl
  | next c _ ih => rw [ih, hKeeps, List.foldl_cons]

/-- The exchange is no session write. -/
def Exchange.SparesSession (x : Exchange) : Prop := ¬ ∃ entries, x.call = .writeSession entries

theorem Exchange.SparesSession.sessionAfter {x : Exchange} (h : x.SparesSession)
    (held : String → Option String) : x.sessionAfter held = held := by
  obtain ⟨c, reply⟩ := x
  cases c with
  | writeSession entries => exact absurd ⟨entries, rfl⟩ h
  | _ => rfl

/-- A conversation without session writes leaves the cache as it was. -/
theorem foldl_sessionAfter_of_spares {talk : List Exchange} (h : ∀ x ∈ talk, x.SparesSession)
    (held : String → Option String) : talk.foldl Exchange.sessionAfter held = held := by
  induction talk with
  | nil => rfl
  | cons x rest ih =>
    rw [List.foldl_cons, (h x (by simp)).sessionAfter]
    exact ih fun y hMem => h y (by simp [hMem])

/-! ## 2. Caches with a quota -/

/-- An outside whose session cache is one with a quota. -/
structure ServesSession (env : Environment σ) (cache : σ → SessionCache) : Prop where
  read (key : String) (s : σ) : (env (.readSession key) s).1 = .ok ((cache s).get? key)
  write (entries : List (String × String)) (s : σ) :
    match (cache s).setMany entries with
    | .ok c => (env (.writeSession entries) s).1 = .ok () ∧
        cache (env (.writeSession entries) s).2 = c
    | .error f => (env (.writeSession entries) s).1 = .error f ∧
        cache (env (.writeSession entries) s).2 = cache s
  other {c : Call} (h : ¬ ∃ entries, c = .writeSession entries) (s : σ) :
    cache (env c s).2 = cache s

theorem ServesSession.keepsSession {env : Environment σ} {cache : σ → SessionCache}
    (hServes : ServesSession env cache) : KeepsSession env fun s => (cache s).get? := by
  intro c s
  show (cache (env c s).2).get? = (Exchange.mk c (env c s).1).sessionAfter (cache s).get?
  by_cases h : ∃ entries, c = .writeSession entries
  · obtain ⟨entries, rfl⟩ := h
    have hWrite := hServes.write entries s
    cases hStored : (cache s).setMany entries with
    | ok c =>
      rw [hStored] at hWrite
      rw [hWrite.1, hWrite.2]
      exact SessionCache.get?_setMany hStored
    | error f =>
      rw [hStored] at hWrite
      rw [hWrite.1, hWrite.2]
      rfl
  · have hSpares : (Exchange.mk c (env c s).1).SparesSession := h
    rw [hSpares.sessionAfter, hServes.other h]

/-- The session cache of the command line is one of these. -/
theorem Station.servesSession : ServesSession environment Station.session where
  read _ _ := rfl
  write entries s := by
    have hRun : environment (.writeSession entries) s = s.writeSession entries := rfl
    rw [hRun, writeSession]
    cases s.session.setMany entries with
    | ok c => exact ⟨rfl, rfl⟩
    | error f => exact ⟨rfl, rfl⟩
  other {c} h s := by
    cases c with
    | writeSession entries => exact absurd ⟨entries, rfl⟩ h
    | query token r =>
      show (s.query token r).2.session = s.session
      rw [query]
      split
      split
      all_goals rfl
    | activeTab | capture | readSetting | writeSetting | readSession | copy | writeFile => rfl

namespace Script

/-! ## 3. The scripted outside -/

/-- Some settings key is meant to fail. -/
def HasSettingsFaults (s : Script) : Prop :=
  s.settingsFaults.reads ≠ [] ∨ s.settingsFaults.writes ≠ []

/-- A script of settings alone. Nothing is captured, no query is answered, and no key fails. -/
def ofSettings (settings : SettingsMap) : Script where
  tab := .error noReply
  replies := []
  pages := .none
  results := []
  settings := settings
  settingsFaults := .none
  session := .empty 0
  sessionFaults := .none
  refusal := .none
  copies := []
  world := ⟨⟨[], []⟩, .silent, .absent⟩

/-- What a call leaves: each store is touched only by the calls that write to it, and which settings
keys are meant to fail by none. -/
structure Spares (c : Call) (s s' : Script) : Prop where
  settings : (¬ ∃ key value, c = .writeSetting key value) → s'.settings = s.settings
  settingsFaults : s'.settingsFaults = s.settingsFaults
  session : (¬ ∃ entries, c = .writeSession entries) → s'.session = s.session
  copies : (¬ ∃ text, c = .copy text) → s'.copies = s.copies

theorem Spares.refl (c : Call) (s : Script) : Spares c s s :=
  ⟨fun _ => rfl, rfl, fun _ => rfl, fun _ => rfl⟩

theorem spares (c : Call) (s : Script) : Spares c s (environment c s).2 := by
  cases c with
  | activeTab | readSetting | readSession => exact .refl _ s
  | writeFile => exact ⟨fun _ => rfl, rfl, fun _ => rfl, fun _ => rfl⟩
  | capture r =>
    show Spares _ s (send r s).2
    rw [send]
    repeat' split
    all_goals exact ⟨fun _ => rfl, rfl, fun _ => rfl, fun _ => rfl⟩
  | query token r =>
    show Spares _ s s.answerQuery.2
    rw [answerQuery]
    split
    all_goals exact ⟨fun _ => rfl, rfl, fun _ => rfl, fun _ => rfl⟩
  | writeSetting key value =>
    show Spares _ s (s.writeSetting key value).2
    rw [writeSetting]
    split
    · exact .refl _ s
    · exact ⟨fun h => absurd ⟨key, value, rfl⟩ h, rfl, fun _ => rfl, fun _ => rfl⟩
  | writeSession entries =>
    show Spares _ s (s.writeSession entries).2
    rw [writeSession]
    split
    · exact .refl _ s
    · split
      · exact ⟨fun _ => rfl, rfl, fun h => absurd ⟨entries, rfl⟩ h, fun _ => rfl⟩
      · exact .refl _ s
  | copy text =>
    show Spares _ s (s.copy text).2
    rw [copy]
    split
    · exact .refl _ s
    · exact ⟨fun _ => rfl, rfl, fun _ => rfl, fun h => absurd ⟨text, rfl⟩ h⟩

theorem writeSetting_eq {s : Script} (h : ¬ s.HasSettingsFaults) (key value : String) :
    s.writeSetting key value = (.ok (), { s with settings := s.settings.insert key value }) := by
  have hWrites : s.settingsFaults.writes = [] := by
    by_cases hNil : s.settingsFaults.writes = []
    · exact hNil
    · exact absurd (Or.inr hNil) h
  rw [writeSetting, hWrites]
  rfl

theorem readSetting_eq {s : Script} (h : ¬ s.HasSettingsFaults) (key : String) :
    s.readSetting key = .ok (s.settings.get? key) := by
  have hReads : s.settingsFaults.reads = [] := by
    by_cases hNil : s.settingsFaults.reads = []
    · exact hNil
    · exact absurd (Or.inl hNil) h
  rw [readSetting, hReads]
  rfl

theorem hasSettingsFaults_after (c : Call) (s : Script) :
    (environment c s).2.HasSettingsFaults ↔ s.HasSettingsFaults := by
  rw [HasSettingsFaults, HasSettingsFaults, (spares c s).settingsFaults]

/-- **A script without such keys keeps settings.** -/
theorem keepsSettings :
    KeepsSettings environment (fun s key => s.settings.get? key) HasSettingsFaults where
  failed_after := (hasSettingsFaults_after _ _).mpr
  read h := readSetting_eq (mt (hasSettingsFaults_after _ _).mpr h) _
  write h := congrArg Prod.fst (writeSetting_eq (mt (hasSettingsFaults_after _ _).mpr h) _ _)
  stored_after {c s} h := by
    have hNone := mt (hasSettingsFaults_after c s).mpr h
    funext other
    by_cases hWrite : ∃ key value, c = .writeSetting key value
    · obtain ⟨key, value, rfl⟩ := hWrite
      show (s.writeSetting key value).2.settings.get? other = if other = key then some value else _
      rw [writeSetting_eq hNone, SettingsMap.get?_insert]
      simp only [eq_comm]
    · rw [(spares c s).settings hWrite, Call.settingsAfter_of_not_write hWrite]

/-- **A script keeps its session cache**, whatever keys are meant to fail. -/
theorem keepsSession : KeepsSession environment fun s => s.session.get? := by
  intro c s
  show (environment c s).2.session.get? = _
  by_cases h : ∃ entries, c = .writeSession entries
  · obtain ⟨entries, rfl⟩ := h
    show (s.writeSession entries).2.session.get? =
      (Exchange.mk (.writeSession entries) (s.writeSession entries).1).sessionAfter s.session.get?
    rw [writeSession]
    split
    · rfl
    · split
      · next session hStored => exact SessionCache.get?_setMany hStored
      · rfl
  · have hSpares : (Exchange.mk c (environment c s).1).SparesSession := h
    rw [(spares c s).session h, hSpares.sessionAfter]

end Script

end PageQuery
