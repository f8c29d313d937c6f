import PageQuery.Proofs.Store.Quota
import PageQuery.Proofs.Workbench.Capture
import PageQuery.Proofs.Workbench.Token
/-!
The snapshot in the session cache.

A capture writes markup and scope at once, but a restore reads the two under keys of their own, takes
an empty text for none, and may find markup that an earlier version left under another key. `CachesLast`
says what a cache then holds: the scope of the capture that it took last, but for empty markup that of
the earlier version. `Recalls` is what every task preserves of this, and `restore_installs` says which
snapshot a restore puts together from it.
-/

namespace PageQuery

variable {σ α β : Type}

/-! ## 1. Captures that were persisted -/

/-- The entries that an exchange put into the session cache, if there is a scope among them. -/
def Exchange.scoped? : Exchange → Option (List (String × String))
  | ⟨.writeSession entries, .ok _⟩ => if entries.any (·.1 == scopeKey) then some entries else none
  | _ => none

theorem Exchange.SparesSession.scoped? {x : Exchange} (h : x.SparesSession) : x.scoped? = none := by
  obtain ⟨c, reply⟩ := x
  cases c with
  | writeSession entries => exact absurd ⟨entries, rfl⟩ h
  | _ => rfl

/-- The captures that a conversation put into the session cache, in this order. Each was the answer to
a request, and no other scope was stored. -/
structure Persists (talk : List Exchange) (taken : List Snapshot) : Prop where
  scoped_eq : talk.filterMap Exchange.scoped? = taken.map cacheEntries
  answered : ∀ s ∈ taken, ∃ (x : Sent) (before after : List Exchange), x.outcome = .ok s ∧
    talk = before ++ x.exchange :: ⟨.writeSession (cacheEntries s), .ok ()⟩ :: after

namespace Persists

theorem of_scoped_nil {talk : List Exchange} (h : talk.filterMap Exchange.scoped? = []) :
    Persists talk [] where
  scoped_eq := h
  answered _ hMem := absurd hMem List.not_mem_nil

theorem append {first second : List Exchange} {taken more : List Snapshot}
    (h : Persists first taken) (h' : Persists second more) :
    Persists (first ++ second) (taken ++ more) where
  scoped_eq := by rw [List.filterMap_append, h.scoped_eq, h'.scoped_eq, List.map_append]
  answered s hMem := by
    rcases List.mem_append.mp hMem with hFirst | hSecond
    · obtain ⟨x, before, after, hOutcome, rfl⟩ := h.answered s hFirst
      exact ⟨x, before, after ++ second, hOutcome, by simp⟩
    · obtain ⟨x, before, after, hOutcome, rfl⟩ := h'.answered s hSecond
      exact ⟨x, first ++ before, after, hOutcome, by simp⟩

end Persists

/-! ## 2. What the cache holds of them -/

/-- Of the captures that a session cache took, `last` is the last one. The cache holds its scope, and
as markup there is found its own, or if that is empty what an earlier version left. -/
structure CachesLast (held : String → Option String) (last : Option Snapshot)
    (earlier : Option String) : Prop where
  earlier_eq : filled (held earlierSnapshotKey) = earlier
  scope_eq : held scopeKey = last.map (·.scope.name)
  markup_eq : ∀ s, last = some s →
    foundSetting held snapshotKey earlierSnapshotKey = (filled (some s.html)).or earlier

/-- The markup and the scope that are found in a session cache, if both are. -/
def foundPair (held : String → Option String) : Option (String × Scope) :=
  (foundSetting held snapshotKey earlierSnapshotKey).bind fun html =>
    ((filled (held scopeKey)).bind Scope.parse?).map fun scope => (html, scope)

/-- The snapshot on a desk after markup and scope were found in the cache, or not. -/
def Desk.snapshotAfter (d : Desk) (found : Option (String × Scope)) : Option Snapshot :=
  (found.map fun p => .ofHtml p.1 p.2 .unknown).or d.snapshot

theorem Scope.found_name (s : Scope) : (filled (some s.name)).bind parse? = some s := by
  cases s <;> decide

namespace CachesLast

variable {held : String → Option String} {last : Option Snapshot} {earlier : Option String}

/-- A cache that no capture was put into holds no scope. -/
theorem of_no_scope (h : held scopeKey = none) :
    CachesLast held none (filled (held earlierSnapshotKey)) where
  earlier_eq := rfl
  scope_eq := h
  markup_eq _ hLast := by cases hLast

theorem foundPair_none (h : CachesLast held none earlier) : foundPair held = none := by
  rw [foundPair, h.scope_eq]
  cases foundSetting held snapshotKey earlierSnapshotKey with
  | none => rfl
  | some html => rfl

theorem foundPair_some {s : Snapshot} (h : CachesLast held (some s) earlier) :
    foundPair held = ((filled (some s.html)).or earlier).map fun html => (html, s.scope) := by
  have hScope : (filled (held scopeKey)).bind Scope.parse? = some s.scope := by
    rw [h.scope_eq]
    exact s.scope.found_name
  rw [foundPair, h.markup_eq s rfl, hScope]
  cases (filled (some s.html)).or earlier with
  | none => rfl
  | some html => rfl

/-- A cache that takes a capture holds its markup and its scope. -/
theorem capture (h : CachesLast held last earlier) (s : Snapshot) :
    CachesLast (entriesOver (cacheEntries s) held) (some s) earlier := by
  obtain ⟨hHtml, hScope, hOther⟩ := entriesOver_cacheEntries s held
  have hEarlier : entriesOver (cacheEntries s) held earlierSnapshotKey = held earlierSnapshotKey :=
    hOther _ (by decide) (by decide)
  refine ⟨?_, hScope, fun s' hLast => ?_⟩
  · rw [hEarlier]
    exact h.earlier_eq
  · cases hLast
    rw [foundSetting, hHtml, hEarlier, h.earlier_eq]

/-- Where no markup is found under its key, that of an earlier version can be moved there. -/
theorem move (h : CachesLast held last earlier) {html : String}
    (hCurrent : filled (held snapshotKey) = none)
    (hEarlier : filled (held earlierSnapshotKey) = some html) :
    CachesLast (entriesOver [(snapshotKey, html)] held) last earlier := by
  have hMoved : entriesOver [(snapshotKey, html)] held snapshotKey = some html := by
    simp [entriesOver]
  have hOther : ∀ key, key ≠ snapshotKey → entriesOver [(snapshotKey, html)] held key = held key :=
    fun key hKey => by simp [entriesOver, Ne.symm hKey]
  refine ⟨?_, ?_, fun s hLast => ?_⟩
  · rw [hOther _ (by decide)]
    exact h.earlier_eq
  · rw [hOther _ (by decide)]
    exact h.scope_eq
  · rw [← h.markup_eq s hLast, foundSetting, foundSetting, hMoved, hCurrent, hEarlier,
      filled_of_filled hEarlier]
    rfl

end CachesLast

/-- A new capture that comes to a snapshot and is not refused by the cache is the last one there; any
other leaves the cache as it was. -/
theorem Captures.persists {d d' : Desk} {talk : List Exchange}
    {outcome : Except ClientError Snapshot} (h : Captures d talk outcome d') :
    ∃ taken, Persists talk taken ∧ ∀ {held last earlier}, CachesLast held last earlier →
      CachesLast (talk.foldl Exchange.sessionAfter held) (taken.getLast?.or last) earlier := by
  have hSent : ∀ sent : List Sent, (sent.map Sent.exchange).filterMap Exchange.scoped? = [] := by
    intro sent
    refine List.filterMap_eq_nil_iff.mpr fun x hMem => ?_
    obtain ⟨y, -, rfl⟩ := List.mem_map.mp hMem
    exact y.sparesSession.scoped?
  cases h with
  | noTab => exact ⟨[], .of_scoped_nil rfl, id⟩
  | @failed tab sent last e status hPursuit hLast hOutcome =>
    refine ⟨[], .of_scoped_nil ?_, fun hCache => ?_⟩
    · rw [List.filterMap_cons_none rfl, hSent]
    · rw [List.foldl_cons, foldl_sessionAfter_sent]
      exact hCache
  | @taken tab sent last s stored hPursuit hLast hOutcome =>
    have hScoped : (⟨.activeTab, .ok tab⟩ :: (sent.map Sent.exchange ++
        [⟨.writeSession (cacheEntries s), stored⟩])).filterMap Exchange.scoped? =
          [(⟨.writeSession (cacheEntries s), stored⟩ : Exchange)].filterMap Exchange.scoped? := by
      rw [List.filterMap_cons_none rfl, List.filterMap_append, hSent, List.nil_append]
    cases stored with
    | error f =>
      refine ⟨[], .of_scoped_nil hScoped, fun hCache => ?_⟩
      rw [foldl_sessionAfter_capture]
      exact hCache
    | ok _ =>
      refine ⟨[s], ⟨hScoped, fun s' hMem => ?_⟩, fun hCache => ?_⟩
      · obtain ⟨first, rfl⟩ := List.getLast?_eq_some_iff.mp hLast
        rw [List.mem_singleton.mp hMem]
        exact ⟨last, ⟨.activeTab, .ok tab⟩ :: first.map Sent.exchange, [], hOutcome, by simp⟩
      · rw [foldl_sessionAfter_capture]
        exact hCache.capture s

/-! ## 3. What a restore leaves there -/

/-- The session cache after a restore: markup of an earlier version is moved where there is none, if the
cache takes it. -/
def SessionCache.restored (c : SessionCache) : SessionCache :=
  match filled (c.get? snapshotKey), filled (c.get? earlierSnapshotKey) with
  | none, some html => (c.write [(snapshotKey, html)]).2
  | _, _ => c

/-- A restore leaves the session cache as it is or moves the markup of an earlier version. -/
theorem SessionCache.restored_cases (c : SessionCache) :
    c.restored = c ∨ c.restored.get? = settingMoved snapshotKey earlierSnapshotKey c.get? ∧
      ∃ html, filled (c.restored.get? snapshotKey) = some html := by
  rw [SessionCache.restored]
  split
  · next html hCurrent hEarlier =>
    refine (c.get?_write _).imp id fun hHeld => ?_
    have hMoved : (c.write [(snapshotKey, html)]).2.get? =
        settingMoved snapshotKey earlierSnapshotKey c.get? := by
      rw [hHeld]
      funext key
      by_cases hKey : key = snapshotKey
      · simp [hKey, entriesOver, settingMoved, foundSetting, hCurrent, hEarlier]
      · simp [hKey, Ne.symm hKey, entriesOver, settingMoved]
    refine ⟨hMoved, html, ?_⟩
    rw [hHeld]
    simp [entriesOver, filled_of_filled hEarlier]
  · exact Or.inl rfl

theorem SessionCache.scope_restored (c : SessionCache) :
    c.restored.get? scopeKey = c.get? scopeKey := by
  rcases c.restored_cases with hSame | ⟨hMoved, -⟩
  · rw [hSame]
  · rw [hMoved, settingMoved_of_ne (by decide)]

/-- The size of the markup in a session cache, and its scope if that is known. -/
def foundSize (held : String → Option String) : Option (Nat × Option Scope) :=
  (foundSetting held snapshotKey earlierSnapshotKey).map fun html =>
    (html.utf8ByteSize, (filled (held scopeKey)).bind Scope.parse?)

/-! ## 4. What tasks preserve -/

/-- What went on between two benches put captures into the session cache, of which it holds the
last. -/
def Recalls (env : Environment σ) (cache : σ → SessionCache) (b b' : Bench σ) : Prop :=
  ∃ talk taken, b.Makes env talk b' ∧ Persists talk taken ∧
    ∀ last earlier, CachesLast (cache b.outside).get? last earlier →
      CachesLast (cache b'.outside).get? (taken.getLast?.or last) earlier

section Tasks

variable {env : Environment σ} {cache : σ → SessionCache}

theorem isFrame_recalls : IsFrame (Recalls env cache) where
  refl b := ⟨[], [], .refl env b, .of_scoped_nil rfl, fun _ _ h => h⟩
  trans := by
    rintro b₁ b₂ b₃ ⟨first, taken, hMakes, hPersists, hHolds⟩
      ⟨second, more, hMakes', hPersists', hHolds'⟩
    refine ⟨_, _, hMakes.trans hMakes', hPersists.append hPersists', fun last earlier h => ?_⟩
    rw [List.getLast?_append, Option.or_assoc]
    exact hHolds' _ earlier (hHolds last earlier h)

/-- A call that stores no scope and leaves the last capture in the cache. -/
theorem recalls_ask {c : Call} {b : Bench σ}
    (hScoped : (Exchange.mk c (b.ask env c).1).scoped? = none)
    (hHolds : ∀ last earlier, CachesLast (cache b.outside).get? last earlier →
      CachesLast (cache (b.ask env c).2.outside).get? last earlier) :
    Recalls env cache b (b.ask env c).2 := by
  exact ⟨_, [], .ask env c b, .of_scoped_nil (by simp [hScoped]), hHolds⟩

variable (hServes : ServesSession env cache)

include hServes

/-- A task that writes nothing to the session cache keeps the last capture there. -/
theorem preserves_recalls :
    Preserves env (fun c => ¬ ∃ entries, c = .writeSession entries) (fun _ => ())
      (Recalls env cache) where
  toIsFrame := isFrame_recalls
  ask {c} hCall b := by
    have hSpares : (Exchange.mk c (b.ask env c).1).SparesSession := hCall
    refine recalls_ask hSpares.scoped? fun last earlier h => ?_
    show CachesLast (cache (env c b.outside).2).get? last earlier
    rw [hServes.other hCall]
    exact h
  onDesk {f} _ b := ⟨[], [], .desk env b (f b.desk), .of_scoped_nil rfl, fun _ _ h => h⟩

/-- A capture that comes to a snapshot and is not refused by the cache is the last one there. -/
theorem capture_recalls (force : Bool) : (capture env force).Moves (Recalls env cache) := by
  intro b
  by_cases hReuses : b.desk.Reuses force
  · obtain ⟨s, -, hRun⟩ := capture_of_reuses env hReuses
    rw [hRun]
    exact isFrame_recalls.refl b
  · obtain ⟨talk, outcome, b', hRun, hMakes, hCaptures⟩ := captureAfresh_spec env b
    have hHeld : (cache b'.outside).get? =
        talk.foldl Exchange.sessionAfter (cache b.outside).get? :=
      hMakes.answered.held_eq hServes.keepsSession
    obtain ⟨taken, hPersists, hHolds⟩ := hCaptures.persists
    rw [capture_of_not_reuses env hReuses, hRun]
    refine ⟨talk, taken, hMakes, hPersists, fun last earlier h => ?_⟩
    rw [hHeld]
    exact hHolds h

/-! ## 5. Restoring -/

/-- A value read from the cache is the one there, and nothing else happens. -/
theorem sessionValue_spec (key : String) (b : Bench σ) :
    ∃ b', sessionValue env key b = (.ok (filled ((cache b.outside).get? key)), b') ∧
      b'.desk = b.desk ∧ cache b'.outside = cache b.outside ∧ Recalls env cache b b' := by
  have hReply : (b.ask env (.readSession key)).1 = .ok ((cache b.outside).get? key) :=
    hServes.read key b.outside
  have hCall : ¬ ∃ entries, Call.readSession key = .writeSession entries := by simp
  refine ⟨(b.ask env (.readSession key)).2, ?_, rfl, hServes.other hCall b.outside,
    (preserves_recalls hServes).ask hCall b⟩
  rw [sessionValue, Task.bind_ok (ask_run env _ b), hReply]
  rfl

/-- The session cache after a write is the one that took or refused it. -/
theorem ServesSession.cache_write (entries : List (String × String)) (s : σ) :
    cache (env (.writeSession entries) s).2 = ((cache s).write entries).2 := by
  have hWrite := hServes.write entries s
  rw [SessionCache.write]
  cases hStored : (cache s).setMany entries with
  | ok c =>
    rw [hStored] at hWrite
    exact hWrite.2
  | error f =>
    rw [hStored] at hWrite
    exact hWrite.2

/-- The markup of an earlier version moves only if there is none under the present key. -/
theorem moveMarkup_recalls {html : String} {b : Bench σ}
    (hCurrent : filled ((cache b.outside).get? snapshotKey) = none)
    (hEarlier : filled ((cache b.outside).get? earlierSnapshotKey) = some html) :
    Recalls env cache b (b.ask env (.writeSession [(snapshotKey, html)])).2 := by
  refine recalls_ask ?_ fun last earlier h => ?_
  · cases (b.ask env (.writeSession [(snapshotKey, html)])).1 <;> rfl
  · show CachesLast (cache (env (.writeSession [(snapshotKey, html)]) b.outside).2).get? last earlier
    rw [hServes.cache_write]
    rcases (cache b.outside).get?_write [(snapshotKey, html)] with hSame | hHeld
    · rw [hSame]
      exact h
    · rw [hHeld]
      exact h.move hCurrent hEarlier

/-- The markup in the cache is found under its key or else under the earlier one, and is moved there. -/
theorem cachedMarkup_spec (b : Bench σ) :
    ∃ b', cachedMarkup env b =
        (.ok (foundSetting (cache b.outside).get? snapshotKey earlierSnapshotKey), b') ∧
      b'.desk = b.desk ∧ cache b'.outside = (cache b.outside).restored ∧ Recalls env cache b b' := by
  obtain ⟨b₁, hCurrentRun, hDesk₁, hCache₁, hMoves₁⟩ := sessionValue_spec hServes snapshotKey b
  rw [cachedMarkup, Task.bind_ok hCurrentRun, foundSetting, SessionCache.restored]
  cases hCurrent : filled ((cache b.outside).get? snapshotKey) with
  | some html => exact ⟨b₁, rfl, hDesk₁, hCache₁, hMoves₁⟩
  | none =>
    obtain ⟨b₂, hEarlierRun, hDesk₂, hCache₂, hMoves₂⟩ :=
      sessionValue_spec hServes earlierSnapshotKey b₁
    rw [hCache₁] at hEarlierRun hCache₂
    have hDesk := hDesk₂.trans hDesk₁
    have hMoves := isFrame_recalls.trans hMoves₁ hMoves₂
    simp only [Option.none_or]
    rw [Task.bind_ok hEarlierRun]
    cases hEarlier : filled ((cache b.outside).get? earlierSnapshotKey) with
    | none => exact ⟨b₂, rfl, hDesk, hCache₂, hMoves⟩
    | some html =>
      rw [← hCache₂] at hCurrent hEarlier
      have hMoved := moveMarkup_recalls hServes hCurrent hEarlier
      refine ⟨_, rfl, hDesk, ?_, isFrame_recalls.trans hMoves hMoved⟩
      show cache (env (.writeSession [(snapshotKey, html)]) b₂.outside).2 = _
      rw [hServes.cache_write, hCache₂]

/-- Restoring the snapshot puts together what is found in the cache, and puts no capture there. -/
theorem restoreSnapshot_spec (b : Bench σ) :
    ∃ b', restoreSnapshot env b = (.ok (foundSize (cache b.outside).get?), b') ∧
      b'.desk = { b.desk with
        snapshot := b.desk.snapshotAfter (foundPair (cache b.outside).get?) } ∧
      cache b'.outside = (cache b.outside).restored ∧ Recalls env cache b b' := by
  obtain ⟨b₁, hMarkup, hDesk₁, hCache₁, hMoves₁⟩ := cachedMarkup_spec hServes b
  rw [restoreSnapshot, Task.bind_ok hMarkup, foundPair, foundSize]
  cases foundSetting (cache b.outside).get? snapshotKey earlierSnapshotKey with
  | none => exact ⟨b₁, rfl, hDesk₁, hCache₁, hMoves₁⟩
  | some html =>
    obtain ⟨b₂, hScopeRun, hDesk₂, hCache₂, hMoves₂⟩ := sessionValue_spec hServes scopeKey b₁
    rw [hCache₁, SessionCache.scope_restored] at hScopeRun
    have hDesk := hDesk₂.trans hDesk₁
    have hCache := hCache₂.trans hCache₁
    have hMoves := isFrame_recalls.trans hMoves₁ hMoves₂
    simp only [Option.bind_some, Option.map_some]
    rw [Task.bind_ok hScopeRun]
    cases (filled ((cache b.outside).get? scopeKey)).bind Scope.parse? with
    | none => exact ⟨b₂, rfl, hDesk, hCache, hMoves⟩
    | some scope =>
      have hInstall := (preserves_recalls hServes).onDesk (f := fun d =>
        { d with snapshot := some (.ofHtml html scope .unknown) }) (fun _ => rfl) b₂
      refine ⟨_, rfl, ?_, hCache, isFrame_recalls.trans hMoves hInstall⟩
      simp only [hDesk]
      rfl

/-- Restoring puts no capture into the cache. -/
theorem restore_recalls : (restore env).Moves (Recalls env cache) := by
  refine (preserves_recalls hServes).restore (by simp) (by simp) (by simp) (fun _ _ _ _ _ => rfl)
    fun b => ?_
  obtain ⟨b', hRun, -, -, hMoves⟩ := restoreSnapshot_spec hServes b
  rw [hRun]
  exact hMoves

/-- A task that, if it succeeds, leaves the snapshot found in the cache, and else the one that was
there. -/
def Installs (cache : σ → SessionCache) (t : Task σ Unit) : Prop :=
  ∀ b, (∀ e, (t b).1 = .error e → (t b).2.desk.snapshot = b.desk.snapshot) ∧
    ((t b).1 = .ok () →
      (t b).2.desk.snapshot = b.desk.snapshotAfter (foundPair (cache b.outside).get?))

/-- Neither the session cache nor the snapshot changes. -/
def SparesSnapshot (cache : σ → SessionCache) (b b' : Bench σ) : Prop :=
  cache b'.outside = cache b.outside ∧ b'.desk.snapshot = b.desk.snapshot

omit hServes in
/-- Before a snapshot is taken over, anything may happen to other parts. -/
theorem Installs.after {t : Task σ α} {f : α → Task σ Unit} (ht : t.Moves (SparesSnapshot cache))
    (hf : ∀ a, Installs cache (f a)) : Installs cache (t >>= f) := by
  intro b
  obtain ⟨hCache, hSnapshot⟩ := ht b
  rw [Task.bind_run]
  rcases hRun : t b with ⟨e | a, b'⟩
  · rw [hRun] at hSnapshot
    refine ⟨fun _ _ => hSnapshot, fun h => ?_⟩
    cases h
  · rw [hRun] at hCache hSnapshot
    have hRest := hf a b'
    rw [Desk.snapshotAfter, hCache, hSnapshot] at hRest
    exact hRest

theorem preserves_sparesSnapshot :
    Preserves env (fun c => ¬ ∃ entries, c = .writeSession entries) Desk.snapshot
      (SparesSnapshot cache) where
  refl _ := ⟨rfl, rfl⟩
  trans h h' := ⟨h'.1.trans h.1, h'.2.trans h.2⟩
  ask hCall b := ⟨hServes.other hCall b.outside, rfl⟩
  onDesk hView b := ⟨rfl, hView b.desk⟩

/-- **What a restore installs.** -/
theorem restore_installs : Installs cache (restore env) := by
  have hKeeps : Preserves env _ Desk.snapshot (SparesSnapshot cache) :=
    preserves_sparesSnapshot hServes
  have hRead : ∀ key, ¬ ∃ entries, Call.readSetting key = .writeSession entries := by simp
  have hWrite : ∀ key value, ¬ ∃ entries, Call.writeSetting key value = .writeSession entries := by
    simp
  rw [restore_eq]
  refine .after (hKeeps.loadSetting _ _ hRead (hWrite _)) fun found => ?_
  refine .after (hKeeps.takeToken (fun _ _ => rfl) found) fun _ => ?_
  refine .after (hKeeps.loadSetting _ _ hRead (hWrite _)) fun found => ?_
  refine .after (hKeeps.takeQuery (fun _ _ => rfl) found) fun _ => ?_
  refine .after (hKeeps.onDesk fun _ => rfl) fun _ b => ?_
  obtain ⟨b', hRun, hDesk, -⟩ := restoreSnapshot_spec hServes b
  rw [Task.bind_ok hRun]
  refine ⟨fun e h => ?_, fun _ => congrArg Desk.snapshot hDesk⟩
  cases h

end Tasks

end PageQuery
