import PageQuery.Proofs.Workbench.Failure
import PageQuery.Proofs.Workbench.Restoring
/-!
A capture that is handed over.

A workbench writes markup and scope into the session cache as texts under two keys, and another one reads
them there and puts a snapshot together. In between anyone may speak to the outside. What counts is only
that no session write is accepted, since then the cache holds what the capture left (`Said.held_eq`), and
that no store declines what the restore asks for. `capture_is_handed_over` says what is then restored, and
that it passes for a capture where its scope is the one that is wanted.
-/

namespace PageQuery

variable {σ α β : Type}

/-! ## 1. What is said by several workbenches -/

/-- An outside with a session cache, of which each read and each write may fail. -/
structure HoldsSession (env : Environment σ) (held : σ → String → Option String) : Prop where
  read {key : String} {s : σ} {value : Option String} :
    (env (.readSession key) s).1 = .ok value → value = held s key
  keeps : KeepsSession env held

theorem ServesSession.holdsSession {env : Environment σ} {cache : σ → SessionCache}
    (hServes : ServesSession env cache) : HoldsSession env fun s => (cache s).get? where
  read h := (Except.ok.inj ((hServes.read _ _).symm.trans h)).symm
  keeps := hServes.keepsSession

/-- A script holds a session, whatever keys are meant to fail. -/
theorem Script.holdsSession : HoldsSession Script.environment fun s => s.session.get? where
  read {key s value} h := by
    have hRead : s.readSession key = .ok value := h
    rw [readSession] at hRead
    split at hRead
    · cases hRead
    · exact (Except.ok.inj hRead).symm
  keeps := keepsSession

/-- From one state of an outside to another these exchanges took place, each with the environment of some
workbench. -/
inductive Said (env : Nat → Environment σ) : σ → List Exchange → σ → Prop
  | done (s : σ) : Said env s [] s
  | next {s s' : σ} {talk : List Exchange} (i : Nat) (c : Call) :
      Said env (env i c s).2 talk s' → Said env s (⟨c, (env i c s).1⟩ :: talk) s'

namespace Said

variable {env : Nat → Environment σ} {s s₁ s₂ s₃ s' : σ} {talk first second : List Exchange}

theorem append (h : Said env s₁ first s₂) (h' : Said env s₂ second s₃) :
    Said env s₁ (first ++ second) s₃ := by
  induction h with
  | done s => exact h'
  | next i c _ ih => exact .next i c (ih h')

/-- What is said by one workbench is said. -/
theorem of_answered {i : Nat} (h : Answered (env i) s talk s') : Said env s talk s' := by
  induction h with
  | done s => exact .done s
  | next c _ ih => exact .next i c ih

/-- Whoever speaks, without an accepted write the session cache holds what it held. -/
theorem held_eq {held : σ → String → Option String} (hHolds : ∀ i, HoldsSession (env i) held)
    (h : Said env s talk s') (hNone : ∀ x ∈ talk, ¬ x.Caches) : held s' = held s := by
  induction h with
  | done s => rfl
  | @next s s' talk i c _ ih =>
    have hFirst : ¬ (Exchange.mk c (env i c s).1).Caches := hNone _ List.mem_cons_self
    rw [ih fun x hMem => hNone x (List.mem_cons_of_mem _ hMem), (hHolds i).keeps]
    generalize (env i c s).1 = reply at hFirst
    cases c with
    | writeSession entries =>
      cases reply with
      | error f => rfl
      | ok _ => exact absurd ⟨entries, rfl⟩ hFirst
    | _ => rfl

end Said

/-- Every task says something, if only nothing. -/
def Talks (env : Environment σ) (b b' : Bench σ) : Prop := ∃ talk, b.Makes env talk b'

theorem preserves_talks (env : Environment σ) :
    Preserves env (fun _ => True) (fun _ => ()) (Talks env) where
  refl b := ⟨[], .refl env b⟩
  trans := fun ⟨_, h⟩ ⟨_, h'⟩ => ⟨_, h.trans h'⟩
  ask _ b := ⟨_, .ask env _ b⟩
  onDesk _ b := ⟨[], .desk env b _⟩

/-- Every operation says something. -/
theorem perform_talks (env : Environment σ) (op : Operation) :
    (op.perform env).Moves (Talks env) := by
  have hTalks := preserves_talks env
  have hCapture : ∀ force, (PageQuery.capture env force).Moves (Talks env) := fun force =>
    hTalks.capture force trivial (fun _ => trivial) (fun _ => trivial) fun _ _ _ => rfl
  have hWork : ∀ a : Action, (a.work env).Moves (Talks env) := fun a =>
    hTalks.work hCapture (fun _ => trivial) (fun _ _ => trivial) (fun _ _ => trivial)
      (fun _ => trivial) (fun _ _ _ _ _ _ => rfl) fun _ =>
        hTalks.saveToken (fun _ => trivial) fun _ _ _ _ => rfl
  have hRestore : (restore env).Moves (Talks env) :=
    hTalks.restore (fun _ => trivial) (fun _ => trivial) (fun _ => trivial) (fun _ _ _ _ _ => rfl)
      (hTalks.restoreSnapshot (fun _ => trivial) (fun _ => trivial) fun _ _ => rfl)
  exact hTalks.perform hCapture hWork hRestore (fun _ _ => trivial) (fun _ => trivial)
    (fun _ _ _ => rfl) fun _ _ => hTalks.onDesk fun _ => rfl

/-- **Whatever is done at workbenches that share an outside** is said by them. -/
theorem Floor.said_run (env : Nat → Environment σ) :
    ∀ (ops : List (Nat × Operation)) (f : Floor σ),
      Said env f.outside (f.talk env ops) (f.run env ops).outside
  | [], f => .done f.outside
  | (i, op) :: rest, f => by
      obtain ⟨talk, hMakes⟩ := perform_talks (env i) op (f.bench i)
      have hSaid := hMakes.eq_answers rfl
      rw [Floor.talk, ← show talk = answers (env i) f.outside _ from hSaid]
      exact (Said.of_answered hMakes.answered).append (said_run env rest (f.perform env i op))

/-! ## 2. What a capture leaves for others -/

/-- A capture that is new and does not say that the cache was passed over leaves markup and scope there. -/
theorem held_after_capture {env : Environment σ} {held : σ → String → Option String}
    (hHolds : HoldsSession env held) {force : Bool} {b : Bench σ} {s : Snapshot}
    (hNew : ¬ b.desk.Reuses force) (hTaken : (capture env force b).1 = .ok s)
    (hKept : ¬ SaysSkipped (capture env force b).2.desk.status) :
    held (capture env force b).2.outside snapshotKey = some s.html ∧
      held (capture env force b).2.outside scopeKey = some s.scope.name := by
  obtain ⟨talk, outcome, b', hRun, hMakes, hCaptures⟩ := captureAfresh_spec env b
  rw [capture_of_not_reuses env hNew, hRun] at hTaken hKept ⊢
  obtain ⟨found, sent, writes, rfl, -, -, -, hEntries, -⟩ := hCaptures.account
  obtain ⟨-, stored, rfl, hStatus⟩ := hEntries s hTaken
  rw [hStatus, saysSkipped_capturedStatus] at hKept
  rw [hMakes.answered.held_eq hHolds.keeps, foldl_sessionAfter_capture]
  cases stored with
  | error f => exact absurd rfl hKept
  | ok _ =>
    obtain ⟨hHtml, hScope, -⟩ := entriesOver_cacheEntries s (held b.outside)
    exact ⟨hHtml, hScope⟩

/-- A capture that does not use the snapshot at hand asks for the active tab, and if there is one its
first request is to this tab, for the primary scope. -/
theorem capture_asks (env : Environment σ) {force : Bool} {b : Bench σ}
    (hNew : ¬ b.desk.Reuses force) :
    ∃ tab rest, b.Makes env (⟨.activeTab, tab⟩ :: rest) (capture env force b).2 ∧
      ∀ n, tab = .ok n → ∃ reply more,
        rest = ⟨.capture ⟨n, b.desk.options.primary⟩, reply⟩ :: more := by
  obtain ⟨talk, outcome, b', hRun, hMakes, hCaptures⟩ := captureAfresh_spec env b
  obtain ⟨tab, sent, writes, rfl, -, hSent, -⟩ := hCaptures.account
  rw [capture_of_not_reuses env hNew, hRun]
  refine ⟨tab, _, hMakes, fun n hTab => ?_⟩
  obtain ⟨hPursuit, -⟩ := hSent n hTab
  cases hPursuit with
  | @once x hRequest _ => exact ⟨x.answer, writes, by simp [Sent.exchange, hRequest]⟩
  | @twice x y hRequest _ _ _ =>
    exact ⟨x.answer, y.exchange :: writes, by simp [Sent.exchange, hRequest]⟩

/-! ## 3. Restoring where no store declines -/

/-- A store declines a read or a write of a setting, or a read of the session cache. -/
def Exchange.IsDeclined : Exchange → Prop
  | ⟨.readSetting _, .error _⟩ | ⟨.writeSetting _ _, .error _⟩ | ⟨.readSession _, .error _⟩ => True
  | _ => False

/-- A task fails only where a store declines something, now or before. -/
def Task.Heeds (env : Environment σ) (excused : Prop) (t : Task σ α) : Prop :=
  ∀ b, ∃ talk, b.Makes env talk (t b).2 ∧
    (excused ∨ (∃ x ∈ talk, x.IsDeclined) ∨ ∃ a, (t b).1 = .ok a)

namespace Task.Heeds

variable {env : Environment σ} {excused : Prop} {t : Task σ α} {f : α → Task σ β}

theorem bind (ht : t.Heeds env excused) (hf : ∀ a, (f a).Heeds env excused) :
    (t >>= f).Heeds env excused := by
  intro b
  obtain ⟨talk, hMakes, hEnd⟩ := ht b
  rw [Task.bind_run]
  rcases hRun : t b with ⟨e | a, b₁⟩
  · rw [hRun] at hMakes hEnd
    refine ⟨talk, hMakes, hEnd.imp_right fun h => h.imp_right ?_⟩
    rintro ⟨_, hOk⟩
    cases hOk
  · rw [hRun] at hMakes
    obtain ⟨more, hMakes', hEnd'⟩ := hf a b₁
    refine ⟨talk ++ more, hMakes.trans hMakes', hEnd'.imp_right fun h => h.imp_left ?_⟩
    rintro ⟨x, hMem, hDeclined⟩
    exact ⟨x, List.mem_append_right _ hMem, hDeclined⟩

theorem pure (a : α) : Task.Heeds env excused (Pure.pure a) :=
  fun b => ⟨[], .refl env b, Or.inr (Or.inr ⟨a, rfl⟩)⟩

/-- What follows a question that is declined may fail. -/
theorem ask {c : Call} {g : c.Reply → Task σ β}
    (hg : ∀ reply, (g reply).Heeds env (excused ∨ (Exchange.mk c reply).IsDeclined)) :
    (PageQuery.ask env c >>= g).Heeds env excused := by
  intro b
  obtain ⟨talk, hMakes, hEnd⟩ := hg (b.ask env c).1 (b.ask env c).2
  rw [Task.bind_ok (ask_run env c b)]
  refine ⟨_, (Bench.Makes.ask env c b).trans hMakes, ?_⟩
  rcases hEnd with (hExcused | hDeclined) | ⟨x, hMem, hDeclined⟩ | hOk
  · exact Or.inl hExcused
  · exact Or.inr (Or.inl ⟨_, List.mem_cons_self, hDeclined⟩)
  · exact Or.inr (Or.inl ⟨x, List.mem_cons_of_mem _ hMem, hDeclined⟩)
  · exact Or.inr (Or.inr hOk)

theorem orStorage {answer : Except Fault α} (h : ∀ f, answer = .error f → excused) :
    (PageQuery.orStorage answer).Heeds env excused := by
  cases answer with
  | ok a => exact pure a
  | error f => exact fun b => ⟨[], .refl env b, Or.inl (h f rfl)⟩

/-- Work on the desk alone does not fail. -/
theorem of_desk (h : ∀ b, ∃ a d, t b = (.ok a, { b with desk := d })) : t.Heeds env excused := by
  intro b
  obtain ⟨a, d, hRun⟩ := h b
  rw [hRun]
  exact ⟨[], .desk env b d, Or.inr (Or.inr ⟨a, rfl⟩)⟩

theorem loadSetting (env : Environment σ) (key earlier : String) :
    (PageQuery.loadSetting env key earlier).Heeds env False := by
  rw [loadSetting_eq]
  refine ask fun answer => bind (orStorage ?_) fun found => ?_
  · rintro f rfl
    exact Or.inr trivial
  cases filled found with
  | some value => exact pure _
  | none =>
    refine ask fun answer => bind (orStorage ?_) fun found => ?_
    · rintro f rfl
      exact Or.inr trivial
    cases filled found with
    | none => exact pure _
    | some value =>
      refine ask fun answer => bind (orStorage ?_) fun _ => pure _
      rintro f rfl
      exact Or.inr trivial

end Task.Heeds

section Restoring

variable {env : Environment σ} {held : σ → String → Option String}

/-- The session cache holds what it held. -/
def SparesCache (held : σ → String → Option String) (b b' : Bench σ) : Prop :=
  held b'.outside = held b.outside

theorem preserves_sparesCache (hHolds : HoldsSession env held) :
    Preserves env (fun c => ¬ ∃ entries, c = .writeSession entries) (fun _ => ())
      (SparesCache held) where
  refl _ := rfl
  trans h h' := h'.trans h
  ask {c} hCall b := by
    have hSpares : (Exchange.mk c (b.ask env c).1).SparesSession := hCall
    exact (hHolds.keeps c b.outside).trans (hSpares.sessionAfter _)
  onDesk _ _ := rfl

/-- A workbench has the options that it was set up with. -/
theorem preserves_options (env : Environment σ) :
    Preserves env (fun _ => True) Desk.options fun b b' => b'.desk.options = b.desk.options where
  refl _ := rfl
  trans h h' := h'.trans h
  ask _ _ := rfl
  onDesk hView b := hView b.desk

theorem sessionValue_run (env : Environment σ) (key : String) (b : Bench σ) :
    sessionValue env key b =
      (.ok ((b.ask env (.readSession key)).1.toOption.bind filled),
        (b.ask env (.readSession key)).2) := by
  rw [sessionValue, Task.bind_ok (ask_run env _ b)]
  cases (b.ask env (.readSession key)).1 with
  | ok value => rfl
  | error f => rfl

/-- A value that is held is found, unless the read is declined. -/
theorem sessionValue_of_held (hHolds : HoldsSession env held) {key value : String} {b : Bench σ}
    (hHeld : held b.outside key = some value) (hValue : value ≠ "") :
    (Exchange.mk (.readSession key) (b.ask env (.readSession key)).1).IsDeclined ∨
      sessionValue env key b = (.ok (some value), (b.ask env (.readSession key)).2) := by
  rw [sessionValue_run]
  cases hReply : (b.ask env (.readSession key)).1 with
  | error f => exact Or.inl trivial
  | ok found =>
    obtain rfl : found = some value := (hHolds.read hReply).trans hHeld
    have hFilled : filled (some value) = some value := by simp [filled, hValue]
    refine Or.inr ?_
    show (Except.ok (filled (some value)), _) = _
    rw [hFilled]

/-- Look for the markup of an earlier version, and move it. -/
def earlierMarkup (env : Environment σ) : Task σ (Option String) := do
  match ← sessionValue env earlierSnapshotKey with
  | none => return none
  | some html =>
    let _ ← ask env (.writeSession [(snapshotKey, html)])
    return some html

theorem cachedMarkup_eq (env : Environment σ) :
    cachedMarkup env = sessionValue env snapshotKey >>= fun found =>
      match found with
      | some html => pure (some html)
      | none => earlierMarkup env := rfl

theorem earlierMarkup_talks (env : Environment σ) : (earlierMarkup env).Moves (Talks env) := by
  have hTalks := preserves_talks env
  refine hTalks.bind (hTalks.sessionValue _ trivial) fun found => ?_
  cases found with
  | none => exact hTalks.pure _
  | some html => exact hTalks.bind (hTalks.ask trivial) fun _ => hTalks.pure _

/-- Markup that is held is found, unless the read is declined. -/
theorem cachedMarkup_of_held (hHolds : HoldsSession env held) {html : String} {b : Bench σ}
    (hHeld : held b.outside snapshotKey = some html) (hHtml : html ≠ "") :
    ∃ talk, b.Makes env talk (cachedMarkup env b).2 ∧
      ((∃ x ∈ talk, x.IsDeclined) ∨
        (cachedMarkup env b).1 = .ok (some html) ∧ (cachedMarkup env b).2.desk = b.desk ∧
          held (cachedMarkup env b).2.outside = held b.outside) := by
  have hAsked := Bench.Makes.ask env (.readSession snapshotKey) b
  have hSpared := (preserves_sparesCache hHolds).ask (c := .readSession snapshotKey) (by simp) b
  rw [cachedMarkup_eq]
  rcases sessionValue_of_held hHolds hHeld hHtml with hDeclined | hRun
  · rw [Task.bind_ok (sessionValue_run env snapshotKey b)]
    cases (b.ask env (.readSession snapshotKey)).1.toOption.bind filled with
    | some found => exact ⟨_, hAsked, Or.inl ⟨_, List.mem_singleton_self _, hDeclined⟩⟩
    | none =>
      obtain ⟨more, hMore⟩ := earlierMarkup_talks env (b.ask env (.readSession snapshotKey)).2
      exact ⟨_, hAsked.trans hMore, Or.inl ⟨_, List.mem_cons_self, hDeclined⟩⟩
  · rw [Task.bind_ok hRun]
    exact ⟨_, hAsked, Or.inr ⟨rfl, rfl, hSpared⟩⟩

/-- Go on with the markup that was found. -/
def takeMarkup (env : Environment σ) (found : Option String) :
    Task σ (Option (Nat × Option Scope)) := do
  match found with
  | none => return none
  | some html =>
    let scope := (← sessionValue env scopeKey).bind Scope.parse?
    match scope with
    | some s => onDesk fun d => { d with snapshot := some (.ofHtml html s .unknown) }
    | none => pure ()
    return some (html.utf8ByteSize, scope)

theorem restoreSnapshot_eq (env : Environment σ) :
    restoreSnapshot env = cachedMarkup env >>= takeMarkup env := rfl

theorem takeMarkup_talks (env : Environment σ) (found : Option String) :
    (takeMarkup env found).Moves (Talks env) := by
  have hTalks := preserves_talks env
  cases found with
  | none => exact hTalks.pure _
  | some html =>
    refine hTalks.bind (hTalks.sessionValue _ trivial) fun name => ?_
    cases name.bind Scope.parse? with
    | none => exact hTalks.pure _
    | some scope => exact hTalks.bind (hTalks.onDesk fun _ => rfl) fun _ => hTalks.pure _

/-- Markup goes with a scope that is held, unless the read is declined. -/
theorem takeMarkup_of_held (hHolds : HoldsSession env held) (html : String) {scope : Scope}
    {b : Bench σ} (hScope : held b.outside scopeKey = some scope.name) :
    ∃ talk, b.Makes env talk (takeMarkup env (some html) b).2 ∧
      ((∃ x ∈ talk, x.IsDeclined) ∨
        (takeMarkup env (some html) b).1 = .ok (some (html.utf8ByteSize, some scope)) ∧
          (takeMarkup env (some html) b).2.desk.snapshot = some (.ofHtml html scope .unknown)) := by
  have hName : scope.name ≠ "" := by cases scope <;> decide
  have hAsked := Bench.Makes.ask env (.readSession scopeKey) b
  rw [takeMarkup]
  rcases sessionValue_of_held hHolds hScope hName with hDeclined | hRun
  · rw [Task.bind_ok (sessionValue_run env scopeKey b)]
    cases ((b.ask env (.readSession scopeKey)).1.toOption.bind filled).bind Scope.parse? with
    | none => exact ⟨_, hAsked, Or.inl ⟨_, List.mem_singleton_self _, hDeclined⟩⟩
    | some s => exact ⟨_, hAsked.thenDesk _, Or.inl ⟨_, List.mem_singleton_self _, hDeclined⟩⟩
  · rw [Task.bind_ok hRun]
    simp only [Option.bind_some, Scope.parse?_name]
    exact ⟨_, hAsked.thenDesk _, Or.inr ⟨rfl, rfl⟩⟩

/-- A snapshot that is held is taken over, unless a read is declined. -/
theorem restoreSnapshot_of_held (hHolds : HoldsSession env held) {html : String} {scope : Scope}
    {b : Bench σ} (hMarkup : held b.outside snapshotKey = some html) (hHtml : html ≠ "")
    (hScope : held b.outside scopeKey = some scope.name) :
    ∃ talk, b.Makes env talk (restoreSnapshot env b).2 ∧
      ((∃ x ∈ talk, x.IsDeclined) ∨
        (restoreSnapshot env b).1 = .ok (some (html.utf8ByteSize, some scope)) ∧
          (restoreSnapshot env b).2.desk.snapshot = some (.ofHtml html scope .unknown)) := by
  obtain ⟨found, b₁, hRun⟩ := cachedMarkup_completes env b
  obtain ⟨talk, hMakes, hEnd⟩ := cachedMarkup_of_held hHolds hMarkup hHtml
  rw [restoreSnapshot_eq, Task.bind_ok hRun]
  rw [hRun] at hMakes hEnd
  rcases hEnd with ⟨x, hMem, hDeclined⟩ | ⟨hFound, -, hHeld⟩
  · obtain ⟨more, hMore⟩ := takeMarkup_talks env found b₁
    exact ⟨_, hMakes.trans hMore, Or.inl ⟨x, List.mem_append_left _ hMem, hDeclined⟩⟩
  · obtain rfl : found = some html := Except.ok.inj hFound
    have hKept : held b₁.outside scopeKey = some scope.name := (congrFun hHeld scopeKey).trans hScope
    obtain ⟨more, hMore, hEnd⟩ := takeMarkup_of_held hHolds html hKept
    refine ⟨_, hMakes.trans hMore, hEnd.imp_left ?_⟩
    rintro ⟨x, hMem, hDeclined⟩
    exact ⟨x, List.mem_append_right _ hMem, hDeclined⟩

/-- A task that takes over and reports a snapshot that is held, unless a store declines what it asks
for. -/
def Recovers (env : Environment σ) (held : σ → String → Option String) (html : String)
    (scope : Scope) (t : Task σ Unit) : Prop :=
  ∀ b, held b.outside snapshotKey = some html → held b.outside scopeKey = some scope.name →
    ∃ talk, b.Makes env talk (t b).2 ∧
      ((∃ x ∈ talk, x.IsDeclined) ∨
        (t b).1 = .ok () ∧ (t b).2.desk.snapshot = some (.ofHtml html scope .unknown) ∧
          (t b).2.desk.status = restoredStatus (some (html.utf8ByteSize, some scope)))

/-- Before that, anything may be done that fails only where a store declines. -/
theorem Recovers.after {html : String} {scope : Scope} {t : Task σ α} {f : α → Task σ Unit}
    (ht : t.Heeds env False) (hSpares : t.Moves (SparesCache held))
    (hf : ∀ a, Recovers env held html scope (f a)) : Recovers env held html scope (t >>= f) := by
  intro b hMarkup hScope
  obtain ⟨talk, hMakes, hEnd⟩ := ht b
  have hHeld : held (t b).2.outside = held b.outside := hSpares b
  rw [Task.bind_run]
  rcases hRun : t b with ⟨e | a, b₁⟩
  · rw [hRun] at hMakes hEnd
    refine ⟨talk, hMakes, Or.inl ?_⟩
    rcases hEnd with hFalse | hDeclined | ⟨_, hOk⟩
    · exact hFalse.elim
    · exact hDeclined
    · cases hOk
  · rw [hRun] at hMakes hHeld
    rw [← hHeld] at hMarkup hScope
    obtain ⟨more, hMore, hEnd'⟩ := hf a b₁ hMarkup hScope
    refine ⟨_, hMakes.trans hMore, hEnd'.imp_left ?_⟩
    rintro ⟨x, hMem, hDeclined⟩
    exact ⟨x, List.mem_append_right _ hMem, hDeclined⟩

/-- **What a restore makes of a snapshot in the session cache.** Whatever else it finds, it takes over
and reports the snapshot, unless a store declines what it asks for. -/
theorem restore_recovers (hHolds : HoldsSession env held) {html : String} (hHtml : html ≠ "")
    (scope : Scope) : Recovers env held html scope (restore env) := by
  have hKeeps := preserves_sparesCache hHolds
  have hRead : ∀ key, ¬ ∃ entries, Call.readSetting key = .writeSession entries := by simp
  have hWrite : ∀ key value, ¬ ∃ entries, Call.writeSetting key value = .writeSession entries := by
    simp
  rw [restore_eq]
  refine .after (.loadSetting env _ _) (hKeeps.loadSetting _ _ hRead (hWrite _)) fun found => ?_
  refine .after (.of_desk fun b => ⟨_, _, takeToken_run found b⟩)
    (hKeeps.takeToken (fun _ _ => rfl) found) fun _ => ?_
  refine .after (.loadSetting env _ _) (hKeeps.loadSetting _ _ hRead (hWrite _)) fun found => ?_
  refine .after (.of_desk fun b => ⟨_, _, takeQuery_run found b⟩)
    (hKeeps.takeQuery (fun _ _ => rfl) found) fun _ => ?_
  refine .after (.of_desk fun b => ⟨_, _, onDesk_run _ b⟩) (hKeeps.onDesk fun _ => rfl)
    fun _ b hMarkup hScope => ?_
  obtain ⟨found, b₁, hRun⟩ := restoreSnapshot_completes env b
  obtain ⟨talk, hMakes, hEnd⟩ := restoreSnapshot_of_held hHolds hMarkup hHtml hScope
  rw [Task.bind_ok hRun]
  rw [hRun] at hMakes hEnd
  refine ⟨talk, hMakes.thenDesk _, hEnd.imp_right ?_⟩
  rintro ⟨hFound, hSnapshot⟩
  obtain rfl := Except.ok.inj hFound
  exact ⟨rfl, hSnapshot, rfl⟩

end Restoring

theorem restore_options (env : Environment σ) (b : Bench σ) :
    (restore env b).2.desk.options = b.desk.options := by
  have hKeeps := preserves_options env
  exact hKeeps.restore (fun _ => trivial) (fun _ => trivial) (fun _ => trivial)
    (fun _ _ _ _ _ => rfl) (hKeeps.restoreSnapshot (fun _ => trivial) (fun _ => trivial)
      fun _ _ => rfl) b

/-! ## 4. From one workbench to another -/

/-- **A capture is handed over.** Let workbenches share a session cache, which may decline reads and
refuse writes as it likes. One of them captures markup that is not empty, and does not say that the
cache was passed over; then, whoever speaks and whatever is said, no session write is accepted; then
another one restores. Unless a store declines a setting or a read of the cache, the restore succeeds with
a snapshot of the same markup and the same scope, its size that of the markup in UTF-8, and the status
tells that size and scope. If the scope is the primary one of that workbench, a capture that is not
forced then gives this snapshot and asks nothing; otherwise it asks for the active tab, and sends it a
request for the primary scope if there is one. -/
theorem capture_is_handed_over {env : Nat → Environment σ} {held : σ → String → Option String}
    (hHolds : ∀ i, HoldsSession (env i) held) (i j : Nat) {force : Bool} {b b' : Bench σ}
    {s : Snapshot} {between : List Exchange} (hNew : ¬ b.desk.Reuses force)
    (hTaken : (capture (env i) force b).1 = .ok s)
    (hKept : ¬ SaysSkipped (capture (env i) force b).2.desk.status) (hHtml : s.html ≠ "")
    (hBetween : Said env (capture (env i) force b).2.outside between b'.outside)
    (hUntouched : ∀ x ∈ between, ¬ x.Caches) :
    let restored := restore (env j) b'
    let again := capture (env j) false restored.2
    let found : Snapshot := ⟨s.html, s.scope, .unknown, s.html.utf8ByteSize⟩
    ∃ said, b'.Makes (env j) said restored.2 ∧
      ((∃ x ∈ said, x.IsDeclined) ∨
        restored.1 = .ok () ∧ restored.2.desk.snapshot = some found ∧
        restored.2.desk.status = "Restored cached snapshot (" ++ natText s.html.utf8ByteSize ++
          " bytes, scope=" ++ s.scope.name ++ ")." ∧
        (s.scope = b'.desk.options.primary → again = (.ok found, restored.2)) ∧
        (s.scope ≠ b'.desk.options.primary → ∃ tab rest,
          restored.2.Makes (env j) (⟨.activeTab, tab⟩ :: rest) again.2 ∧
          ∀ n, tab = .ok n → ∃ reply more,
            rest = ⟨.capture ⟨n, b'.desk.options.primary⟩, reply⟩ :: more)) := by
  intro restored again found
  obtain ⟨hMarkup, hScope⟩ := held_after_capture (hHolds i) hNew hTaken hKept
  rw [← hBetween.held_eq hHolds hUntouched] at hMarkup hScope
  have hOptions : restored.2.desk.options = b'.desk.options := restore_options (env j) b'
  obtain ⟨said, hMakes, hEnd⟩ := restore_recovers (hHolds j) hHtml s.scope b' hMarkup hScope
  refine ⟨said, hMakes, hEnd.imp_right ?_⟩
  rintro ⟨hOk, hSnapshot, hStatus⟩
  refine ⟨hOk, hSnapshot, hStatus, fun hPrimary => ?_, fun hOther => ?_⟩
  · have hReuses : restored.2.desk.Reuses false :=
      ⟨rfl, found, hSnapshot, by rw [hOptions]; exact hPrimary, hHtml⟩
    obtain ⟨s', hSame, hRun⟩ := capture_of_reuses (env j) hReuses
    obtain rfl : found = s' := Option.some.inj (hSnapshot.symm.trans hSame)
    exact hRun
  · have hAfresh : ¬ restored.2.desk.Reuses false := by
      rintro ⟨-, s', hSame, hPrimary, -⟩
      obtain rfl : found = s' := Option.some.inj (hSnapshot.symm.trans hSame)
      rw [hOptions] at hPrimary
      exact hOther hPrimary
    obtain ⟨tab, rest, hAsks, hFirst⟩ := capture_asks (env j) hAfresh
    rw [hOptions] at hFirst
    exact ⟨tab, rest, hAsks, hFirst⟩

/-- A workbench over a page with an accent in it. -/
def overAccents : Bench Script :=
  .new .standard
    { Script.ofSettings [] with
      tab := .ok 3
      replies := [.ok (.captured ⟨some .full, .full, "<p>é</p>", none⟩)]
      session := .empty 100 }

/-- Another one, after the first captured the page and remembered a query. -/
def besideAccents : Bench Script :=
  .new .standard
    (Script.environment (.writeSetting queryKey "a")
      (capture Script.environment true overAccents).2.outside).2

/-- The page is handed over, and is two bytes longer than it has letters. -/
theorem accents_are_handed_over :
    let captured := capture Script.environment true overAccents
    let restored := restore Script.environment besideAccents
    let found : Snapshot := ⟨"<p>é</p>", .full, .unknown, 9⟩
    ¬ overAccents.desk.Reuses true ∧ captured.1.toOption.map Snapshot.html = some "<p>é</p>" ∧
      ¬ SaysSkipped captured.2.desk.status ∧ restored.2.desk.snapshot = some found ∧
      restored.2.desk.status = "Restored cached snapshot (9 bytes, scope=full)." ∧
      capture Script.environment false restored.2 = (.ok found, restored.2) := by
  intro captured restored found
  have hNew : ¬ overAccents.desk.Reuses true := fun h => Bool.false_ne_true h.1.symm
  have hTaken : captured.1 = .ok ⟨"<p>é</p>", .full, .full, 9⟩ := rfl
  have hStatus : captured.2.desk.status = capturedStatus ⟨"<p>é</p>", .full, .full, 9⟩ true := rfl
  have hKept : ¬ SaysSkipped captured.2.desk.status := by
    rw [hStatus, saysSkipped_capturedStatus]
    simp
  have hBetween : Said (fun _ => Script.environment) captured.2.outside
      [⟨.writeSetting queryKey "a", .ok ()⟩] besideAccents.outside := .next 0 _ (.done _)
  obtain ⟨said, hMakes, hEnd⟩ := capture_is_handed_over (fun _ => Script.holdsSession) 0 1 hNew
    hTaken hKept (by decide) hBetween (by simp [Exchange.Caches])
  have hSaid : said =
      [⟨.readSetting tokenKey, .ok none⟩, ⟨.readSetting earlierTokenKey, .ok none⟩,
        ⟨.readSetting queryKey, .ok (some "a")⟩, ⟨.readSession snapshotKey, .ok (some "<p>é</p>")⟩,
        ⟨.readSession scopeKey, .ok (some "full")⟩] := hMakes.eq_answers rfl
  rcases hEnd with ⟨x, hMem, hDeclined⟩ | ⟨-, hSnapshot, hReport, hAgain, -⟩
  · rw [hSaid] at hMem
    simp only [List.mem_cons, List.not_mem_nil, or_false] at hMem
    rcases hMem with rfl | rfl | rfl | rfl | rfl <;> exact hDeclined.elim
  · exact ⟨hNew, by rw [hTaken]; rfl, hKept, hSnapshot, hReport, hAgain rfl⟩

/-- The settings of this workbench cannot be read. -/
def deafToToken : Environment Script :=
  fun c s => Script.environment c { s with settingsFaults := ⟨[tokenKey], [], .root "fault"⟩ }

/-- A workbench over the same page whose session cache is too small for it. After the capture a token is
saved, and the status is about that. -/
def overflowing : Bench Script :=
  let full : Bench Script :=
    { overAccents with outside := { overAccents.outside with session := .empty 0 } }
  let captured := (capture Script.environment true full).2
  (trigger Script.environment .saveToken
    { captured with desk := { captured.desk with token := "t" } }).2

/-- Not every restore finds what a capture kept: one that fails for its settings does not come to the
cache. And a capture that uses the snapshot at hand offers nothing to the cache, whose refusal the status
may no longer tell. -/
theorem handing_over_may_fail :
    (let captured := capture Script.environment true overAccents
      let restored := restore deafToToken (.new .standard captured.2.outside)
      captured.1.toOption.map Snapshot.html = some "<p>é</p>" ∧
        ¬ SaysSkipped captured.2.desk.status ∧
        restored.1 = .error (.ofStore (.root "fault")) ∧ restored.2.desk.snapshot = none) ∧
    (let captured := capture Script.environment false overflowing
      let restored := restore Script.environment (.new .standard captured.2.outside)
      captured.1.toOption.map Snapshot.html = some "<p>é</p>" ∧
        ¬ SaysSkipped captured.2.desk.status ∧ restored.1 = .ok () ∧
        restored.2.desk.snapshot = none ∧ restored.2.desk.status = "Ready.") := by
  have hKept : (capture Script.environment true overAccents).2.desk.status =
      capturedStatus ⟨"<p>é</p>", .full, .full, 9⟩ true := by decide +kernel
  have hSaved : (capture Script.environment false overflowing).2.desk.status = "Token saved." := by
    decide +kernel
  refine ⟨⟨by decide +kernel, ?_, by decide +kernel, by decide +kernel⟩, by decide +kernel, ?_,
    by decide +kernel, by decide +kernel, by decide +kernel⟩
  · rw [hKept, saysSkipped_capturedStatus]
    simp
  · rw [hSaved]
    intro hSays
    have hLetter : 'c' ∈ "Token saved.".toList := hSays.subset (by decide)
    exact absurd hLetter (by decide)

end PageQuery
